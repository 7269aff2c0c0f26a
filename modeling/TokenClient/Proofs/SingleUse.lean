import TokenClient.Proofs.NonceOrigin
import TokenClient.Proofs.Rehearsal
import TokenClient.Workbench

/-! What becomes of authorizations. An authorization lies on the workbench from the operation that
obtained it to the first one that needs it, which takes it away whether or not it succeeds. Only
operations that take one away sign anything, and they sign at most once. -/
namespace TokenClient

open Token

def Operation.consumes : Operation → Bool
  | .stamp _ | .sign _ | .deploy | .transfer .. | .transferFrom .. | .approve ..
  | .increaseAllowance .. | .decreaseAllowance .. => true
  | _ => false

def Outcome.authorization? : Outcome → Option Authorization
  | .done (.authorization auth) => some auth
  | _ => none

def Outcome.envelope? : Outcome → Option Envelope
  | .done (.envelope envelope) => some envelope
  | _ => none

/-- Nothing that was made has come of the operation. -/
structure Outcome.Plain (outcome : Outcome) : Prop where
  authorization : outcome.authorization? = none
  envelope : outcome.envelope? = none

def Request.raw? : Request → Option Bytes
  | .sendRaw raw => some raw
  | _ => none

/-- An operation as it was carried out. -/
structure Entry where
  operation : Operation
  found : Workbench
  outcome : Outcome
  left : Workbench
  exchanges : List Exchange

namespace Entry

def obtained? (entry : Entry) : Option Authorization := entry.outcome.authorization?

/-- The authorization that lay on the workbench before the operation, if none lies there now. -/
def taken? (entry : Entry) : Option Authorization :=
  if entry.left.authorization = none then entry.found.authorization else none

def broadcasts (entry : Entry) : List Bytes := entry.exchanges.filterMap (·.request.raw?)

/-- What the operation signed. A signature is handed out or broadcast at once; an envelope that is
sent has been signed before. -/
def signed (entry : Entry) : List Bytes :=
  entry.outcome.envelope?.toList.map Envelope.raw ++
    match entry.operation with
    | .send => []
    | _ => entry.broadcasts

end Entry

namespace Workbench

def entry (bench : Workbench) (node : Node) (wire : Wire) (operation : Operation) : Entry :=
  let done := bench.perform operation node wire
  ⟨operation, bench, done.1.1, done.1.2,
    node.exchanges wire.calls (done.2.calls.drop wire.calls.length)⟩

/-- Operations carried out one after another, whatever becomes of each. -/
def history (bench : Workbench) (node : Node) (wire : Wire) : List Operation → List Entry
  | [] => []
  | operation :: rest =>
    let entry := bench.entry node wire operation
    entry :: entry.left.history node (bench.perform operation node wire).2 rest

end Workbench

/-- The parts of a transaction that an authorization fixes. -/
structure Authorization.Fixes (auth : Authorization) (t : Transaction) : Prop where
  nonce : t.nonce = auth.nonce
  gasPrice : t.gasPrice = auth.gasPrice
  gas : t.gas = auth.gasLimit
  chainId : t.chainId = auth.chainId

/-- What an operation may sign with the authorization that it has taken away. -/
inductive Entry.Signs (entry : Entry) (auth : Authorization) : Prop where
  | nothing : entry.signed = [] → entry.broadcasts = [] →
      entry.left.envelope = entry.found.envelope → Signs entry auth
  | envelope (t : Transaction) : auth.Fixes t → entry.signed = [(auth.credential.seal t).raw] →
      entry.broadcasts = [] → entry.left.envelope = some (auth.credential.seal t) →
      Signs entry auth
  | broadcast (t : Transaction) : auth.Fixes t → entry.signed = [(auth.credential.seal t).raw] →
      entry.broadcasts = [(auth.credential.seal t).raw] →
      entry.left.envelope = entry.found.envelope → Signs entry auth

/-- The node has told the terms of the authorization in these exchanges. -/
def Authorization.Told (auth : Authorization) (made : List Exchange) : Prop :=
  ∃ url account, ∀ t, auth.Fixes t → TermsTold url account t made

/-- All that an operation can do about authorizations and envelopes. -/
inductive Entry.Course (entry : Entry) : Prop where
  | idle : entry.obtained? = none → entry.left.authorization = entry.found.authorization →
      entry.left.envelope = entry.found.envelope → entry.signed = [] → entry.broadcasts = [] →
      Course entry
  | resent (envelope : Envelope) : entry.obtained? = none →
      entry.left.authorization = entry.found.authorization →
      entry.left.envelope = entry.found.envelope → entry.signed = [] →
      entry.found.envelope = some envelope → entry.broadcasts = [envelope.raw] → Course entry
  | obtained (auth : Authorization) : entry.obtained? = some auth →
      entry.left.authorization = some auth → entry.left.envelope = entry.found.envelope →
      entry.signed = [] → entry.broadcasts = [] → auth.Told entry.exchanges → Course entry
  | spent (auth : Authorization) : entry.obtained? = none →
      entry.found.authorization = some auth → entry.left.authorization = none →
      entry.Signs auth → Course entry

def Muted (calls : List Call) : Prop := ∀ call ∈ calls, call.request.isBroadcast = false

namespace Client

def Mute (x : Client α) : Prop :=
  ∀ node wire, ∃ made, (x node wire).2.calls = wire.calls ++ made ∧ Muted made

theorem mute_of_follows {x : Client α} {route : γ → Route} {result : γ → α}
    (follows : x.Follows route result) (quiet : ∀ g, (route g).Quiet) : x.Mute := by
  intro node wire
  obtain ⟨made, calls, ends⟩ := follows node wire
  obtain ⟨g, ending, walk, -⟩ := ends.walk
  have begins := walk.calls_prefix
  rw [Node.exchanges_calls] at begins
  exact ⟨made, calls, fun call member => quiet g call (begins.subset member)⟩

theorem mute_read [Nonempty α] (reading : Except Failure α) : (liftM reading : Client α).Mute :=
  mute_of_follows (follows_read reading) fun _ => Route.quiet_of_requests (by simp)

end Client

theorem Session.connect_mute (config : SessionConfig) : (connect config).Mute :=
  Client.mute_of_follows (connect_follows config) fun _ =>
    Route.quiet_of_requests (by simp [connectRoute, Request.isBroadcast])

theorem Session.demand_mute [Nonempty α] (session : Session) {request : Request}
    (read? : Json → Option α) (silent : request.isBroadcast = false) :
    (session.demand request read?).Mute :=
  Client.mute_of_follows (session.demand_follows request read?) fun _ =>
    Route.quiet_of_requests (by simpa using silent)

theorem Session.confirm_mute (session : Session) (hash : TxHash) : (session.confirm hash).Mute :=
  Client.mute_of_follows (session.confirm_follows hash) (session.confirmRoute_quiet hash)

namespace Token.Contract

theorem view_mute [Nonempty α] (contract : Contract) (method : Method)
    (read : Bytes → Except Abi.Fault α) : (contract.view method read).Mute :=
  Client.mute_of_follows (contract.view_follows method read) fun _ =>
    Route.quiet_of_requests (by simp [Request.isBroadcast])

theorem metadata_mute (contract : Contract) : contract.metadata.Mute :=
  Client.mute_of_follows contract.metadata_follows fun _ =>
    Route.quiet_of_requests (by simp [metadataRoute, Request.isBroadcast])

theorem balanceAmount_mute (contract : Contract) (account : Address) (decimals : Nat) :
    (contract.balanceAmount account decimals).Mute :=
  Client.mute_of_follows (contract.balanceAmount_follows account decimals) fun _ =>
    Route.quiet_of_requests (by simp [Request.isBroadcast])

end Token.Contract

theorem Token.Cursor.nextBatch_mute (cursor : Cursor) : cursor.nextBatch.Mute := by
  have head : cursor.headCall.request.isBroadcast = false := rfl
  have logs (n : Nat) : (cursor.logsCall n).request.isBroadcast = false := rfl
  intro node wire
  rw [Cursor.nextBatch_eq]
  split
  · exact ⟨[_], rfl, by simp [Muted, head]⟩
  · next n _ =>
    dsimp only
    split
    · exact ⟨[_], rfl, by simp [Muted, head]⟩
    · refine ⟨[cursor.headCall, cursor.logsCall n], ?_, by simp [Muted, head, logs]⟩
      split <;> simp [Wire.after]

theorem Session.request_mute (session : Session) (credential : Credential) (account : Address)
    (gasLimit : Nat) : (Authorization.request session credential account gasLimit).Mute :=
  Client.mute_of_follows (Authorization.request_follows session credential account gasLimit)
    fun _ => Route.quiet_of_requests (by simp [Authorization.termsRoute, Request.isBroadcast])

theorem Authorization.Drawn.terms_told {url : String} {account : Address} {made : List Exchange}
    {terms : Terms} (drawn : Drawn url account made (.ok terms)) (credential : Credential)
    (gasLimit : Nat) :
    Told ⟨credential, terms.nonce, gasLimit, terms.gasPrice, terms.chainId⟩ made := by
  cases drawn with
  | told _ counted priced placed =>
    refine ⟨url, account, fun t fixes => ⟨_, _, _, rfl, ?_, ?_, ?_⟩⟩
    · rw [counted, fixes.nonce]
    · rw [priced, fixes.gasPrice]
    · rw [placed, fixes.chainId]

/-- A signature is refused, or it is one of a transaction on the terms of the authorization. -/
theorem Authorization.sign_cases (auth : Authorization) (request : TransactionRequest) :
    (∃ failure, auth.sign request = .error failure) ∨
    ∃ t, auth.Fixes t ∧ auth.sign request = .ok (auth.credential.seal t) := by
  unfold sign
  cases request.destination with
  | none => exact .inl ⟨_, rfl⟩
  | some destination => exact .inr ⟨_, ⟨rfl, rfl, rfl, rfl⟩, rfl⟩

namespace Workbench

theorem entry_exchanges {bench : Workbench} {node : Node} {wire : Wire} {operation : Operation}
    {made : List Call}
    (calls : (bench.perform operation node wire).2.calls = wire.calls ++ made) :
    (bench.entry node wire operation).exchanges = node.exchanges wire.calls made := by
  rw [entry, calls, List.drop_left]

theorem entry_broadcasts {bench : Workbench} {node : Node} {wire : Wire} {operation : Operation}
    {made : List Call}
    (calls : (bench.perform operation node wire).2.calls = wire.calls ++ made) :
    (bench.entry node wire operation).broadcasts = made.filterMap (·.request.raw?) := by
  have same : made.filterMap (·.request.raw?) =
      ((node.exchanges wire.calls made).map Exchange.call).filterMap (·.request.raw?) := by
    rw [Node.exchanges_calls]
  rw [Entry.broadcasts, entry_exchanges calls, same, List.filterMap_map]
  rfl

theorem no_raw_of_muted {made : List Call} (muted : Muted made) :
    made.filterMap (·.request.raw?) = [] := by
  rw [List.filterMap_eq_nil_iff]
  intro call member
  have silent := muted call member
  cases asked : call.request <;> simp_all [Request.raw?, Request.isBroadcast]

structure Idles (bench : Workbench) (step : Step) (node : Node) (wire : Wire) : Prop where
  muted : ∃ made, (step node wire).2.calls = wire.calls ++ made ∧ Muted made
  plain : (step node wire).1.1.Plain
  authorization : (step node wire).1.2.authorization = bench.authorization
  envelope : (step node wire).1.2.envelope = bench.envelope

section

variable {bench : Workbench} {node : Node} {wire : Wire} {operation : Operation}

theorem idles_give {outcome : Outcome} {left : Workbench} (plain : outcome.Plain)
    (authorization : left.authorization = bench.authorization)
    (envelope : left.envelope = bench.envelope) :
    Idles bench (give outcome left) node wire :=
  ⟨⟨[], (List.append_nil wire.calls).symm, nofun⟩, plain, authorization, envelope⟩

theorem run_ok {x : Client α} {use : α → Result × Workbench} {a : α} {after : Wire}
    (ran : x node wire = (.ok a, after)) :
    bench.run x use node wire = ((.done (use a).1, (use a).2), after) := by
  rw [run, ran]

theorem run_error {x : Client α} {use : α → Result × Workbench} {failure : Failure} {after : Wire}
    (ran : x node wire = (.error failure, after)) :
    bench.run x use node wire = ((.failed failure, bench), after) := by
  rw [run, ran]

theorem idles_failed {x : Client α} {use : α → Result × Workbench} {failure : Failure}
    {after : Wire} {made : List Call} (ran : x node wire = (.error failure, after))
    (calls : after.calls = wire.calls ++ made) (muted : Muted made) :
    Idles bench (bench.run x use) node wire := by
  constructor <;> rw [run_error ran]
  · exact ⟨made, calls, muted⟩
  · exact ⟨rfl, rfl⟩

theorem idles_run {x : Client α} (mute : x.Mute) {use : α → Result × Workbench}
    (plain : ∀ a, (Outcome.done (use a).1).Plain)
    (kept : ∀ a, (use a).2.authorization = bench.authorization ∧
      (use a).2.envelope = bench.envelope) :
    Idles bench (bench.run x use) node wire := by
  obtain ⟨made, calls, muted⟩ := mute node wire
  rcases ran : x node wire with ⟨failure | a, after⟩
  · rw [ran] at calls
    exact idles_failed ran calls muted
  · rw [ran] at calls
    constructor <;> rw [run_ok ran]
    · exact ⟨made, calls, muted⟩
    · exact plain a
    · exact (kept a).1
    · exact (kept a).2

theorem idles_ask {x : Client α} (mute : x.Mute) {result : α → Result}
    (plain : ∀ a, (Outcome.done (result a)).Plain) : Idles bench (bench.ask x result) node wire :=
  idles_run mute plain fun _ => ⟨rfl, rfl⟩

theorem idles_withSession {step : Session → Step}
    (idles : ∀ session, Idles bench (step session) node wire) :
    Idles bench (bench.withSession step) node wire := by
  unfold withSession
  split
  · exact idles _
  · exact idles_give ⟨rfl, rfl⟩ rfl rfl

theorem idles_withContract {step : Contract → Step}
    (idles : ∀ contract, Idles bench (step contract) node wire) :
    Idles bench (bench.withContract step) node wire := by
  unfold withContract
  split
  · exact idles _
  · exact idles_give ⟨rfl, rfl⟩ rfl rfl

theorem signed_of_silent {entry : Entry} (unsealed : entry.outcome.envelope? = none)
    (silent : entry.broadcasts = []) : entry.signed = [] := by
  unfold Entry.signed
  rw [unsealed, silent]
  cases entry.operation <;> rfl

theorem course_of_idles (idles : Idles bench (bench.perform operation) node wire) :
    (bench.entry node wire operation).Course := by
  obtain ⟨made, calls, muted⟩ := idles.muted
  have silent : (bench.entry node wire operation).broadcasts = [] := by
    rw [entry_broadcasts calls, no_raw_of_muted muted]
  exact .idle idles.plain.authorization idles.authorization idles.envelope
    (signed_of_silent idles.plain.envelope silent) silent

theorem course_of_spent {auth : Authorization} {step : Step}
    (held : bench.authorization = some auth)
    (performs : bench.perform operation = step)
    (idles : Idles { bench with authorization := none } step node wire) :
    (bench.entry node wire operation).Course := by
  subst performs
  obtain ⟨made, calls, muted⟩ := idles.muted
  have silent : (bench.entry node wire operation).broadcasts = [] := by
    rw [entry_broadcasts calls, no_raw_of_muted muted]
  exact .spent auth idles.plain.authorization held idles.authorization
    (.nothing (signed_of_silent idles.plain.envelope silent) silent idles.envelope)

theorem course_of_broadcast {auth : Authorization} {t : Transaction} {asked : List Call}
    {url : String} {outcome : Outcome} {left : Workbench} {after : Wire}
    (held : bench.authorization = some auth) (fixes : auth.Fixes t)
    (stepped : bench.perform operation node wire = ((outcome, left), after))
    (calls : after.calls = wire.calls ++ (asked ++ [⟨url, .sendRaw (auth.credential.seal t).raw⟩]))
    (muted : Muted asked) (plain : outcome.Plain) (taken : left.authorization = none)
    (kept : left.envelope = bench.envelope) (other : operation ≠ .send) :
    (bench.entry node wire operation).Course := by
  have found : (bench.entry node wire operation).outcome = outcome := congrArg (·.1.1) stepped
  have leaves : (bench.entry node wire operation).left = left := congrArg (·.1.2) stepped
  have sent : (bench.entry node wire operation).broadcasts =
      [(auth.credential.seal t).raw] := by
    rw [entry_broadcasts (by rw [stepped, calls]), List.filterMap_append, no_raw_of_muted muted]
    rfl
  have signed : (bench.entry node wire operation).signed = [(auth.credential.seal t).raw] := by
    rw [← sent, Entry.signed, found, plain.envelope]
    change (match operation with | .send => [] | _ => _) = _
    cases operation <;> first | rfl | contradiction
  refine .spent auth ?_ held (leaves ▸ taken) (.broadcast t fixes signed sent (leaves ▸ kept))
  rw [Entry.obtained?, found, plain.authorization]

/-- Either there is no authorization to take, or the operation goes on without it. -/
theorem course_of_withAuthorization {step : Authorization → Workbench → Step}
    (performs : bench.perform operation = bench.withAuthorization step)
    (spends : ∀ auth, bench.authorization = some auth →
      bench.perform operation = step auth { bench with authorization := none } →
      (bench.entry node wire operation).Course) : (bench.entry node wire operation).Course := by
  cases held : bench.authorization with
  | none =>
    apply course_of_idles
    rw [performs, withAuthorization, held]
    exact idles_give ⟨rfl, rfl⟩ rfl rfl
  | some auth => exact spends auth held (by rw [performs, withAuthorization, held])

theorem sign_course (bench : Workbench) (node : Node) (wire : Wire)
    (request : TransactionRequest) : (bench.entry node wire (.sign request)).Course := by
  have takes : bench.perform (.sign request) = bench.withAuthorization fun auth bench =>
      bench.run (auth.sign request) fun envelope =>
        (.envelope envelope, { bench with envelope := some envelope }) := rfl
  refine course_of_withAuthorization takes ?_
  intro auth held performs
  rcases auth.sign_cases request with ⟨failure, refused⟩ | ⟨t, fixes, sealed⟩
  · have ran : (liftM (auth.sign request) : Client Envelope) node wire = (.error failure, wire) :=
      congrArg (·, wire) refused
    exact course_of_spent held performs
      (idles_failed ran (List.append_nil wire.calls).symm nofun)
  · have ran : (liftM (auth.sign request) : Client Envelope) node wire =
        (.ok (auth.credential.seal t), wire) := congrArg (·, wire) sealed
    have stepped := (congrFun (congrFun performs node) wire).trans (run_ok ran)
    have outcome : (bench.entry node wire (.sign request)).outcome =
        .done (.envelope (auth.credential.seal t)) := congrArg (·.1.1) stepped
    have silent : (bench.entry node wire (.sign request)).broadcasts = [] := by
      have calls : (bench.perform (.sign request) node wire).2.calls = wire.calls ++ [] := by
        rw [stepped, List.append_nil]
      exact entry_broadcasts calls
    have signed : (bench.entry node wire (.sign request)).signed =
        [(auth.credential.seal t).raw] := by
      rw [Entry.signed, outcome, silent]
      rfl
    refine .spent auth ?_ held (congrArg (·.1.2.authorization) stepped)
      (.envelope t fixes signed silent (congrArg (·.1.2.envelope) stepped))
    rw [Entry.obtained?, outcome]
    rfl

theorem transact_course {method : Method}
    (performs : bench.perform operation =
      bench.transact fun contract auth => contract.transact auth method)
    (other : operation ≠ .send) : (bench.entry node wire operation).Course := by
  cases bound : bench.contract with
  | none =>
    apply course_of_idles
    rw [performs, transact, withContract, bound]
    exact idles_give ⟨rfl, rfl⟩ rfl rfl
  | some contract =>
    rw [transact, withContract, bound] at performs
    refine course_of_withAuthorization performs ?_
    intro auth held performs
    have ran := contract.transact_eq auth method node wire
    have muted : Muted [contract.trialCall auth method] := by
      simp [Muted, Contract.trialCall, Request.isBroadcast]
    cases tried : Contract.rehearsed method
        (node wire.calls (contract.trialCall auth method)).reply with
    | error failure =>
      simp only [tried] at ran
      exact course_of_spent held performs (idles_failed ran rfl muted)
    | ok _ =>
      simp only [tried] at ran
      have fixes : auth.Fixes (auth.transaction (.account contract.address) method.input) :=
        ⟨rfl, rfl, rfl, rfl⟩
      generalize Session.demanded Json.hash? _ = answer at ran
      have performed := congrFun (congrFun performs node) wire
      cases answer with
      | error failure =>
        exact course_of_broadcast held fixes (performed.trans (run_error ran))
          (List.append_assoc _ _ _) muted ⟨rfl, rfl⟩ rfl rfl other
      | ok hash =>
        exact course_of_broadcast held fixes (performed.trans (run_ok ran))
          (List.append_assoc _ _ _) muted ⟨rfl, rfl⟩ rfl rfl other

theorem deploy_course (bench : Workbench) (node : Node) (wire : Wire) :
    (bench.entry node wire .deploy).Course := by
  have takes : bench.perform .deploy = bench.withAuthorization fun auth bench =>
      bench.withSession fun session =>
        bench.run (Contract.deploy session auth) fun made =>
          (.deployment made.2, { bench with contract := some made.1 }) := rfl
  refine course_of_withAuthorization takes ?_
  intro auth held performs
  cases opened : bench.session with
  | none =>
    refine course_of_spent held performs ?_
    rw [withSession, opened]
    exact idles_give ⟨rfl, rfl⟩ rfl rfl
  | some session =>
    rw [withSession, opened] at performs
    have ran := Contract.deploy_eq session auth node wire
    have performed := congrFun (congrFun performs node) wire
    have fixes : auth.Fixes (auth.transaction .creation Token.code) := ⟨rfl, rfl, rfl, rfl⟩
    dsimp only at ran
    generalize Session.demanded Json.hash? _ = answer at ran
    have muted : Muted [] := nofun
    cases answer with
    | error failure =>
      exact course_of_broadcast held fixes (performed.trans (run_error ran)) rfl muted ⟨rfl, rfl⟩
        rfl rfl nofun
    | ok hash =>
      exact course_of_broadcast held fixes (performed.trans (run_ok ran)) rfl muted ⟨rfl, rfl⟩
        rfl rfl nofun

theorem send_course (bench : Workbench) (node : Node) (wire : Wire) :
    (bench.entry node wire .send).Course := by
  have sends : bench.perform .send = bench.withSession _ := rfl
  cases opened : bench.session with
  | none =>
    apply course_of_idles
    rw [sends, withSession, opened]
    exact idles_give ⟨rfl, rfl⟩ rfl rfl
  | some session =>
    rw [withSession, opened] at sends
    cases kept : bench.envelope with
    | none =>
      apply course_of_idles
      rw [sends, kept]
      exact idles_give ⟨rfl, rfl⟩ rfl rfl
    | some envelope =>
      simp only [kept] at sends
      have ran := session.demand_eq (.sendRaw envelope.raw) Json.hash? node wire
      generalize Session.demanded Json.hash? _ = answer at ran
      have stepped : ∃ outcome : Outcome, outcome.Plain ∧ bench.perform .send node wire =
          ((outcome, bench), wire.after node ⟨session.url, .sendRaw envelope.raw⟩) := by
        rw [sends]
        cases answer with
        | error failure => exact ⟨_, ⟨rfl, rfl⟩, run_error ran⟩
        | ok hash => exact ⟨_, ⟨rfl, rfl⟩, run_ok ran⟩
      obtain ⟨outcome, plain, stepped⟩ := stepped
      have same : (bench.entry node wire .send).outcome = outcome := congrArg (·.1.1) stepped
      have left : (bench.entry node wire .send).left = bench := congrArg (·.1.2) stepped
      have sent : (bench.entry node wire .send).broadcasts = [envelope.raw] :=
        entry_broadcasts (congrArg (·.2.calls) stepped)
      refine .resent envelope ?_ (congrArg authorization left) (congrArg Workbench.envelope left)
        ?_ kept sent
      · rw [Entry.obtained?, same, plain.authorization]
      · rw [Entry.signed, same, plain.envelope]
        rfl

theorem authorize_error {session : Session} {key : String} {address : Option Address}
    {gasLimit : Nat} {failure : Failure} (unread : Credential.read key = .error failure) :
    authorize session key address gasLimit node wire = (.error failure, wire) := by
  rw [authorize, unread]
  rfl

theorem authorize_ok {session : Session} {key : String} {address : Option Address}
    {gasLimit : Nat} {credential : Credential} (read : Credential.read key = .ok credential) :
    authorize session key address gasLimit node wire =
      Authorization.request session credential (address.getD credential.address) gasLimit node
        wire := by
  rw [authorize, read]
  cases address <;> rfl

theorem obtain_course (bench : Workbench) (node : Node) (wire : Wire) (key : String)
    (address : Option Address) (gasLimit : Nat) :
    (bench.entry node wire (.obtain key address gasLimit)).Course := by
  have builds : bench.perform (.obtain key address gasLimit) = bench.withSession fun session =>
      bench.run (authorize session key address gasLimit) fun auth =>
        (.authorization auth, { bench with authorization := some auth }) := rfl
  cases opened : bench.session with
  | none =>
    apply course_of_idles
    rw [builds, withSession, opened]
    exact idles_give ⟨rfl, rfl⟩ rfl rfl
  | some session =>
    rw [withSession, opened] at builds
    cases read : Credential.read key with
    | error failure =>
      apply course_of_idles
      rw [builds]
      exact idles_failed (authorize_error read) (List.append_nil wire.calls).symm nofun
    | ok credential =>
      have asks : authorize session key address gasLimit node wire = _ := authorize_ok read
      generalize address.getD credential.address = account at asks
      obtain ⟨made, calls, muted⟩ := session.request_mute credential account gasLimit node wire
      obtain ⟨made', drawn, calls', told, outcome⟩ :=
        Authorization.request_drawn session credential account gasLimit node wire
      obtain rfl : made = made' := List.append_cancel_left (calls.symm.trans calls')
      rcases ran : Authorization.request session credential account gasLimit node wire
        with ⟨reached, after⟩
      rw [ran] at outcome calls asks
      cases drawn with
      | error failure =>
        cases outcome
        apply course_of_idles
        rw [builds]
        exact idles_failed asks calls muted
      | ok terms =>
        cases outcome
        have stepped := (congrFun (congrFun builds node) wire).trans (run_ok asks)
        have put := congrArg (·.1.1) stepped
        have broadcasts : (bench.entry node wire (.obtain key address gasLimit)).broadcasts =
            [] := by
          rw [entry_broadcasts (by rw [stepped, calls]), no_raw_of_muted muted]
        refine .obtained _ (congrArg Outcome.authorization? put)
          (congrArg (·.1.2.authorization) stepped) (congrArg (·.1.2.envelope) stepped) ?_
          broadcasts ?_
        · exact signed_of_silent (congrArg Outcome.envelope? put) broadcasts
        · rw [entry_exchanges (by rw [stepped, calls])]
          exact told.terms_told credential gasLimit

theorem idles_nextBatch : Idles bench (bench.perform .nextBatch) node wire := by
  cases laid : bench.cursor with
  | none =>
    have missing : bench.perform .nextBatch = give (.missing .cursor) bench := by
      simp only [perform, laid]
    rw [missing]
    exact idles_give ⟨rfl, rfl⟩ rfl rfl
  | some cursor =>
    obtain ⟨made, calls, muted⟩ := cursor.nextBatch_mute node wire
    rcases ran : cursor.nextBatch node wire with ⟨failure | ⟨batch | events, next⟩, after⟩
    all_goals
      rw [ran] at calls
      constructor <;> simp only [perform, laid, ran]
    all_goals first | exact ⟨made, calls, muted⟩ | exact ⟨rfl, rfl⟩

theorem entry_course (bench : Workbench) (node : Node) (wire : Wire) (operation : Operation) :
    (bench.entry node wire operation).Course := by
  cases operation with
  | openSession config =>
    exact course_of_idles (idles_run (Client.mute_read _) (fun _ => ⟨rfl, rfl⟩)
      fun _ => ⟨rfl, rfl⟩)
  | connect config =>
    exact course_of_idles (idles_run (Session.connect_mute config) (fun _ => ⟨rfl, rfl⟩)
      fun _ => ⟨rfl, rfl⟩)
  | showSession =>
    exact course_of_idles (idles_withSession fun _ => idles_give ⟨rfl, rfl⟩ rfl rfl)
  | chainId | gasPrice | blockNumber | pendingNonce | receipt =>
    exact course_of_idles (idles_withSession fun session =>
      idles_ask (session.demand_mute _ rfl) fun _ => ⟨rfl, rfl⟩)
  | confirm hash =>
    exact course_of_idles (idles_withSession fun session =>
      idles_ask (session.confirm_mute hash) fun _ => ⟨rfl, rfl⟩)
  | obtain key address gasLimit => exact obtain_course bench node wire key address gasLimit
  | stamp request =>
    exact course_of_withAuthorization rfl fun auth held performs =>
      course_of_spent held performs (idles_give ⟨rfl, rfl⟩ rfl rfl)
  | sign request => exact sign_course bench node wire request
  | send => exact send_course bench node wire
  | deploy => exact deploy_course bench node wire
  | bind address =>
    exact course_of_idles (idles_withSession fun _ => idles_give ⟨rfl, rfl⟩ rfl rfl)
  | name | symbol | decimals | totalSupply | balanceOf | allowance =>
    exact course_of_idles (idles_withContract fun contract =>
      idles_ask (contract.view_mute _ _) fun _ => ⟨rfl, rfl⟩)
  | balanceAmount account decimals =>
    exact course_of_idles (idles_withContract fun contract =>
      idles_ask (contract.balanceAmount_mute account decimals) fun _ => ⟨rfl, rfl⟩)
  | metadata =>
    exact course_of_idles (idles_withContract fun contract =>
      idles_ask contract.metadata_mute fun _ => ⟨rfl, rfl⟩)
  | transfer | transferFrom | approve | increaseAllowance | decreaseAllowance =>
    exact transact_course rfl nofun
  | eventsFrom block =>
    exact course_of_idles (idles_withContract fun _ => idles_give ⟨rfl, rfl⟩ rfl rfl)
  | restart block =>
    apply course_of_idles
    rw [perform]
    split <;> exact idles_give ⟨rfl, rfl⟩ rfl rfl
  | nextBatch =>
    apply course_of_idles
    exact idles_nextBatch

theorem emptied_run {x : Client α} {use : α → Result × Workbench}
    (empty : bench.authorization = none) (kept : ∀ a, (use a).2.authorization = none) :
    (bench.run x use node wire).1.2.authorization = none := by
  rcases ran : x node wire with ⟨failure | a, after⟩
  · rw [run_error ran]
    exact empty
  · rw [run_ok ran]
    exact kept a

theorem emptied_withAuthorization {step : Authorization → Workbench → Step}
    (emptied : ∀ auth left, left.authorization = none →
      (step auth left node wire).1.2.authorization = none) :
    (bench.withAuthorization step node wire).1.2.authorization = none := by
  cases held : bench.authorization with
  | none =>
    rw [withAuthorization, held]
    exact held
  | some auth =>
    rw [withAuthorization, held]
    exact emptied _ _ rfl

/-- An operation that needs an authorization leaves none behind, however it ends. Only without a
contract that it is about it does not come to that. -/
theorem consumed (bench : Workbench) (node : Node) (wire : Wire) {operation : Operation}
    (consumes : operation.consumes) :
    let entry := bench.entry node wire operation
    entry.left.authorization = none ∨
      (entry.outcome = .missing .contract ∧ entry.left = entry.found ∧ entry.exchanges = []) := by
  cases operation with
  | stamp request => exact .inl (emptied_withAuthorization fun _ _ empty => empty)
  | sign request =>
    exact .inl (emptied_withAuthorization fun _ _ empty => emptied_run empty fun _ => empty)
  | deploy =>
    refine .inl (emptied_withAuthorization fun auth left empty => ?_)
    cases opened : left.session with
    | none =>
      rw [withSession, opened]
      exact empty
    | some session =>
      rw [withSession, opened]
      exact emptied_run empty fun _ => empty
  | transfer | transferFrom | approve | increaseAllowance | decreaseAllowance =>
    cases bound : bench.contract with
    | none =>
      right
      simp only [entry, perform, transact, withContract, bound]
      exact ⟨rfl, rfl, by simp [give, Node.exchanges]⟩
    | some contract =>
      left
      simp only [entry, perform, transact, withContract, bound]
      exact emptied_withAuthorization fun _ _ empty => emptied_run empty fun _ => empty
  | _ => contradiction

end

end Workbench

namespace Entry

/-- Between the operation that obtained an authorization and the one that takes it away nothing
is obtained and nothing taken away. -/
structure Passes (entry : Entry) : Prop where
  obtained : entry.obtained? = none
  taken : entry.taken? = none

theorem taken?_eq_some {entry : Entry} {auth : Authorization} :
    entry.taken? = some auth ↔
      entry.left.authorization = none ∧ entry.found.authorization = some auth := by
  unfold taken?
  split <;> simp [*]

theorem taken?_of_kept {entry : Entry}
    (kept : entry.left.authorization = entry.found.authorization) : entry.taken? = none := by
  unfold taken?
  split
  · next empty => rw [← kept, empty]
  · rfl

/-- Nothing is signed without an authorization that is gone afterwards, and then only once. -/
theorem Course.signed {entry : Entry} (course : entry.Course) :
    entry.signed = [] ∨ ∃ auth t, entry.taken? = some auth ∧ auth.Fixes t ∧
      entry.signed = [(auth.credential.seal t).raw] := by
  cases course with
  | idle _ _ _ nothing | resent _ _ _ _ nothing | obtained _ _ _ _ nothing => exact .inl nothing
  | spent auth _ held gone signs =>
    have taken := taken?_eq_some.mpr ⟨gone, held⟩
    cases signs with
    | nothing nothing => exact .inl nothing
    | envelope t fixes signed | broadcast t fixes signed =>
      exact .inr ⟨auth, t, taken, fixes, signed⟩

theorem Course.length_signed_le {entry : Entry} (course : entry.Course) :
    entry.signed.length ≤ entry.taken?.toList.length := by
  rcases course.signed with nothing | ⟨auth, t, taken, _, signed⟩
  · simp [nothing]
  · simp [taken, signed]

theorem Course.left_authorization {entry : Entry} (course : entry.Course) {auth : Authorization}
    (lies : entry.left.authorization = some auth) :
    (entry.obtained? = some auth ∧ auth.Told entry.exchanges) ∨
      (entry.found.authorization = some auth ∧ entry.Passes) := by
  cases course with
  | idle nothing kept | resent _ nothing kept =>
    exact .inr ⟨kept ▸ lies, nothing, taken?_of_kept kept⟩
  | obtained auth' obtained laid _ _ _ told =>
    obtain rfl : auth' = auth := Option.some.inj (laid.symm.trans lies)
    exact .inl ⟨obtained, told⟩
  | spent _ _ _ gone =>
    rw [gone] at lies
    contradiction

theorem Course.left_envelope {entry : Entry} (course : entry.Course) {envelope : Envelope}
    (lies : entry.left.envelope = some envelope) :
    envelope.raw ∈ entry.signed ∨ entry.found.envelope = some envelope := by
  cases course with
  | idle _ _ kept | resent _ _ _ kept | obtained _ _ _ kept => exact .inr (kept ▸ lies)
  | spent _ _ _ _ signs =>
    cases signs with
    | nothing _ _ kept | broadcast _ _ _ _ kept => exact .inr (kept ▸ lies)
    | envelope t _ signed _ put =>
      obtain rfl := Option.some.inj (put.symm.trans lies)
      exact .inl (by simp [signed])

/-- What is broadcast is signed by the same operation or lay ready. -/
theorem Course.broadcast {entry : Entry} (course : entry.Course) {raw : Bytes}
    (sent : raw ∈ entry.broadcasts) :
    raw ∈ entry.signed ∨ ∃ envelope, entry.found.envelope = some envelope ∧ raw = envelope.raw := by
  cases course with
  | idle _ _ _ _ silent | obtained _ _ _ _ _ silent => simp [silent] at sent
  | resent envelope _ _ _ _ ready once =>
    rw [once, List.mem_singleton] at sent
    exact .inr ⟨envelope, ready, sent⟩
  | spent _ _ _ _ signs =>
    cases signs with
    | nothing _ silent | envelope _ _ _ silent => simp [silent] at sent
    | broadcast t _ signed once => exact .inl (by rwa [signed, ← once])

end Entry

namespace Workbench

theorem history_cons (bench : Workbench) (node : Node) (wire : Wire) (operation : Operation)
    (rest : List Operation) :
    bench.history node wire (operation :: rest) = bench.entry node wire operation ::
      (bench.entry node wire operation).left.history node (bench.perform operation node wire).2
        rest := rfl

theorem carried_of_mem {bench : Workbench} {node : Node} {wire : Wire}
    {operations : List Operation} {entry : Entry}
    (member : entry ∈ bench.history node wire operations) :
    ∃ bench wire operation, entry = Workbench.entry bench node wire operation := by
  induction operations generalizing bench wire with
  | nil => contradiction
  | cons operation rest ih =>
    rcases List.mem_cons.mp member with rfl | later
    · exact ⟨bench, wire, operation, rfl⟩
    · exact ih later

theorem course_of_mem {bench : Workbench} {node : Node} {wire : Wire}
    {operations : List Operation} {entry : Entry}
    (member : entry ∈ bench.history node wire operations) : entry.Course := by
  obtain ⟨bench, wire, operation, rfl⟩ := carried_of_mem member
  exact bench.entry_course node wire operation

section

variable {bench : Workbench} {node : Node} {wire : Wire} {operations : List Operation}

/-- What lies on the workbench has lain there from the beginning, or an earlier operation put it
there; `R` is what is known of the operations since. -/
theorem lies_since (P : Workbench → Prop) (Q R : Entry → Prop)
    (step : ∀ entry : Entry, entry.Course → P entry.left → Q entry ∨ P entry.found ∧ R entry)
    {before after : List Entry} {entry : Entry}
    (place : bench.history node wire operations = before ++ entry :: after)
    (lies : P entry.found) :
    (∃ earlier source between, before = earlier ++ source :: between ∧ Q source ∧
      ∀ other ∈ between, R other) ∨
    (P bench ∧ ∀ other ∈ before, R other) := by
  induction before generalizing bench wire operations with
  | nil =>
    cases operations with
    | nil => contradiction
    | cons operation rest =>
      rw [history_cons] at place
      obtain ⟨rfl, _⟩ := List.cons.inj place
      exact .inr ⟨lies, List.forall_mem_nil R⟩
  | cons first before ih =>
    cases operations with
    | nil => contradiction
    | cons operation rest =>
      rw [history_cons] at place
      obtain ⟨rfl, later⟩ := List.cons.inj place
      rcases ih later with ⟨earlier, source, between, rfl, put, since⟩ | ⟨left, since⟩
      · exact .inl ⟨_ :: earlier, source, between, rfl, put, since⟩
      · rcases step _ (bench.entry_course node wire operation) left with put | ⟨found, passes⟩
        · exact .inl ⟨[], _, before, rfl, put, since⟩
        · exact .inr ⟨found, List.forall_mem_cons.mpr ⟨passes, since⟩⟩

theorem filterMap_cons_toList (f : α → Option β) (a : α) (rest : List α) :
    (a :: rest).filterMap f = (f a).toList ++ rest.filterMap f := by
  cases found : f a <;> simp [found]

/-- The authorizations that are used up are, in order, some of those that were obtained. -/
theorem taken_sublist (bench : Workbench) (node : Node) (wire : Wire)
    (operations : List Operation) :
    ((bench.history node wire operations).filterMap Entry.taken?).Sublist
      (bench.authorization.toList ++
        (bench.history node wire operations).filterMap Entry.obtained?) := by
  induction operations generalizing bench wire with
  | nil => exact List.nil_sublist _
  | cons operation rest ih =>
    have later := ih (bench.entry node wire operation).left
      (bench.perform operation node wire).2
    simp only [history_cons, filterMap_cons_toList]
    change List.Sublist _ ((bench.entry node wire operation).found.authorization.toList ++ _)
    cases bench.entry_course node wire operation with
    | idle nothing kept | resent _ nothing kept =>
      rw [Entry.taken?_of_kept kept, nothing, ← kept]
      exact later
    | obtained auth obtained laid _ _ _ _ =>
      rw [laid] at later
      have gone : (bench.entry node wire operation).taken? = none := by
        rw [Entry.taken?, laid, if_neg nofun]
      rw [gone, obtained]
      exact later.trans (List.sublist_append_right _ _)
    | spent auth nothing held gone _ =>
      rw [gone] at later
      rw [Entry.taken?_eq_some.mpr ⟨gone, held⟩, nothing, held]
      exact later.append_left [auth]

theorem signed_le_taken (bench : Workbench) (node : Node) (wire : Wire)
    (operations : List Operation) :
    ((bench.history node wire operations).flatMap Entry.signed).length ≤
      ((bench.history node wire operations).filterMap Entry.taken?).length := by
  induction operations generalizing bench wire with
  | nil => exact Nat.le_refl 0
  | cons operation rest ih =>
    have first := (bench.entry_course node wire operation).length_signed_le
    have later := ih (bench.entry node wire operation).left
      (bench.perform operation node wire).2
    simp only [history_cons, filterMap_cons_toList, List.flatMap_cons, List.length_append]
    omega

theorem sourced_of_place {before after : List Entry} {entry : Entry} {auth : Authorization}
    (place : ({} : Workbench).history node wire operations = before ++ entry :: after)
    (taken : entry.taken? = some auth) :
    ∃ earlier source between, before = earlier ++ source :: between ∧
      (source.obtained? = some auth ∧ auth.Told source.exchanges) ∧
      ∀ other ∈ between, other.Passes := by
  have held := (Entry.taken?_eq_some.mp taken).2
  rcases lies_since (·.authorization = some auth)
    (fun source => source.obtained? = some auth ∧ auth.Told source.exchanges) Entry.Passes
    (fun entry course lies => course.left_authorization lies) place held with sourced | ⟨lay, _⟩
  · exact sourced
  · contradiction

theorem signed_of_place {before after : List Entry} {entry : Entry} {raw : Bytes}
    (place : ({} : Workbench).history node wire operations = before ++ entry :: after)
    (sent : raw ∈ entry.broadcasts) : raw ∈ (before ++ [entry]).flatMap Entry.signed := by
  have course : entry.Course := course_of_mem (by rw [place]; simp)
  rw [List.flatMap_append, List.mem_append]
  rcases course.broadcast sent with signed | ⟨envelope, ready, rfl⟩
  · exact .inr (by simpa using signed)
  · left
    rcases lies_since (·.envelope = some envelope) (envelope.raw ∈ ·.signed) (fun _ => True)
      (fun entry course lies => (course.left_envelope lies).imp_right (⟨·, trivial⟩)) place ready
      with ⟨earlier, source, between, rfl, signed, _⟩ | ⟨lay, _⟩
    · exact List.mem_flatMap.mpr ⟨source, by simp, signed⟩
    · contradiction

end

/-- What the operations of a history do with authorizations. -/
structure SingleUse (history : List Entry) : Prop where
  /-- Whatever needs an authorization leaves none behind, however it ends. Only without a contract
  that it is about it does not come to that. -/
  consumed : ∀ entry ∈ history, entry.operation.consumes →
    entry.left.authorization = none ∨
      (entry.outcome = .missing .contract ∧ entry.left = entry.found ∧ entry.exchanges = [])
  /-- An authorization that is used up was obtained by an earlier operation, and since then nothing
  was obtained and nothing used up. -/
  sourced : ∀ before entry after auth, history = before ++ entry :: after →
    entry.taken? = some auth → ∃ earlier source between, before = earlier ++ source :: between ∧
      source.obtained? = some auth ∧ ∀ other ∈ between, other.Passes
  inOrder : (history.filterMap Entry.taken?).Sublist (history.filterMap Entry.obtained?)
  /-- What is signed is the one signature with an authorization that the operation used up, on the
  terms that the node told when this authorization was obtained. -/
  signed : ∀ before entry after raw, history = before ++ entry :: after → raw ∈ entry.signed →
    entry.signed = [raw] ∧ ∃ auth t earlier source between url account,
      entry.taken? = some auth ∧ raw = (auth.credential.seal t).raw ∧ t.gas = auth.gasLimit ∧
      before = earlier ++ source :: between ∧ source.obtained? = some auth ∧
      (∀ other ∈ between, other.Passes) ∧ TermsTold url account t source.exchanges ∧
      (t.accessList = none → t.gas < 2 ^ 64 → t.input.length < 2 ^ 32 →
        Transaction.ofRaw raw = some (t, auth.credential.sign t.signingHash))
  counted : (history.flatMap Entry.signed).length ≤ (history.filterMap Entry.obtained?).length
  /-- Nothing is broadcast that has not been signed. -/
  broadcast : ∀ before entry after raw, history = before ++ entry :: after →
    raw ∈ entry.broadcasts → raw ∈ (before ++ [entry]).flatMap Entry.signed

/-- From an empty workbench on, no authorization is used twice, whatever the operations are and
wherever the node makes them fail. -/
theorem history_singleUse (node : Node) (wire : Wire) (operations : List Operation) :
    SingleUse (({} : Workbench).history node wire operations) where
  consumed entry member consumes := by
    obtain ⟨bench, wire, operation, rfl⟩ := carried_of_mem member
    exact bench.consumed node wire consumes
  sourced before entry after auth place taken := by
    obtain ⟨earlier, source, between, shape, ⟨obtained, _⟩, since⟩ := sourced_of_place place taken
    exact ⟨earlier, source, between, shape, obtained, since⟩
  inOrder := taken_sublist {} node wire operations
  signed before entry after raw place signed := by
    have course : entry.Course := course_of_mem (by rw [place]; simp)
    rcases course.signed with nothing | ⟨auth, t, taken, fixes, once⟩
    · simp [nothing] at signed
    · obtain rfl : raw = (auth.credential.seal t).raw := by simpa [once] using signed
      obtain ⟨earlier, source, between, shape, ⟨obtained, url, account, told⟩, since⟩ :=
        sourced_of_place place taken
      obtain ⟨_, _, _, _, nonce, gasPrice, chainId⟩ := told t fixes
      exact ⟨once, auth, t, earlier, source, between, url, account, taken, rfl, fixes.gas, shape,
        obtained, since, told t fixes, fun older gas short =>
          auth.credential.ofRaw_seal older (understood_quantity_lt nonce) gas
            (understood_quantity_lt gasPrice) (understood_quantity_lt chainId) short⟩
  counted := Nat.le_trans (signed_le_taken {} node wire operations)
    (taken_sublist {} node wire operations).length_le
  broadcast _ _ _ _ place sent := signed_of_place place sent

/-- The deployment fails at its broadcast, and the second one finds no authorization. -/
def failingDeployments : List Operation :=
  [.openSession {}, .obtain "0000000000000000000000000000000000000000000000000000000000000001"
    (some 0xa5) 90000, .deploy, .deploy]

theorem history_singleUse_failing :
    let history := ({} : Workbench).history Authorization.countingNode .idle failingDeployments
    history.map (·.obtained?.isSome) = [false, true, false, false] ∧
      history.map (·.taken?.isSome) = [false, false, true, false] ∧
      (history.flatMap Entry.signed).length ≤ 1 := by
  intro history
  have obtained : history.map (·.obtained?.isSome) = [false, true, false, false] := by
    decide +kernel
  have taken : history.map (·.taken?.isSome) = [false, false, true, false] := by decide +kernel
  have counted := (history_singleUse Authorization.countingNode .idle failingDeployments).counted
  refine ⟨obtained, taken, ?_⟩
  have few : (history.filterMap Entry.obtained?).length ≤ 1 := by decide +kernel
  exact Nat.le_trans counted few

end Workbench
end TokenClient
