import TokenClient.Proofs.Pacing

/-! When a wait for a receipt begins, and on what terms. Up to a broadcast that the node accepts,
time passes only while replies are outstanding; from there on the run waits as its session says,
and what it does later it does after the wait. -/
namespace TokenClient

open Token

/-- Requests that neither broadcast anything nor ask for a receipt. -/
def Request.isPlain : Request → Bool
  | .sendRaw _ | .receipt _ => false
  | _ => true

/-- A broadcast that the node has taken under this hash. -/
def Exchange.Takes (exchange : Exchange) (hash : TxHash) : Prop :=
  (∃ raw, exchange.request = .sendRaw raw) ∧ exchange.reply.understood Json.hash? = .ok hash

theorem Exchange.Takes.accepted {exchange : Exchange} {hash : TxHash}
    (takes : exchange.Takes hash) : exchange.Accepted := by
  obtain ⟨⟨raw, sent⟩, told⟩ := takes
  exact ⟨raw, hash, sent, told⟩

def Taken (made : List Exchange) (hash : TxHash) : Prop := ∃ sent ∈ made, sent.Takes hash

theorem Node.idle_of_plain {node : Node} {past made : List Call}
    (plain : ∀ call ∈ made, call.request.isPlain) :
    ∀ exchange ∈ node.exchanges past made, ¬ exchange.Accepted := by
  intro exchange member accepted
  have called := List.mem_map_of_mem (f := Exchange.call) member
  rw [Node.exchanges_calls] at called
  have silent := plain _ called
  obtain ⟨raw, _, sent, _⟩ := accepted
  rw [Exchange.request] at sent
  rw [sent] at silent
  contradiction

section Showing

variable {σ α β : Type} {wire : σ → Wire}

/-- How a computation starts and ends, and what it does to the wire on the way. -/
abbrev Conduct (α : Type) := Node → Wire → Except Failure α → Wire → Prop

/-- Whatever the node replies, the computation conducts itself in this way. -/
def Shows (wire : σ → Wire) (x : Node → σ → Except Failure α × σ) (conduct : Conduct α) : Prop :=
  ∀ node state, conduct node (wire state) (x node state).1 (wire (x node state).2)

/-- One conduct after another is this one; a failure of the first is a failure of the whole. -/
structure Chains (first : Conduct α) (second : α → Conduct β) (whole : Conduct β) : Prop where
  fails : ∀ {node start failure final}, first node start (.error failure) final →
    whole node start (.error failure) final
  joins : ∀ {node start a middle outcome final}, first node start (.ok a) middle →
    second a node middle outcome final → whole node start outcome final

theorem Shows.sequence {x : Node → σ → Except Failure α × σ}
    {f : α → Node → σ → Except Failure β × σ} {y : Node → σ → Except Failure β × σ}
    {first : Conduct α} {second : α → Conduct β} {whole : Conduct β}
    (chains : Chains first second whole) (leads : Shows wire x first)
    (follows : ∀ a, Shows wire (f a) (second a))
    (inTurn : ∀ node state, y node state = match x node state with
      | (.ok a, state) => f a node state
      | (.error failure, state) => (.error failure, state)) : Shows wire y whole := by
  intro node state
  have shown := leads node state
  rw [inTurn node state]
  rcases ran : x node state with ⟨failure | a, middle⟩
  · rw [ran] at shown
    exact chains.fails shown
  · rw [ran] at shown
    exact chains.joins shown (follows a node middle)

end Showing

namespace Client

variable {α β : Type}

theorem shows_bind {x : Client α} {f : α → Client β} {first : Conduct α} {second : α → Conduct β}
    {whole : Conduct β} (chains : Chains first second whole) (leads : Shows id x first)
    (follows : ∀ a, Shows id (f a) (second a)) : Shows id (x >>= f) whole :=
  Shows.sequence chains leads follows fun node wire => by
    change Client.bind x f node wire = _
    rw [Client.bind]
    rcases x node wire with ⟨_ | _, _⟩ <;> rfl

end Client

namespace Shell

variable {α β : Type}

theorem shows_bind {x : Shell α} {f : α → Shell β} {first : Conduct α} {second : α → Conduct β}
    {whole : Conduct β} (chains : Chains first second whole) (leads : Shows Desk.wire x first)
    (follows : ∀ a, Shows Desk.wire (f a) (second a)) : Shows Desk.wire (x >>= f) whole :=
  Shows.sequence chains leads follows fun node desk => by
    change Shell.bind x f node desk = _
    rw [Shell.bind]
    rcases x node desk with ⟨_ | _, _⟩ <;> rfl

theorem shows_talk {x : Client α} {conduct : Conduct α} (shown : Shows id x conduct) :
    Shows Desk.wire (liftM x : Shell α) conduct :=
  fun node desk => shown node desk.wire

end Shell

section Conducts

variable {α β : Type}

/-- Plain requests, one right behind the other, and no failure of a wait. -/
structure Plain (node : Node) (start : Wire) (outcome : Except Failure α) (final : Wire) :
    Prop where
  requests : ∃ made, final = start.afterAll node made ∧ ∀ call ∈ made, call.request.isPlain
  brief : Brief outcome

/-- Plain requests and then a broadcast; it succeeds just with a hash that the node tells. -/
inductive Posts (hash : α → TxHash) : Conduct α where
  | taken : (∀ call ∈ made, call.request.isPlain) →
      (⟨call, (node (start.calls ++ made) call).reply⟩ : Exchange).Takes (hash a) →
      Posts hash node start (.ok a) (start.afterAll node (made ++ [call]))
  | failed {failure : Failure} : final.calls = start.calls ++ made →
      Calm (node.exchanges start.calls made) (.error failure : Except Failure α) →
      Posts hash node start (.error failure) final

/-- A wait for a receipt. Without one the whole fails as the wait does; with one there may be plain
requests behind it, and no breakdown. -/
def Awaits (session : Session) (hash : TxHash) : Conduct α := fun node start outcome final =>
  ∃ later, final = (session.await hash node start).2.afterAll node later ∧
    (∀ call ∈ later, call.request.isPlain) ∧
    match (session.await hash node start).1 with
    | .error failure => later = [] ∧ outcome = .error failure
    | .ok _ => Unbroken outcome

/-- A wait for a receipt, and no failure of a wait once there is one. -/
structure Heeds (session : Session) (hash : TxHash) (node : Node) (start : Wire)
    (outcome : Except Failure α) (final : Wire) : Prop where
  awaits : Awaits session hash node start outcome final
  brief : ∀ receipt, (session.await hash node start).1 = .ok receipt → Brief outcome

/-- A broadcast that is accepted is waited for; there is at most one. -/
inductive Timed (session : Session) : Conduct α where
  | idle (made : List Call) : final.calls = start.calls ++ made →
      Calm (node.exchanges start.calls made) outcome → Timed session node start outcome final
  | waited (made : List Call) (call : Call) (hash : TxHash) :
      (∀ call ∈ made, call.request.isPlain) →
      (⟨call, (node (start.calls ++ made) call).reply⟩ : Exchange).Takes hash →
      Heeds session hash node (start.afterAll node (made ++ [call])) outcome final →
      Timed session node start outcome final

variable {node : Node} {start middle final : Wire} {outcome : Except Failure α}
  {failure : Failure} {session : Session} {hash : TxHash}

theorem Calm.failed {made : List Exchange} (calm : Calm made (.error failure : Except Failure α)) :
    Calm made (.error failure : Except Failure β) :=
  ⟨calm.idle, brief_error.mpr (brief_error.mp calm.brief)⟩

theorem Plain.failed (plain : Plain node start (.error failure : Except Failure α) final) :
    Plain node start (.error failure : Except Failure β) final :=
  ⟨plain.requests, brief_error.mpr (brief_error.mp plain.brief)⟩

theorem Plain.append {first : Except Failure α} {second : Except Failure β}
    (leads : Plain node start first middle) (follows : Plain node middle second final) :
    Plain node start second final := by
  obtain ⟨made, rfl, plain⟩ := leads.requests
  obtain ⟨more, rfl, later⟩ := follows.requests
  refine ⟨⟨made ++ more, (start.afterAll_append node made more).symm, ?_⟩, follows.brief⟩
  rw [List.forall_mem_append]
  exact ⟨plain, later⟩

theorem Plain.calm (plain : Plain node start outcome final) :
    ∃ made, final.calls = start.calls ++ made ∧ Calm (node.exchanges start.calls made) outcome := by
  obtain ⟨made, rfl, silent⟩ := plain.requests
  exact ⟨made, start.calls_afterAll node made, Node.idle_of_plain silent, plain.brief⟩

theorem Plain.timed (plain : Plain node start outcome final) :
    Timed session node start outcome final := by
  obtain ⟨made, extended, calm⟩ := plain.calm
  exact .idle made extended calm

theorem Awaits.failed (waits : Awaits session hash node start (.error failure : Except Failure α)
    final) : Awaits session hash node start (.error failure : Except Failure β) final := by
  obtain ⟨later, same, plain, ends⟩ := waits
  refine ⟨later, same, plain, ?_⟩
  cases waited : (session.await hash node start).1 with
  | error reason =>
    rw [waited] at ends
    obtain ⟨none, ended⟩ := ends
    cases ended
    exact ⟨none, rfl⟩
  | ok receipt =>
    rw [waited] at ends
    exact unbroken_error.mpr (unbroken_error.mp ends)

theorem Awaits.append {a : α} {outcome : Except Failure β}
    (waits : Awaits session hash node start (.ok a) middle)
    (follows : Plain node middle outcome final) :
    Awaits session hash node start outcome final := by
  obtain ⟨later, rfl, plain, ends⟩ := waits
  obtain ⟨more, rfl, still⟩ := follows.requests
  refine ⟨later ++ more, (Wire.afterAll_append _ _ _ _).symm, ?_, ?_⟩
  · rw [List.forall_mem_append]
    exact ⟨plain, still⟩
  · cases waited : (session.await hash node start).1 with
    | error reason =>
      rw [waited] at ends
      exact nomatch ends.2
    | ok receipt => exact follows.brief.unbroken

theorem Heeds.failed (waits : Heeds session hash node start (.error failure : Except Failure α)
    final) : Heeds session hash node start (.error failure : Except Failure β) final where
  awaits := waits.awaits.failed
  brief receipt received := brief_error.mpr (brief_error.mp (waits.brief receipt received))

theorem Heeds.append {a : α} {outcome : Except Failure β}
    (waits : Heeds session hash node start (.ok a) middle)
    (follows : Plain node middle outcome final) :
    Heeds session hash node start outcome final where
  awaits := waits.awaits.append follows
  brief _ _ := follows.brief

theorem plain_plain : Chains (Plain (α := α)) (fun _ => Plain (α := β)) Plain where
  fails := Plain.failed
  joins := Plain.append

theorem plain_timed :
    Chains (Plain (α := α)) (fun _ => Timed (α := β) session) (Timed session) where
  fails plain := plain.failed.timed
  joins := by
    intro node start a middle outcome final leads follows
    obtain ⟨made, rfl, plain⟩ := leads.requests
    cases follows with
    | idle more extended calm =>
      rw [Wire.calls_afterAll] at extended calm
      rw [List.append_assoc] at extended
      refine .idle _ extended ⟨?_, calm.brief⟩
      rw [Node.exchanges_append]
      exact not_accepted_append (Node.idle_of_plain plain) calm.idle
    | waited more call hash later takes waits =>
      rw [Wire.calls_afterAll, List.append_assoc] at takes
      rw [← Wire.afterAll_append, ← List.append_assoc] at waits
      refine .waited _ call hash ?_ takes waits
      rw [List.forall_mem_append]
      exact ⟨plain, later⟩

theorem posts_heeds {hash : α → TxHash} :
    Chains (Posts hash) (fun a => Heeds (α := β) session (hash a)) (Timed session) where
  fails posts := by
    cases posts with
    | failed extended calm => exact .idle _ extended calm.failed
  joins := by
    intro node start a middle outcome final posts waits
    cases posts with
    | taken plain takes => exact .waited _ _ _ plain takes waits

theorem heeds_plain :
    Chains (Heeds (α := α) session hash) (fun _ => Plain (α := β)) (Heeds session hash) where
  fails := Heeds.failed
  joins := Heeds.append

theorem timed_plain :
    Chains (Timed (α := α) session) (fun _ => Plain (α := β)) (Timed session) where
  fails timed := by
    cases timed with
    | idle made extended calm => exact .idle made extended calm.failed
    | waited made call hash plain takes waits =>
      exact .waited made call hash plain takes waits.failed
  joins := by
    intro node start a middle outcome final timed follows
    cases timed with
    | idle made extended calm =>
      obtain ⟨more, further, later⟩ := follows.calm
      rw [extended] at further later
      refine .idle (made ++ more) (further.trans (List.append_assoc _ _ _)) ⟨?_, later.brief⟩
      rw [Node.exchanges_append]
      exact not_accepted_append calm.idle later.idle
    | waited made call hash plain takes waits =>
      exact .waited made call hash plain takes (waits.append follows)

theorem posts_of_reply {made : List Call} (plain : ∀ call ∈ made, call.request.isPlain)
    (url : String) (raw : Bytes) (result : TxHash → α) {hash : α → TxHash}
    (told : ∀ found, hash (result found) = found) :
    Posts hash node start
      ((Session.demanded Json.hash? (node (start.calls ++ made) ⟨url, .sendRaw raw⟩).reply).map
        result)
      (start.afterAll node (made ++ [⟨url, .sendRaw raw⟩])) := by
  have reports := Session.demanded_reports Json.hash?
    (node (start.calls ++ made) ⟨url, .sendRaw raw⟩).reply
  cases answer : Session.demanded Json.hash?
      (node (start.calls ++ made) ⟨url, .sendRaw raw⟩).reply with
  | error failure =>
    rw [answer] at reports
    refine .failed (start.calls_afterAll node _)
      ⟨?_, (reports_error.mpr (reports_error.mp reports)).brief nofun⟩
    rw [Node.exchanges_append]
    refine not_accepted_append (Node.idle_of_plain plain) ?_
    rintro exchange member ⟨_, found, _, understood⟩
    obtain rfl := List.mem_singleton.mp member
    rw [Session.demanded_iff.mpr understood] at answer
    contradiction
  | ok found =>
    refine .taken plain ⟨⟨raw, rfl⟩, ?_⟩
    rw [told]
    exact Session.demanded_iff.mp answer

end Conducts

namespace Session

/-- No poll breaks down. The induction is on the polls still due. -/
theorem poll_unbroken (schedule : Schedule) (url : String) (hash : TxHash) (number : Nat)
    (node : Node) (wire : Wire) : Unbroken (schedule.poll url hash number node wire).1 := by
  fun_induction Schedule.poll schedule url hash number node wire with
  | case4 _ _ _ _ _ _ _ _ _ _ _ ih => exact ih
  | case5 => exact unbroken_ok _
  | case1 | case2 | case3 | case6 => exact unbroken_error.mpr (by simp)

theorem await_unbroken {session : Session} (positive : 0 < session.config.pollInterval)
    (hash : TxHash) (node : Node) (wire : Wire) : Unbroken (session.await hash node wire).1 := by
  rw [await, dif_pos positive]
  exact poll_unbroken _ _ _ _ _ _

theorem await_unpaced {session : Session} (none : session.config.pollInterval = 0)
    (hash : TxHash) (node : Node) (wire : Wire) :
    session.await hash node wire = (.error .zeroPollInterval, wire) := by
  rw [await, dif_neg (by omega)]

theorem await_idle (session : Session) (hash : TxHash) (node : Node) (wire : Wire) :
    ∃ polls, (session.await hash node wire).2.calls = wire.calls ++ polls ∧
      ∀ exchange ∈ node.exchanges wire.calls polls, ¬ exchange.Accepted := by
  obtain ⟨polls, extended, ends⟩ := session.await_follows hash node wire
  obtain ⟨wait, ending, walk, -⟩ := ends.walk
  have quiet : (session.pollRoute hash wait).Quiet :=
    (Route.quiet_append.mp (session.confirmRoute_quiet hash wait)).1
  refine ⟨polls, extended, fun exchange member accepted => ?_⟩
  exact walk.not_mem_of_quiet quiet accepted.isBroadcast member

end Session

/-- Where a wait begins, what was exchanged is plain, then the broadcast, the polls and plain
requests again. -/
theorem Awaits.calls {session : Session} {hash : TxHash} {node : Node} {start final : Wire}
    {front : List Call} {call : Call} {outcome : Except Failure α}
    (waits : Awaits session hash node (start.afterAll node (front ++ [call])) outcome final) :
    ∃ rest, final.calls = start.calls ++ (front ++ call :: rest) ∧
      ∀ exchange ∈ node.exchanges (start.calls ++ front ++ [call]) rest, ¬ exchange.Accepted := by
  obtain ⟨later, rfl, plain, -⟩ := waits
  obtain ⟨polls, polled, idle⟩ :=
    session.await_idle hash node (start.afterAll node (front ++ [call]))
  refine ⟨polls ++ later, by simp [polled], ?_⟩
  rw [Wire.calls_afterAll, ← List.append_assoc] at idle
  rw [Node.exchanges_append]
  exact not_accepted_append idle (Node.idle_of_plain plain)

/-- A broadcast that the node has accepted is the one that the wait is for. -/
theorem Timed.heeds {session : Session} {node : Node} {start final : Wire}
    {outcome : Except Failure α} {made : List Call} {before after : List Exchange}
    {exchange : Exchange} {hash : TxHash} (timed : Timed session node start outcome final)
    (extended : final.calls = start.calls ++ made)
    (place : node.exchanges start.calls made = before ++ exchange :: after)
    (takes : exchange.Takes hash) :
    Heeds session hash node (start.afterAll node (before.map Exchange.call ++ [exchange.call]))
      outcome final := by
  cases timed with
  | idle all same calm =>
    obtain rfl := List.append_cancel_left (same.symm.trans extended)
    exact absurd takes.accepted (calm.idle exchange (by simp [place]))
  | waited front call told plain taken waits =>
    obtain ⟨rest, shape, idle⟩ := waits.awaits.calls
    obtain rfl := List.append_cancel_left (extended.symm.trans shape)
    rw [Node.exchanges_append, Node.exchanges] at place
    obtain ⟨rfl, rfl, rfl⟩ := (List.append_cons_inj_of_notMem
      (fun member => Node.idle_of_plain plain exchange member takes.accepted)
      (fun member => idle exchange member takes.accepted)).mp place
    cases takes.2.symm.trans taken.2
    rwa [Node.exchanges_calls]

/-- Where no broadcast is accepted, no wait fails. -/
theorem Timed.brief_or_taken {session : Session} {node : Node} {start final : Wire}
    {outcome : Except Failure α} {made : List Call} (timed : Timed session node start outcome final)
    (extended : final.calls = start.calls ++ made) :
    Brief outcome ∨ ∃ hash, Taken (node.exchanges start.calls made) hash := by
  cases timed with
  | idle all same calm => exact .inl calm.brief
  | waited front call hash plain takes waits =>
    obtain ⟨rest, shape, -⟩ := waits.awaits.calls
    obtain rfl := List.append_cancel_left (extended.symm.trans shape)
    refine .inr ⟨hash, _, ?_, takes⟩
    rw [Node.exchanges_append]
    exact List.mem_append_right _ (.head _)

section Basics

variable {α : Type}

theorem plain_ask {x : Client α} (call : Call) (plain : call.request.isPlain)
    {reading : Reply → Except Failure α} (brief : ∀ reply, Brief (reading reply))
    (asks : ∀ node wire, x node wire =
      (reading (node wire.calls call).reply, wire.after node call)) : Shows id x Plain := by
  intro node wire
  rw [asks node wire]
  refine ⟨⟨[call], rfl, ?_⟩, brief _⟩
  rw [List.forall_mem_singleton]
  exact plain

theorem plain_still {σ : Type} {wire : σ → Wire} {x : Node → σ → Except Failure α × σ}
    (still : ∀ node state, wire (x node state).2 = wire state)
    (brief : ∀ node state, Brief (x node state).1) : Shows wire x Plain :=
  fun node state => ⟨⟨[], still node state, nofun⟩, brief node state⟩

theorem plain_pure (a : α) : Shows id (pure a : Client α) Plain :=
  plain_still (fun _ _ => rfl) fun _ _ => brief_ok a

theorem Brief.plain {reading : Except Failure α} (brief : Brief reading) :
    Shows id (liftM reading : Client α) Plain :=
  plain_still (fun _ _ => rfl) fun _ _ => brief

theorem Reports.plain {reading : Except Failure α} (reports : Reports .own reading) :
    Shows id (liftM reading : Client α) Plain := (reports.brief nofun).plain

namespace Shell

theorem plain_read {reading : Except Failure α} (brief : Brief reading) :
    Shows Desk.wire (liftM reading : Shell α) Plain :=
  plain_still (fun _ _ => rfl) fun _ _ => brief

theorem plain_files : Shows Desk.wire files Plain :=
  plain_still (fun _ _ => rfl) fun _ desk => brief_ok desk.files

theorem plain_store {change : Storage → Except Failure α × Storage}
    (brief : ∀ files, Brief (change files).1) : Shows Desk.wire (store change) Plain :=
  plain_still (fun _ _ => rfl) fun _ desk => brief desk.files

theorem plain_print (lines : List String) : Shows Desk.wire (print lines) Plain :=
  plain_still (fun _ _ => rfl) fun _ _ => brief_ok ()

end Shell

theorem Session.plain_demand (session : Session) {request : Request} (plain : request.isPlain)
    (read? : Json → Option α) : Shows id (session.demand request read?) Plain :=
  plain_ask ⟨session.url, request⟩ plain (fun reply => (demanded_reports read? reply).brief nofun)
    (session.demand_eq request read?)

theorem Session.plain_greet (session : Session) : Shows id session.greet Plain :=
  plain_ask ⟨session.url, .chainId⟩ rfl
    (fun reply => (greeted_reports session.config reply).brief nofun) session.greet_eq

theorem Session.heeds_await (session : Session) (hash : TxHash) :
    Shows id (session.await hash) (Heeds session hash) := by
  intro node wire
  refine ⟨⟨[], rfl, nofun, ?_⟩, ?_⟩
  · dsimp only [id]
    cases (session.await hash node wire).1 with
    | error failure => exact ⟨rfl, rfl⟩
    | ok receipt => exact unbroken_ok receipt
  · intro receipt received
    have success : (session.await hash node wire).1 = .ok receipt := received
    rw [success]
    exact brief_ok receipt

theorem Session.heeds_confirm (session : Session) (hash : TxHash) :
    Shows id (session.confirm hash) (Heeds session hash) := by
  refine Client.shows_bind heeds_plain (session.heeds_await hash) fun receipt => ?_
  split
  · exact plain_pure receipt
  · exact Brief.plain (brief_error.mpr nofun)

theorem Authorization.plain_forCredential (session : Session) (credential : Credential)
    (gasLimit : Nat) : Shows id (forCredential session credential gasLimit) Plain := by
  unfold forCredential
  rw [request_inOrder]
  exact Client.shows_bind plain_plain (permitted_reports _).plain fun _ =>
    Client.shows_bind plain_plain (session.plain_demand rfl _) fun _ =>
    Client.shows_bind plain_plain (session.plain_demand rfl _) fun _ =>
    Client.shows_bind plain_plain (session.plain_demand rfl _) fun _ => plain_pure _

namespace Token.Contract

theorem plain_view (contract : Contract) (method : Method)
    (read : Bytes → Except Abi.Fault α) : Shows id (contract.view method read) Plain :=
  plain_ask ⟨contract.session.url, .call none contract.address method.input⟩ rfl
    (fun reply => (viewed_reports method read reply).brief nofun) (contract.view_eq method read)

theorem plain_metadata (contract : Contract) : Shows id contract.metadata Plain :=
  Client.shows_bind plain_plain (contract.plain_view .name Abi.text) fun _ =>
    Client.shows_bind plain_plain (contract.plain_view .symbol Abi.text) fun _ =>
    Client.shows_bind plain_plain (contract.plain_view .decimals Abi.small) fun _ => plain_pure _

theorem plain_balanceAmount (contract : Contract) (account : Address) (decimals : Nat) :
    Shows id (contract.balanceAmount account decimals) Plain :=
  Client.shows_bind plain_plain (contract.plain_view _ Abi.word) fun _ => plain_pure _

theorem transact_posts (contract : Contract) (auth : Authorization) (method : Method) :
    Shows id (contract.transact auth method) (Posts id) := by
  intro node wire
  have plain : ∀ call ∈ [contract.trialCall auth method], call.request.isPlain := by
    rw [List.forall_mem_singleton]
    rfl
  have reports := rehearsed_reports method
    (node wire.calls (contract.trialCall auth method)).reply
  rw [transact_eq]
  dsimp only
  cases tried : rehearsed method (node wire.calls (contract.trialCall auth method)).reply with
  | error failure =>
    rw [tried] at reports
    exact .failed rfl ⟨Node.idle_of_plain plain,
      (reports_error.mpr (reports_error.mp reports)).brief nofun⟩
  | ok _ =>
    have posts : Posts id node wire _ _ := posts_of_reply plain contract.session.url
      (auth.raw (.account contract.address) method.input) id fun _ => rfl
    rwa [Except.map_id] at posts

theorem deploy_posts (session : Session) (auth : Authorization) :
    Shows id (deploy session auth) (Posts fun made => made.2.hash) := by
  intro node wire
  have none : ∀ call ∈ ([] : List Call), call.request.isPlain := nofun
  let made (hash : TxHash) : Contract × Deployment :=
    (⟨session, auth.sender.created auth.nonce⟩,
      ⟨auth.sender.created auth.nonce, auth.sender, hash⟩)
  have posts : Posts (fun pair : Contract × Deployment => pair.2.hash) node wire _ _ :=
    posts_of_reply none session.url (auth.raw .creation Token.code) made fun _ => rfl
  rw [List.append_nil] at posts
  rw [deploy_eq]
  exact posts

end Token.Contract
end Basics

namespace Action

variable (s : Settings) (session : Session)

theorem deploy_timed (key : String) : Shows id (deploy s session key) (Timed session) :=
  Client.shows_bind plain_timed (Credential.read_reports key).plain fun deployer =>
    Client.shows_bind plain_timed (Authorization.plain_forCredential session deployer s.gasLimit)
      fun auth =>
    Client.shows_bind posts_heeds (Contract.deploy_posts session auth) fun (_, deployment) =>
    Client.shows_bind heeds_plain (session.heeds_confirm deployment.hash) fun _ => plain_pure _

/-- The way of every state-changing call: terms, rehearsal, broadcast and the wait for it. -/
theorem dispatch_timed {α : Type} (contract : Contract) (signer : Credential) (method : Method)
    {report : TxHash → Client α} (plain : ∀ hash, Shows id (report hash) Plain) :
    Shows id (do
      let auth ← Authorization.forCredential session signer s.gasLimit
      let hash ← contract.transact auth method
      let _ ← session.confirm hash
      report hash : Client α) (Timed session) :=
  Client.shows_bind plain_timed (Authorization.plain_forCredential session signer s.gasLimit)
      fun auth =>
    Client.shows_bind posts_heeds (contract.transact_posts auth method) fun hash =>
    Client.shows_bind heeds_plain (session.heeds_confirm hash) fun _ => plain hash

theorem queryTransfer_timed (contract key receiver : String) (amount : Option String) :
    Shows id (queryTransfer s session contract key receiver amount) (Timed session) :=
  Client.shows_bind plain_timed (contractAt_reports session contract).plain fun contract =>
    Client.shows_bind plain_timed (Credential.read_reports key).plain fun deployer =>
    Client.shows_bind plain_timed (Account.resolveRecipient_reports receiver).plain fun _ =>
    Client.shows_bind plain_timed contract.plain_metadata fun _ =>
    Client.shows_bind plain_timed (parseAmount_reports _ _).plain fun _ =>
    Client.shows_bind plain_timed (contract.plain_balanceAmount _ _) fun _ =>
    Client.shows_bind plain_timed (contract.plain_balanceAmount _ _) fun _ =>
    dispatch_timed s session contract deployer _ fun _ =>
    Client.shows_bind plain_plain (contract.plain_balanceAmount _ _) fun _ =>
    Client.shows_bind plain_plain (contract.plain_balanceAmount _ _) fun _ => plain_pure _

theorem approve_timed (contract key spender amount : String) :
    Shows id (approve s session contract key spender amount) (Timed session) :=
  Client.shows_bind plain_timed (contractAt_reports session contract).plain fun contract =>
    Client.shows_bind plain_timed (Credential.read_reports key).plain fun owner =>
    Client.shows_bind plain_timed (Account.resolveRecipient_reports spender).plain fun _ =>
    Client.shows_bind plain_timed (contract.plain_view .decimals Abi.small) fun _ =>
    Client.shows_bind plain_timed (parseAmount_reports amount _).plain fun _ =>
    dispatch_timed s session contract owner _ fun _ => plain_pure _

theorem transferFrom_timed (contract key owner recipient amount : String) :
    Shows id (transferFrom s session contract key owner recipient amount) (Timed session) :=
  Client.shows_bind plain_timed (contractAt_reports session contract).plain fun contract =>
    Client.shows_bind plain_timed (Credential.read_reports key).plain fun spender =>
    Client.shows_bind plain_timed (Account.resolve_reports owner).plain fun _ =>
    Client.shows_bind plain_timed (Account.resolveRecipient_reports recipient).plain fun _ =>
    Client.shows_bind plain_timed (contract.plain_view .decimals Abi.small) fun _ =>
    Client.shows_bind plain_timed (parseAmount_reports amount _).plain fun _ =>
    dispatch_timed s session contract spender _ fun _ => plain_pure _

end Action

namespace Command

theorem report_timed {x : Client α} {session : Session} (timed : Shows id x (Timed session))
    (lines : α → List String) :
    Shows Desk.wire (do Shell.print (lines (← x)) : Shell Unit) (Timed session) :=
  Shell.shows_bind timed_plain (Shell.shows_talk timed) fun _ => Shell.plain_print _

theorem carryOut_timed (s : Settings) (session : Session) (command : Command) :
    Shows Desk.wire (command.carryOut s session) (Timed session) := by
  by_cases reads : command.signs = false
  · intro node desk
    obtain ⟨made, extended, ends⟩ := command.carryOut_follows s session node desk
    exact .idle made extended (ends.calm (fun f => command.errand_quiet s session f reads)
      fun f => command.errand_brief s session f reads)
  · cases command with
    | deploy key => exact report_timed (Action.deploy_timed s session key) _
    | queryTransfer contract key receiver amount =>
      exact report_timed (Action.queryTransfer_timed s session contract key receiver amount) _
    | approve contract key spender amount =>
      exact report_timed (Action.approve_timed s session contract key spender amount) _
    | transferFrom contract key owner recipient amount =>
      refine Shell.shows_bind timed_plain (Shell.shows_talk
        (Action.transferFrom_timed s session contract key owner recipient amount)) fun moved => ?_
      exact Shell.shows_bind plain_plain (Shell.plain_print _) fun _ =>
        Shell.shows_bind plain_plain (Shell.shows_talk (moved.contract.plain_view _ Abi.word))
          fun _ => Shell.plain_print _
    | _ => exact absurd rfl reads

/-- Plain requests that end with a session on these terms, where they succeed. -/
def Connects (config : SessionConfig) : Conduct Session := fun node start outcome final =>
  Plain node start outcome final ∧ ∀ session, outcome = .ok session →
    Session.new config = .ok session

/-- The conduct in the session on these terms; without a session there is nothing to wait for. -/
def TimedOn (config : SessionConfig) : Conduct α := fun node start outcome final =>
  Plain node start outcome final ∨
    ∃ session, Session.new config = .ok session ∧ Timed session node start outcome final

theorem connects_timed {config : SessionConfig} :
    Chains (Connects config) (fun session => Timed (α := α) session) (TimedOn config) where
  fails connects := .inl connects.1.failed
  joins := by
    rintro node start session middle outcome final ⟨plain, created⟩ timed
    exact .inr ⟨session, created session rfl, plain_timed.joins plain timed⟩

theorem connect_connects (config : SessionConfig) :
    Shows id (Session.connect config) (Connects config) := by
  have plain : Shows id (Session.connect config) Plain :=
    Client.shows_bind plain_plain ((Session.new_reports config).brief nofun).plain fun session =>
      Client.shows_bind plain_plain session.plain_greet fun _ => plain_pure _
  exact fun node wire => ⟨plain node wire, fun session opened => (Session.connect_ok opened).1⟩

theorem online_timed (s : Settings) (command : Command) :
    Shows Desk.wire (command.online s) (TimedOn s.session) :=
  Shell.shows_bind connects_timed (Shell.shows_talk (connect_connects s.session)) fun session =>
    command.carryOut_timed s session

end Command
end TokenClient
