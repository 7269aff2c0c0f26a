import TokenClient.Proofs.CommandDialogue

/-! The requests of a run. Each command has one sequence of requests; a run makes the first ones of
them and stops at the first reply that it cannot use. -/
namespace TokenClient

open Token

def Exchange.request (exchange : Exchange) : Request := exchange.call.request

namespace Route

/-- Along this route exactly these requests are made, or, where a walk ends early, the first ones
of them. -/
def Spells (route : Route) (requests : List Request) : Prop :=
  ∀ made ending, Walk route made ending →
    made.map Exchange.request <+: requests ∧
    (ending = none → made.map Exchange.request = requests)

theorem spells_requests (route : Route) : route.Spells (route.calls.map Call.request) := by
  intro made ending walk
  have split : made.map Exchange.request = (made.map Exchange.call).map Call.request := by
    rw [List.map_map]; rfl
  rw [split]
  refine ⟨walk.calls_prefix.map _, ?_⟩
  rintro rfl
  rw [walk.calls_of_arrived]

theorem Spells.append {first second : Route} {before after : List Request}
    (spells : first.Spells before) (later : second.Spells after) :
    (first ++ second).Spells (before ++ after) := by
  intro made ending walk
  rcases walk.split with ⟨failure, rfl, halted⟩ | ⟨made, more, rfl, done, rest⟩
  · have begins := (spells _ _ halted).1
    exact ⟨begins.trans (List.prefix_append _ _), nofun⟩
  · have same := (spells _ _ done).2 rfl
    obtain ⟨begins, whole⟩ := later _ _ rest
    rw [List.map_append, same]
    refine ⟨(List.prefix_append_right_inj before).mpr begins, ?_⟩
    intro ended
    rw [whole ended]

end Route

namespace Session

theorem polls_requests (session : Session) (hash : TxHash) (n : Nat) :
    (Route.calls (List.replicate n
      (session.demandStage (.receipt hash) Receipt.answer? none))).map Call.request =
      List.replicate n (.receipt hash) := by
  induction n with
  | zero => rfl
  | succ n ih => simpa [List.replicate_succ] using ih

theorem confirmRoute_calls (session : Session) (hash : TxHash) (wait : Wait) :
    ∀ call ∈ (session.confirmRoute hash wait).calls, call = ⟨session.url, .receipt hash⟩ := by
  have polls : ∀ call ∈ Route.calls (List.replicate wait.pending
      (session.demandStage (.receipt hash) Receipt.answer? none)),
      call = ⟨session.url, .receipt hash⟩ := by
    intro call member
    obtain ⟨stage, repeated, asks⟩ := List.mem_filterMap.mp member
    obtain rfl := List.eq_of_mem_replicate repeated
    exact (Option.some.inj asks).symm
  unfold confirmRoute pollRoute
  simp only [Route.calls_append, List.forall_mem_append]
  refine ⟨⟨polls, ?_⟩, nofun⟩
  cases closing : wait.closing <;> simp [closingStage, closing]

/-- A wait that is given up between two polls does not make its last request; then it does not
come to its end either. -/
theorem confirm_spells (session : Session) (hash : TxHash) (wait : Wait) :
    (session.confirmRoute hash wait).Spells
      (List.replicate (wait.pending + 1) (.receipt hash)) := by
  have counted := Route.spells_requests (session.confirmRoute hash wait)
  have polls := session.polls_requests hash wait.pending
  unfold confirmRoute pollRoute at counted ⊢
  rw [List.replicate_succ']
  cases closing : wait.closing with
  | included | late =>
    simpa [closingStage, closing, polls] using counted
  | expired | unpaced =>
    intro made ending walk
    have begins := (counted made ending walk).1
    simp only [closingStage, closing, Route.calls_append, Route.calls_read, Route.calls_nil,
      List.append_nil, polls] at begins
    refine ⟨begins.trans (List.prefix_append _ _), ?_⟩
    rintro rfl
    simp [Walk.append_none_iff, closingStage, closing] at walk

end Session

namespace Findings

def view (f : Findings) (method : Method) : Request :=
  .call none f.contract.address method.input

def metadataViews (f : Findings) : List Request := [f.view .name, f.view .symbol, f.view .decimals]

def balanceViews (f : Findings) : List Request :=
  [f.view (.balanceOf f.signer.address), f.view (.balanceOf f.partner)]

def termsRequests (f : Findings) : List Request :=
  [.transactionCount f.signer.address, .gasPrice, .chainId]

/-- At least one question for the receipt. -/
def receipts (f : Findings) : List Request := List.replicate (f.wait.pending + 1) (.receipt f.hash)

/-- Terms, the rehearsal of a call, its broadcast and the wait for its receipt. -/
def submission (f : Findings) (s : Settings) (method : Method) : List Request :=
  f.termsRequests ++ [.call (some f.signer.address) f.contract.address method.input,
    .sendRaw ((f.auth s).raw (.account f.contract.address) method.input)] ++ f.receipts

end Findings

def Command.sequence (s : Settings) (f : Findings) : Command → List Request
  | .deploy _ =>
    .chainId :: f.termsRequests ++ [.sendRaw ((f.auth s).raw .creation Token.code)] ++ f.receipts
  | .queryTransfer .. =>
    .chainId :: f.metadataViews ++ f.balanceViews ++
      f.submission s (.transfer f.partner f.amount.raw) ++ f.balanceViews
  | .info _ => .chainId :: f.metadataViews ++ [f.view .totalSupply]
  | .balance .. => .chainId :: f.metadataViews ++ [f.view (.balanceOf f.holder)]
  | .allowance .. => [.chainId, f.view .decimals, f.view (.allowance f.holder f.partner)]
  | .approve .. => [.chainId, f.view .decimals] ++ f.submission s (.approve f.partner f.amount.raw)
  | .transferFrom .. =>
    [.chainId, f.view .decimals] ++
      f.submission s (.transferFrom f.holder f.partner f.amount.raw) ++
      [f.view (.allowance f.holder f.signer.address)]
  | .events _ fromBlock =>
    [.chainId, f.view .decimals, .blockNumber] ++
      if fromBlock ≤ f.head then [.logs f.contract.address fromBlock f.head] else []
  | .transactionStatus _ => [.chainId, .receipt f.hash]
  | .initSettings _ | .showSettings => []

theorem Findings.dispatch_spells (f : Findings) (s : Settings) (session : Session)
    (method : Method) : (f.dispatch s session method).Spells (f.submission s method) := by
  have sent := Route.spells_requests (Authorization.termsRoute session f.signer.address f.terms ++
    f.contract.transactRoute (f.auth s) method f.hash)
  have whole := sent.append (session.confirm_spells f.hash f.wait)
  simpa [dispatch, submission, termsRequests, receipts, Authorization.termsRoute,
    Contract.transactRoute, auth, Authorization.sender] using whole

theorem Command.route_spells (command : Command) (s : Settings) (f : Findings)
    (online : command.isOnline) : (command.route s f).Spells (command.sequence s f) := by
  have greeting := Route.spells_requests (Session.connectRoute s.session f.session f.chain)
  have plain := Route.spells_requests (command.route s f)
  cases command with
  | deploy key =>
    have sent := Route.spells_requests (.read (Credential.read key) f.signer ::
      Authorization.termsRoute f.session f.signer.address f.terms ++
        Contract.deployRoute f.session (f.auth s) f.hash)
    have whole := greeting.append (sent.append (f.session.confirm_spells f.hash f.wait))
    simpa [route, errand, sequence, Session.connectRoute, Authorization.termsRoute,
      Contract.deployRoute, Findings.termsRequests, Findings.receipts] using whole
  | queryTransfer contract key receiver amount =>
    have asked := Route.spells_requests ([.read (Action.contractAt f.session contract) f.contract,
        .read (Credential.read key) f.signer,
        .read (Account.resolveRecipient receiver) f.partner] ++
      f.contract.metadataRoute f.metadata ++
      .read (Action.parseAmount (amount.getD s.transferAmount) f.metadata.decimals) f.amount ::
      f.balances f.before)
    have done := Route.spells_requests (f.balances f.after)
    have whole := greeting.append (asked.append ((f.dispatch_spells s f.session
      (.transfer f.partner f.amount.raw)).append done))
    simpa [route, errand, sequence, Session.connectRoute, Contract.metadataRoute, Findings.balances,
      Findings.metadataViews, Findings.balanceViews, Findings.view] using whole
  | approve contract key spender amount =>
    have asked := Route.spells_requests [.read (Action.contractAt f.session contract) f.contract,
      .read (Credential.read key) f.signer, .read (Account.resolveRecipient spender) f.partner,
      f.decimalsStage, .read (Action.parseAmount amount f.metadata.decimals) f.amount]
    have whole := greeting.append (asked.append (f.dispatch_spells s f.session
      (.approve f.partner f.amount.raw)))
    simpa [route, errand, sequence, Session.connectRoute, Findings.decimalsStage,
      Findings.view] using whole
  | transferFrom contract key owner recipient amount =>
    have asked := Route.spells_requests [.read (Action.contractAt f.session contract) f.contract,
      .read (Credential.read key) f.signer, .read (Account.resolve owner) f.holder,
      .read (Account.resolveRecipient recipient) f.partner, f.decimalsStage,
      .read (Action.parseAmount amount f.metadata.decimals) f.amount]
    have left := Route.spells_requests
      [f.contract.viewStage (.allowance f.holder f.signer.address) Abi.word f.word]
    have whole := greeting.append (asked.append ((f.dispatch_spells s f.session
      (.transferFrom f.holder f.partner f.amount.raw)).append left))
    simpa [route, errand, movingErrand, sequence, Session.connectRoute, Findings.decimalsStage,
      Findings.view] using whole
  | events contract fromBlock =>
    by_cases behind : f.head < fromBlock
    · have short : ¬ fromBlock ≤ f.head := by omega
      simpa [route, errand, sequence, Session.connectRoute, Findings.decimalsStage, Findings.view,
        Cursor.batchRoute, Contract.eventsFrom, behind, short] using plain
    · have ahead : fromBlock ≤ f.head := by omega
      simpa [route, errand, sequence, Session.connectRoute, Findings.decimalsStage, Findings.view,
        Cursor.batchRoute, Cursor.logsCall, Contract.eventsFrom, behind, ahead] using plain
  | info | balance | allowance | transactionStatus =>
    simpa [route, errand, sequence, Session.connectRoute, Contract.metadataRoute,
      Findings.decimalsStage, Findings.metadataViews, Findings.view] using plain
  | initSettings | showSettings => simp [isOnline] at online

/-- A stage that does not go on where the reply to its question is not a result. -/
def Stage.Strict : Stage → Prop
  | .read _ _ => True
  | .ask _ reading _ =>
    ∀ reply fault, reply.read = .error fault → ∃ failure, reading reply = .error failure

def Route.Strict (route : Route) : Prop := ∀ stage ∈ route, stage.Strict

theorem Walk.last_of_fault {route : Route} {made before after : List Exchange}
    {exchange : Exchange} {fault : RpcFault} {ending : Option Failure}
    (walk : Walk route made ending) (strict : route.Strict)
    (place : made = before ++ exchange :: after) (refused : exchange.reply.read = .error fault) :
    after = [] ∧ ending.isSome := by
  induction walk generalizing before with
  | arrived | unreadable => simp at place
  | readOn _ _ ih => exact ih (fun stage member => strict stage (.tail _ member)) place
  | refused =>
    have alone := congrArg List.length place
    simp only [List.length_append, List.length_cons, List.length_nil] at alone
    refine ⟨List.eq_nil_of_length_eq_zero (by omega), rfl⟩
  | answered read _ ih =>
    cases before with
    | nil =>
      obtain ⟨rfl, rfl⟩ := List.cons.inj place
      obtain ⟨failure, failed⟩ := strict _ (.head _) _ _ refused
      rw [read] at failed
      contradiction
    | cons first before =>
      obtain ⟨rfl, rest⟩ := List.cons.inj place
      exact ih (fun stage member => strict stage (.tail _ member)) rest

namespace Route

@[simp] theorem strict_nil : Route.Strict [] := nofun

@[simp] theorem strict_cons {stage : Stage} {rest : Route} :
    Route.Strict (stage :: rest) ↔ stage.Strict ∧ rest.Strict := by simp [Route.Strict]

@[simp] theorem strict_append {first second : Route} :
    Route.Strict (first ++ second) ↔ first.Strict ∧ second.Strict := by
  simp [Route.Strict, or_imp, forall_and]

end Route

@[simp] theorem Stage.strict_read (reading : Except Failure α) (value : α) :
    (Stage.read reading value).Strict := trivial

@[simp] theorem Session.strict_demandStage (session : Session) (request : Request)
    (read? : Json → Option α) (answer : α) :
    (session.demandStage request read? answer).Strict := by
  intro reply fault refused
  exact ⟨.rpc fault.message, by simp [Session.demanded, Reply.understood, refused, Except.mapError]⟩

theorem Token.Contract.evaluated_of_fault {method : Method} {read : Bytes → Except Abi.Fault α}
    {reply : Reply} {fault : RpcFault} (refused : reply.read = .error fault) :
    Contract.evaluated method read reply = .error (.rpc fault) := by
  simp [Contract.evaluated, Reply.understood, refused]

@[simp] theorem Token.Contract.strict_viewStage (contract : Contract) (method : Method)
    (read : Bytes → Except Abi.Fault α) (answer : α) :
    (contract.viewStage method read answer).Strict := by
  intro reply fault refused
  exact ⟨_, by rw [Contract.viewed, Contract.evaluated_of_fault refused]; rfl⟩

@[simp] theorem Token.Contract.strict_rehearsalStage (contract : Contract) (sender : Address)
    (method : Method) : (contract.rehearsalStage sender method).Strict := by
  intro reply fault refused
  have failed : Contract.evaluated method Abi.flag reply = .error (.rpc fault) :=
    Contract.evaluated_of_fault refused
  cases fault <;> exact ⟨_, by rw [Contract.rehearsed, failed]⟩

theorem Session.confirmRoute_strict (session : Session) (hash : TxHash) (wait : Session.Wait) :
    (session.confirmRoute hash wait).Strict := by
  have polls : Route.Strict (List.replicate wait.pending
      (session.demandStage (.receipt hash) Receipt.answer? none)) := by
    intro stage member
    rw [List.eq_of_mem_replicate member]
    exact session.strict_demandStage _ _ _
  have closes : (session.closingStage hash wait).Strict := by
    unfold Session.closingStage
    cases wait.closing with
    | included => exact session.strict_demandStage _ _ _
    | late => exact fun _ _ _ => ⟨_, rfl⟩
    | expired | unpaced => exact trivial
  simp [Session.confirmRoute, Session.pollRoute, polls, closes]

theorem Command.route_strict (command : Command) (s : Settings) (f : Findings) :
    (command.route s f).Strict := by
  have greets : Stage.Strict
      (.ask ⟨f.session.url, .chainId⟩ (Session.greeted f.session.config) f.chain) := by
    intro reply fault refused
    exact ⟨.connection f.session.config.rpcUrl fault.message, by
      simp [Session.greeted, Reply.understood, refused]⟩
  have fetches (cursor : Cursor) : Stage.Strict
      (.ask (cursor.logsCall f.head) Cursor.fetched f.events) := by
    intro reply fault refused
    exact ⟨.rpc fault.message, by
      simp [Cursor.fetched, Session.demanded, Reply.understood, refused, Except.mapError]⟩
  have waits := f.session.confirmRoute_strict f.hash f.wait
  cases command with
  | events contract fromBlock =>
    simp only [route, errand, Session.connectRoute, Cursor.batchRoute]
    split <;> simp [greets, fetches, Findings.decimalsStage]
  | _ =>
    simp [route, errand, movingErrand, Session.connectRoute, Contract.metadataRoute,
      Findings.decimalsStage, Findings.balances, Findings.dispatch, Authorization.termsRoute,
      Contract.transactRoute, Contract.deployRoute, Session.sendStage, greets, waits]

def Request.isBroadcast : Request → Bool
  | .sendRaw _ => true
  | _ => false

theorem Command.broadcasts_le_one (command : Command) (s : Settings) (f : Findings) :
    (command.sequence s f).countP Request.isBroadcast ≤ 1 := by
  cases command with
  | events contract fromBlock =>
    simp only [sequence]
    split <;> simp [Findings.view, Request.isBroadcast]
  | _ =>
    simp [sequence, Findings.submission, Findings.metadataViews, Findings.balanceViews,
      Findings.termsRequests, Findings.receipts, Findings.view, Request.isBroadcast,
      List.countP_cons, List.countP_append, List.countP_replicate]

namespace Invocation

def requests (i : Invocation) (home : String) (files : Storage) (node : Node) : List Request :=
  (i.transcript home files node).map Exchange.request

theorem requests_eq (i : Invocation) (home : String) (files : Storage) (node : Node) :
    i.requests home files node = (i.perform home files node).2.wire.calls.map Call.request := by
  rw [← node.exchanges_calls [] (i.perform home files node).2.wire.calls, List.map_map]
  rfl

/-- A run that makes its requests in order and stops at the first one without success. -/
structure FailStop (i : Invocation) (home : String) (files : Storage) (node : Node)
    (f : Findings) : Prop where
  inOrder : i.requests home files node <+: i.command.sequence f.settings f
  complete : i.outcome home files node = .ok () →
    i.requests home files node = i.command.sequence f.settings f
  /-- What was found on the way is what the arguments and the replies say, and the run has failed
  where the walk has. -/
  walked : i.command.isOnline → ∃ ending,
    Walk (i.route home files f) (i.transcript home files node) ending ∧
    i.outcome home files node = match ending with
      | none => .ok ()
      | some failure => .error failure
  /-- No request follows a reply without a result, whatever the reason. -/
  stops : ∀ before exchange after fault,
    i.transcript home files node = before ++ exchange :: after →
    exchange.reply.read = .error fault →
    after = [] ∧ ∃ failure, i.outcome home files node = .error failure
  once : (i.requests home files node).countP Request.isBroadcast ≤ 1

section

variable {i : Invocation} {home : String} {files : Storage} {node : Node}

theorem route_spells (home : String) (files : Storage) (f : Findings)
    (online : i.command.isOnline) :
    (i.route home files f).Spells (i.command.sequence f.settings f) :=
  (Route.spells_requests [.read (i.settings home files) f.settings]).append
    (i.command.route_spells f.settings f online)

theorem failStop_of_walk {f : Findings} {ending : Option Failure} (online : i.command.isOnline)
    (ended : i.outcome home files node = match ending with
      | none => .ok ()
      | some failure => .error failure)
    (walk : Walk (i.route home files f) (i.transcript home files node) ending) :
    i.FailStop home files node f := by
  obtain ⟨begins, whole⟩ := route_spells home files f online _ _ walk
  have strict : (i.route home files f).Strict := by
    simpa [route] using i.command.route_strict f.settings f
  refine ⟨begins, ?_, fun _ => ⟨ending, walk, ended⟩, ?_, ?_⟩
  · intro success
    apply whole
    cases ending with
    | none => rfl
    | some failure => simp [success] at ended
  · intro before exchange after fault place refused
    obtain ⟨last, halted⟩ := walk.last_of_fault strict place refused
    obtain ⟨failure, rfl⟩ := Option.isSome_iff_exists.mp halted
    exact ⟨last, failure, ended⟩
  · exact Nat.le_trans begins.sublist.countP_le (i.command.broadcasts_le_one f.settings f)

theorem failStop_of_offline (offline : ¬ i.command.isOnline) :
    i.FailStop home files node default := by
  have silent := i.transcript_of_offline home files node (by simpa using offline)
  have nothing : i.requests home files node = [] := by simp [requests, silent]
  have unasked : i.command.sequence (default : Findings).settings default = [] := by
    cases asked : i.command <;> simp [asked, Command.isOnline] at offline <;> rfl
  refine ⟨?_, ?_, fun online => absurd online offline, ?_, ?_⟩
  · rw [nothing]
    exact List.nil_prefix
  · intro _
    rw [nothing, unasked]
  · intro before exchange after fault place _
    rw [silent] at place
    simp at place
  · simp [nothing]

end

theorem run_fail_stop (i : Invocation) (home : String) (files : Storage) (node : Node) :
    ∃ f, i.FailStop home files node f := by
  by_cases online : i.command.isOnline
  · obtain ⟨f, ending, walk, arrived, halted⟩ := (i.run_ends home files node online).walk
    refine ⟨f, failStop_of_walk online ?_ walk⟩
    cases ending with
    | none => exact arrived rfl
    | some failure => exact halted failure rfl
  · exact ⟨default, failStop_of_offline online⟩

end Invocation
end TokenClient
