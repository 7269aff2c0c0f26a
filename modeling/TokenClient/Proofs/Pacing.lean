import TokenClient.Proofs.Broadcast
import TokenClient.Proofs.Rehearsal

/-! Waits without a pace. Asking for a receipt needs some time between two polls; settings can say
that there is none, and then the wait breaks down before its first request. What the client reads
for itself or from replies does not break down. -/
namespace TokenClient

open Token

/-- A broadcast that the node has taken: the reply tells its hash. -/
def Exchange.Accepted (exchange : Exchange) : Prop :=
  ∃ raw hash, exchange.request = .sendRaw raw ∧ exchange.reply.understood Json.hash? = .ok hash

theorem Exchange.Accepted.isBroadcast {exchange : Exchange} (accepted : exchange.Accepted) :
    exchange.request.isBroadcast := by
  obtain ⟨raw, _, sent, _⟩ := accepted
  rw [sent]
  rfl

/-- The computation does not break down. It may well fail. -/
def Unbroken (outcome : Except Failure α) : Prop := outcome ≠ .error .zeroPollInterval

@[simp] theorem unbroken_ok (a : α) : Unbroken (.ok a) := nofun

@[simp] theorem unbroken_error {failure : Failure} :
    Unbroken (.error failure : Except Failure α) ↔ failure ≠ .zeroPollInterval := by
  simp [Unbroken]

/-- Where failures come from: from what the client has at hand, from a reply, or from a wait. -/
inductive Failure.Origin where
  | own
  | reply
  | wait
  deriving DecidableEq

def Failure.origin : Failure → Origin
  | .connection .. | .rpc _ | .chainMismatch .. | .contractCall _ => .reply
  | .notIncluded .. | .zeroPollInterval => .wait
  | .invalidKey _ | .invalidAddress _ | .signing _ | .amount _ | .invalidHash .. |
    .settingsUnreadable _ | .settingsUnwritable | .settingsExist _ | .storage _ => .own

/-- No failure of the computation is one of a wait. -/
def Brief (outcome : Except Failure α) : Prop :=
  ∀ failure, outcome = .error failure → failure.origin ≠ .wait

@[simp] theorem brief_ok (a : α) : Brief (.ok a) := nofun

@[simp] theorem brief_error {failure : Failure} :
    Brief (.error failure : Except Failure α) ↔ failure.origin ≠ .wait := by
  simp [Brief]

theorem Brief.unbroken {outcome : Except Failure α} (brief : Brief outcome) :
    Unbroken outcome := fun broken => brief _ broken rfl

/-- All failures of the computation have this origin. -/
def Reports (origin : Failure.Origin) (outcome : Except Failure α) : Prop :=
  ∀ failure, outcome = .error failure → failure.origin = origin

section Reporting

variable {origin : Failure.Origin}

@[simp] theorem reports_ok (a : α) : Reports origin (.ok a) := nofun

@[simp] theorem reports_error {failure : Failure} :
    Reports origin (.error failure : Except Failure α) ↔ failure.origin = origin := by
  simp [Reports]

theorem reports_mapError {fault : ε → Failure} (named : ∀ e, (fault e).origin = origin)
    (x : Except ε α) : Reports origin (x.mapError fault) := by
  cases x with
  | ok a => exact nofun
  | error e => exact reports_error.mpr (named e)

theorem Reports.map {x : Except Failure α} (reports : Reports origin x) (f : α → β) :
    Reports origin (x.map f) := by
  cases x with
  | ok a => exact nofun
  | error failure => exact reports_error.mpr (reports_error.mp reports)

theorem Reports.brief {outcome : Except Failure α} (reports : Reports origin outcome)
    (other : origin ≠ .wait) : Brief outcome :=
  fun failure failed same => other ((reports failure failed).symm.trans same)

end Reporting

section Readings

theorem Account.parseAddress_reports (text : String) :
    Reports .own (Account.parseAddress text) := by
  apply reports_mapError
  exact fun _ => rfl

theorem Credential.read_reports (text : String) : Reports .own (Credential.read text) := by
  apply reports_mapError
  exact fun _ => rfl

theorem Account.resolve_reports (text : String) : Reports .own (Account.resolve text) := by
  unfold Account.resolve
  split
  · exact Account.parseAddress_reports text
  · exact (Credential.read_reports text).map _
  · exact reports_error.mpr rfl

theorem Account.resolveRecipient_reports (text : String) :
    Reports .own (Account.resolveRecipient text) := by
  have resolves := Account.resolve_reports text
  simp only [Account.resolveRecipient, bind, Except.bind]
  cases found : Account.resolve text with
  | error failure => rwa [found] at resolves
  | ok address =>
    dsimp only
    split
    · exact reports_error.mpr rfl
    · exact reports_ok address

theorem Action.contractAt_reports (session : Session) (text : String) :
    Reports .own (Action.contractAt session text) :=
  (Account.parseAddress_reports text).map _

theorem Action.parseAmount_reports (text : String) (decimals : Nat) :
    Reports .own (Action.parseAmount text decimals) := by
  apply reports_mapError
  exact fun _ => rfl

theorem Action.parseHash_reports (text : String) : Reports .own (Action.parseHash text) := by
  apply reports_mapError
  exact fun _ => rfl

theorem Authorization.permitted_reports (account : Address) :
    Reports .own (Authorization.permitted account) := by
  unfold Authorization.permitted
  split
  · exact reports_error.mpr rfl
  · exact reports_ok ()

theorem Session.new_reports (config : SessionConfig) : Reports .reply (Session.new config) := by
  unfold Session.new
  split
  · exact reports_ok _
  · exact reports_error.mpr rfl

theorem Settings.load_reports (files : Storage) (path : String) :
    Reports .own (Settings.load files path) := by
  unfold Settings.load
  repeat' split
  all_goals simp [Failure.origin]

theorem Invocation.settings_reports (i : Invocation) (home : String) (files : Storage) :
    Reports .own (i.settings home files) := by
  have loads := Settings.load_reports files (i.settingsPath home)
  simp only [Invocation.settings, bind, Except.bind]
  cases loaded : Settings.load files (i.settingsPath home) with
  | error failure => rwa [loaded] at loads
  | ok s => exact reports_ok _

theorem Session.demanded_reports (read? : Json → Option α) (reply : Reply) :
    Reports .reply (Session.demanded read? reply) := by
  apply reports_mapError
  exact fun _ => rfl

theorem Session.greeted_reports (config : SessionConfig) (reply : Reply) :
    Reports .reply (Session.greeted config reply) := by
  unfold Session.greeted
  repeat' split
  all_goals simp [Failure.origin]

theorem Token.CallFault.failure_origin (fault : CallFault) : fault.failure.origin = .reply := by
  cases fault <;> rfl

theorem Token.Contract.viewed_reports (method : Method) (read : Bytes → Except Abi.Fault α)
    (reply : Reply) : Reports .reply (Contract.viewed method read reply) :=
  reports_mapError CallFault.failure_origin _

theorem Token.Contract.rehearsed_reports (method : Method) (reply : Reply) :
    Reports .reply (Contract.rehearsed method reply) := by
  unfold Contract.rehearsed
  split
  · exact reports_ok ()
  · exact reports_error.mpr rfl
  · exact reports_error.mpr rfl
  · exact reports_error.mpr (CallFault.failure_origin _)

theorem Token.Cursor.fetched_reports (reply : Reply) : Reports .reply (Cursor.fetched reply) := by
  have demands := Session.demanded_reports Cursor.entries? reply
  unfold Cursor.fetched
  split
  · rename_i failed
    rw [failed] at demands
    exact reports_error.mpr (reports_error.mp demands)
  · apply reports_mapError
    exact fun _ => rfl

end Readings

def Stage.Brief : Stage → Prop
  | .read reading _ => TokenClient.Brief reading
  | .ask _ reading _ => ∀ reply, TokenClient.Brief (reading reply)

section Stages

@[simp] theorem Stage.brief_read {reading : Except Failure α} {value : α} :
    (Stage.read reading value).Brief ↔ TokenClient.Brief reading := Iff.rfl

@[simp] theorem Session.brief_demandStage (session : Session) (request : Request)
    (read? : Json → Option α) (answer : α) : (session.demandStage request read? answer).Brief :=
  fun reply => (Session.demanded_reports read? reply).brief nofun

@[simp] theorem Token.Contract.brief_viewStage (contract : Contract) (method : Method)
    (read : Bytes → Except Abi.Fault α) (answer : α) :
    (contract.viewStage method read answer).Brief :=
  fun reply => (Contract.viewed_reports method read reply).brief nofun

theorem Command.errand_brief (command : Command) (s : Settings) (session : Session)
    (f : Findings) (reads : command.signs = false) :
    ∀ stage ∈ command.errand s session f, stage.Brief := by
  have fetches (cursor : Cursor) (head : Nat) (events : List Event) :
      (Stage.ask (cursor.logsCall head) Cursor.fetched events).Brief :=
    fun reply => (Cursor.fetched_reports reply).brief nofun
  have contractAt (text : String) := (Action.contractAt_reports session text).brief nofun
  have resolve (text : String) := (Account.resolve_reports text).brief nofun
  have parseHash (text : String) := (Action.parseHash_reports text).brief nofun
  cases command with
  | deploy | queryTransfer | approve | transferFrom => contradiction
  | events contract fromBlock =>
    simp only [errand, Cursor.batchRoute]
    split <;> simp [Findings.decimalsStage, contractAt, fetches]
  | _ =>
    simp [errand, Contract.metadataRoute, Findings.decimalsStage, contractAt, resolve, parseHash]

end Stages

theorem Walk.brief {route : Route} {made : List Exchange} {failure : Failure}
    (walk : Walk route made (some failure)) (brief : ∀ stage ∈ route, stage.Brief) :
    failure.origin ≠ .wait := by
  generalize halted : some failure = ending at walk
  induction walk with
  | arrived => contradiction
  | readOn _ _ ih | answered _ _ ih =>
    exact ih (fun stage member => brief stage (.tail _ member)) halted
  | unreadable failed =>
    cases halted
    have here := brief _ (.head _)
    rw [Stage.Brief, failed] at here
    exact brief_error.mp here
  | @refused reply call rest _ reading answer _ failed =>
    cases halted
    have here : TokenClient.Brief (reading reply) :=
      brief (.ask call reading answer) (.head rest) reply
    rw [failed] at here
    exact brief_error.mp here

/-- Nothing is accepted, and no wait fails. -/
structure Calm (made : List Exchange) (outcome : Except Failure α) : Prop where
  idle : ∀ exchange ∈ made, ¬ exchange.Accepted
  brief : Brief outcome

/-- Without time between two polls this breaks down as soon as a broadcast is accepted. -/
structure Paced (interval : Nat) (made : List Exchange) (outcome : Except Failure α) : Prop where
  broken : outcome = .error .zeroPollInterval ↔
    interval = 0 ∧ ∃ exchange ∈ made, exchange.Accepted
  last : interval = 0 → ∀ before exchange after, made = before ++ exchange :: after →
    exchange.Accepted → after = []

theorem not_accepted_append {made more : List Exchange}
    (first : ∀ exchange ∈ made, ¬ exchange.Accepted)
    (second : ∀ exchange ∈ more, ¬ exchange.Accepted) :
    ∀ exchange ∈ made ++ more, ¬ exchange.Accepted := by
  intro exchange member
  rcases List.mem_append.mp member with member | member
  · exact first exchange member
  · exact second exchange member

theorem Calm.paced {made : List Exchange} {outcome : Except Failure α}
    (calm : Calm made outcome) : Paced interval made outcome where
  broken := by
    constructor
    · intro broken
      exact absurd broken calm.brief.unbroken
    · rintro ⟨-, exchange, member, accepted⟩
      exact absurd accepted (calm.idle exchange member)
  last := by
    rintro - before exchange after rfl accepted
    exact absurd accepted (calm.idle exchange (by simp))

/-- Along a route without a broadcast, whose stages do not fail as waits do, nothing does. -/
theorem Ends.calm {route : γ → Route} {result : γ → α} {made : List Exchange}
    {outcome : Except Failure α} (ends : Ends route result made outcome)
    (quiet : ∀ g, (route g).Quiet) (brief : ∀ g, ∀ stage ∈ route g, stage.Brief) :
    Calm made outcome := by
  cases ends with
  | ok g walk =>
    refine ⟨fun exchange member accepted => ?_, brief_ok _⟩
    exact walk.not_mem_of_quiet (quiet g) accepted.isBroadcast member
  | error g walk =>
    refine ⟨fun exchange member accepted => ?_, brief_error.mpr (walk.brief (brief g))⟩
    exact walk.not_mem_of_quiet (quiet g) accepted.isBroadcast member

end TokenClient
