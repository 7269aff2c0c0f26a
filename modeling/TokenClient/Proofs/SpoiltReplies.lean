import TokenClient.Proofs.ArgumentChecks
import TokenClient.Proofs.ReceiptWait

/-! Replies that end a run, and the failures that they are reported as. A reply is sorted by what it
answers: the trial of a call, a call that only reads, a request for log entries, a poll of a wait,
or any other request. A stage reports a failure of this kind just where the reply to it is so
sorted, and so does a route of such stages as a whole. -/
namespace TokenClient

open Token

def Request.Answer : Request → Type
  | .chainId | .gasPrice | .blockNumber | .transactionCount _ => Nat
  | .receipt _ => Option Receipt
  | .call .. => Bytes
  | .sendRaw _ => TxHash
  | .logs .. => List LogEntry

def Request.answer? : (request : Request) → Json → Option request.Answer
  | .chainId | .blockNumber | .transactionCount _ => Json.quantity? 64
  | .gasPrice => Json.quantity? 128
  | .receipt _ => Receipt.answer?
  | .call .. => Json.bytes?
  | .sendRaw _ => Json.hash?
  | .logs .. => Cursor.entries?

/-- The node refuses, or what comes back is no well-formed answer to this request. -/
def Exchange.Faults (exchange : Exchange) (fault : RpcFault) : Prop :=
  exchange.reply.understood exchange.request.answer? = .error fault

def Request.isTrial : Request → Bool
  | .call (some _) _ _ => true
  | _ => false

/-- What a call yields, in the terms of the contract's interface. -/
def Token.Method.Result : Method → Type
  | .name | .symbol => String
  | .decimals => Nat
  | .totalSupply | .balanceOf _ | .allowance .. => Word
  | .transfer .. | .transferFrom .. | .approve .. | .increaseAllowance .. |
    .decreaseAllowance .. => Bool

def Token.Method.result : (method : Method) → Bytes → Except Abi.Fault method.Result
  | .name | .symbol => Abi.text
  | .decimals => Abi.small
  | .totalSupply | .balanceOf _ | .allowance .. => Abi.word
  | .transfer .. | .transferFrom .. | .approve .. | .increaseAllowance .. |
    .decreaseAllowance .. => Abi.flag

/-- How the reply to the handshake ends a run. -/
inductive Exchange.Rejects (config : SessionConfig) (greeting : Exchange) : Failure → Prop where
  | unreached {fault : RpcFault} : greeting.Faults fault →
      Rejects config greeting (.connection config.rpcUrl fault.message)
  | otherChain {expected actual : Nat} :
      greeting.reply.understood (Json.quantity? 64) = .ok actual →
      config.expectedChainId = some expected → expected ≠ actual →
      Rejects config greeting (.chainMismatch expected actual)

/-- How a reply behind the handshake ends a run, while these transactions are waited for. -/
inductive Exchange.Spoils (awaited : TxHash → Prop) (exchange : Exchange) : Failure → Prop where
  | unanswered {fault : RpcFault} : exchange.request.isTrial = false → exchange.Faults fault →
      Spoils awaited exchange (.rpc fault.message)
  | declined {sender target : Address} {method : Method} {failure : Failure} :
      exchange.request = .call (some sender) target method.input →
      Contract.Declines method exchange.reply failure → Spoils awaited exchange failure
  /-- No data at all are reported in words of their own. -/
  | undecodable {target : Address} {method : Method} {data : Bytes} {fault : Abi.Fault}
      {detail : String} : exchange.request = .call none target method.input →
      exchange.reply.understood Json.bytes? = .ok data → method.result data = .error fault →
      .contractCall detail =
        (if data = [] then CallFault.noData method.label else .abi fault).failure →
      Spoils awaited exchange (.contractCall detail)
  | badLog {emitter : Address} {first last : Nat} {entries : List LogEntry} {fault : EventFault} :
      exchange.request = .logs emitter first last →
      exchange.reply.understood Cursor.entries? = .ok entries →
      Event.decodeAll entries = .error fault →
      Spoils awaited exchange (.contractCall fault.message)
  | reverted {hash : TxHash} {receipt : Receipt} : exchange.request = .receipt hash →
      awaited hash → exchange.reply.understood Receipt.answer? = .ok (some receipt) →
      receipt.success = false →
      Spoils awaited exchange (.contractCall ("transaction " ++ hash.text ++ " reverted"))

theorem Exchange.Spoils.origin {awaited : TxHash → Prop} {exchange : Exchange} {failure : Failure}
    (spoils : exchange.Spoils awaited failure) : failure.origin = .reply := by
  cases spoils with
  | declined _ declines => cases declines <;> rfl
  | _ => rfl

theorem Session.greeted_error_iff {config : SessionConfig} {url : String} {reply : Reply}
    {failure : Failure} : greeted config reply = .error failure ↔
      Exchange.Rejects config ⟨⟨url, .chainId⟩, reply⟩ failure := by
  unfold greeted
  constructor
  · intro failed
    cases told : reply.understood (Json.quantity? 64) with
    | error fault =>
      simp only [told, Except.error.injEq] at failed
      cases failed
      exact .unreached told
    | ok actual =>
      cases expects : config.expectedChainId with
      | none => simp [told, expects] at failed
      | some expected =>
        by_cases same : expected = actual
        · simp [told, expects, same] at failed
        · simp only [told, expects, same, ↓reduceIte, Except.error.injEq] at failed
          cases failed
          exact .otherChain told expects same
  · intro rejects
    cases rejects with
    | unreached untold =>
      have lost : reply.understood (Json.quantity? 64) = .error _ := untold
      rw [lost]
    | otherChain told expects other => simp [told, expects, other]

section Stages

variable {awaited : TxHash → Prop} {α : Type}

/-- A stage that fails for a reply just as the reply is sorted, and otherwise only for what is at
hand. -/
def Stage.Sorts (awaited : TxHash → Prop) : Stage → Prop
  | .read reading _ => Reports .own reading
  | .ask call reading _ => ∀ reply failure,
      reading reply = .error failure ↔ Exchange.Spoils awaited ⟨call, reply⟩ failure

theorem Session.demanded_error_iff {read? : Json → Option α} {reply : Reply} {failure : Failure} :
    demanded read? reply = .error failure ↔
      ∃ fault, reply.understood read? = .error fault ∧ failure = .rpc fault.message := by
  unfold demanded
  cases reply.understood read? with
  | ok a => simp [Except.mapError]
  | error fault => simp [Except.mapError, eq_comm]

/-- Any well-formed answer to the request will do. -/
def Request.TakesAny (awaited : TxHash → Prop) : Request → Prop
  | .call .. | .logs .. => False
  | .receipt hash => ¬ awaited hash
  | _ => True

theorem Session.demand_sorts (session : Session) (request : Request)
    (any : request.TakesAny awaited) (answer : request.Answer) :
    (session.demandStage request request.answer? answer).Sorts awaited := by
  intro reply failure
  rw [demanded_error_iff]
  constructor
  · rintro ⟨fault, told, rfl⟩
    refine .unanswered ?_ told
    cases request <;> first | rfl | contradiction
  · intro spoils
    cases spoils with
    | unanswered _ told => exact ⟨_, told, rfl⟩
    | declined asked _ | undecodable asked _ _ _ | badLog asked _ _ =>
      cases asked
      contradiction
    | reverted asked waits _ _ =>
      cases asked
      exact absurd waits any

theorem Token.Method.result_nil (method : Method) : method.result [] = .error .overrun := by
  cases method <;> rfl

theorem Token.Contract.view_sorts (contract : Contract) (method : Method)
    (answer : method.Result) :
    (contract.viewStage method method.result answer).Sorts awaited := by
  intro reply failure
  constructor
  · intro failed
    unfold viewed evaluated at failed
    cases told : reply.understood Json.bytes? with
    | error fault =>
      simp only [told, Except.mapError, Except.error.injEq] at failed
      cases failed
      exact .unanswered rfl told
    | ok data =>
      cases data with
      | nil =>
        simp only [told, Except.mapError, Except.error.injEq] at failed
        cases failed
        exact .undecodable rfl told method.result_nil rfl
      | cons byte rest =>
        cases read : method.result (byte :: rest) with
        | ok a => simp [told, read, Except.mapError] at failed
        | error fault =>
          simp only [told, read, Except.mapError, Except.error.injEq] at failed
          cases failed
          exact .undecodable rfl told read (by simp [CallFault.failure])
  · intro spoils
    cases spoils with
    | unanswered _ told =>
      have lost : reply.understood Json.bytes? = .error _ := told
      simp [viewed, evaluated, lost, Except.mapError, CallFault.failure]
    | declined asked _ | badLog asked _ _ | reverted asked _ _ _ => cases asked
    | @undecodable _ called data fault _ asked told read same =>
      have input : method.input = called.input := (Request.call.inj asked).2.2
      cases Method.input_injective input
      rw [same]
      cases data with
      | nil => simp [viewed, evaluated, told, Except.mapError]
      | cons byte rest => simp [viewed, evaluated, told, read, Except.mapError]

theorem Token.Contract.rehearsed_error_iff {method : Method} {reply : Reply} {failure : Failure} :
    rehearsed method reply = .error failure ↔ Declines method reply failure := by
  constructor
  · intro failed
    have against : ¬ Agrees reply := fun agrees => by
      rw [rehearsed_agrees agrees] at failed
      contradiction
    obtain ⟨reported, same, declines⟩ := rehearsed_declines method against
    cases failed.symm.trans same
    exact declines
  · intro declines
    unfold rehearsed evaluated
    cases declines with
    | @denied data told denied =>
      cases data with
      | nil => contradiction
      | cons byte rest => simp [told, denied, Except.mapError]
    | @undecodable data fault detail told unread same =>
      rw [same]
      cases data with
      | nil => simp [told]
      | cons byte rest => simp [told, unread, Except.mapError]
    | reverted told => simp [told]
    | @lost fault told other =>
      cases fault with
      | refused refusal => exact absurd rfl (other refusal)
      | dropped | status | malformed => simp [told, CallFault.failure]

theorem Token.Contract.rehearsal_sorts (contract : Contract) (sender : Address) (method : Method) :
    (contract.rehearsalStage sender method).Sorts awaited := by
  intro reply failure
  rw [rehearsed_error_iff]
  constructor
  · exact fun declines => .declined rfl declines
  · intro spoils
    cases spoils with
    | unanswered trial _ => cases trial
    | @declined _ _ called _ asked declines =>
      have input : method.input = called.input := (Request.call.inj asked).2.2
      cases Method.input_injective input
      exact declines
    | undecodable asked _ _ _ | badLog asked _ _ | reverted asked _ _ _ => cases asked

theorem Token.Cursor.fetch_sorts (cursor : Cursor) (head : Nat) (events : List Event) :
    (Stage.ask (cursor.logsCall head) fetched events).Sorts awaited := by
  intro reply failure
  constructor
  · intro failed
    cases told : reply.understood entries? with
    | error fault =>
      rw [fetched_of_untold told] at failed
      cases failed
      exact .unanswered rfl told
    | ok entries =>
      rw [fetched_of_told told] at failed
      cases decoded : Event.decodeAll entries with
      | ok events => simp [decoded, Except.mapError] at failed
      | error fault =>
        simp only [decoded, Except.mapError, Except.error.injEq] at failed
        cases failed
        exact .badLog rfl told decoded
  · intro spoils
    cases spoils with
    | unanswered _ untold => exact fetched_of_untold untold
    | badLog _ told decoded =>
      rw [fetched_of_told told, decoded]
      rfl
    | declined asked _ | undecodable asked _ _ _ | reverted asked _ _ _ => cases asked

end Stages

/-- A walk along the route, within all that is exchanged, ends as its replies are sorted, unless a
wait ends it or what is at hand. -/
def Route.Sorts (all : List Exchange) (route : Route) : Prop :=
  ∀ ⦃made ending⦄, made ⊆ all → Walk route made ending →
    (∀ failure, ending = some failure → failure.origin ≠ .wait) →
    ∀ failure, failure.origin ≠ .own →
      (ending = some failure ↔ ∃ exchange ∈ made, exchange.Spoils (Taken all) failure)

namespace Route

variable {all : List Exchange} {α : Type}

theorem sorts_nil : Route.Sorts all [] := by
  intro made ending _ walk _ failure _
  obtain ⟨rfl, rfl⟩ := Walk.nil_iff.mp walk
  simp

theorem sorts_append {first second : Route} (leads : first.Sorts all)
    (follows : second.Sorts all) : Route.Sorts all (first ++ second) := by
  intro made ending within walk brief failure foreign
  rcases walk.split with ⟨reported, rfl, halted⟩ | ⟨before, after, rfl, first, later⟩
  · exact leads within halted brief failure foreign
  · obtain ⟨early, late⟩ := List.append_subset.mp within
    have clean := leads early first nofun failure foreign
    have rest := follows late later brief failure foreign
    simp only [reduceCtorEq, false_iff, not_exists, not_and] at clean
    rw [rest]
    constructor
    · rintro ⟨exchange, member, spoils⟩
      exact ⟨exchange, List.mem_append_right _ member, spoils⟩
    · rintro ⟨exchange, member, spoils⟩
      rcases List.mem_append.mp member with member | member
      · exact absurd spoils (clean exchange member)
      · exact ⟨exchange, member, spoils⟩

theorem sorts_read {reading : Except Failure α} {value : α} {rest : Route}
    (own : Reports .own reading) (next : rest.Sorts all) :
    Route.Sorts all (.read reading value :: rest) := by
  intro made ending within walk brief failure foreign
  cases walk with
  | readOn _ walk => exact next within walk brief failure foreign
  | @unreadable _ _ _ _ reported failed =>
    refine iff_of_false ?_ (by simp)
    rintro ⟨⟩
    exact foreign (own failure failed)

theorem sorts_ask {call : Call} {reading : Reply → Except Failure α} {answer : α} {rest : Route}
    (sorts : (Stage.ask call reading answer).Sorts (Taken all))
    (next : ∀ reply, ⟨call, reply⟩ ∈ all → reading reply = .ok answer → rest.Sorts all) :
    Route.Sorts all (.ask call reading answer :: rest) := by
  intro made ending within walk brief failure foreign
  cases walk with
  | @answered reply _ made _ _ _ _ _ read walk =>
    obtain ⟨here, later⟩ := List.cons_subset.mp within
    have clean : ¬ Exchange.Spoils (Taken all) ⟨call, reply⟩ failure := fun spoils => by
      cases read.symm.trans ((sorts reply failure).mpr spoils)
    rw [next reply here read later walk brief failure foreign]
    simp [clean]
  | @refused reply _ _ _ _ _ reported failed =>
    have same := sorts reply failure
    rw [failed] at same
    simpa using same

theorem sorts_of_stages {route : Route}
    (sorts : ∀ stage ∈ route, stage.Sorts (Taken all)) : route.Sorts all := by
  induction route with
  | nil => exact sorts_nil
  | cons stage rest ih =>
    obtain ⟨here, later⟩ := List.forall_mem_cons.mp sorts
    cases stage with
    | read reading value => exact sorts_read here (ih later)
    | ask call reading answer => exact sorts_ask here fun _ _ _ => ih later

theorem sorts_one {stage : Stage} (sorts : stage.Sorts (Taken all)) : Route.Sorts all [stage] :=
  sorts_of_stages (List.forall_mem_singleton.mpr sorts)

end Route

namespace Session

variable {all : List Exchange} {hash : TxHash}

/-- A poll whose reply ends the wait or lets it go on, together with what the receipt says. -/
def judged (hash : TxHash) (reply : Reply) : Except Failure (Option Receipt) :=
  match demanded Receipt.answer? reply with
  | .error failure => .error failure
  | .ok none => .ok none
  | .ok (some receipt) => (concluded hash receipt).map fun _ => some receipt

theorem judged_sorts (session : Session) (awaited : Taken all hash) (answer : Option Receipt) :
    (Stage.ask ⟨session.url, .receipt hash⟩ (judged hash) answer).Sorts (Taken all) := by
  intro reply failure
  unfold judged demanded concluded
  constructor
  · intro failed
    cases told : reply.understood Receipt.answer? with
    | error fault =>
      simp only [told, Except.mapError, Except.error.injEq] at failed
      cases failed
      exact .unanswered rfl told
    | ok answer =>
      cases answer with
      | none => simp [told, Except.mapError] at failed
      | some receipt =>
        cases success : receipt.success with
        | true => simp [told, success, Except.mapError, Except.map] at failed
        | false =>
          simp only [told, success, Except.mapError, Except.map] at failed
          cases failed
          exact .reverted rfl awaited told success
  · intro spoils
    cases spoils with
    | unanswered _ untold =>
      have lost : reply.understood Receipt.answer? = .error _ := untold
      simp [lost, Except.mapError]
    | reverted asked _ told failed =>
      cases asked
      simp [told, failed, Except.mapError, Except.map]
    | declined asked _ | undecodable asked _ _ _ | badLog asked _ _ => cases asked

def judgedRoute (session : Session) (hash : TxHash) (pending : Nat) (receipt : Receipt) : Route :=
  List.replicate pending (.ask ⟨session.url, .receipt hash⟩ (judged hash) none) ++
    [.ask ⟨session.url, .receipt hash⟩ (judged hash) (some receipt)]

/-- A wait that does not run out of time is ended by a reply. The induction is on the polls without
a receipt. -/
theorem judged_of_confirm {session : Session} {wait : Wait} {made : List Exchange}
    {ending : Option Failure} (walk : Walk (session.confirmRoute hash wait) made ending)
    (brief : ∀ failure, ending = some failure → failure.origin ≠ .wait) :
    Walk (session.judgedRoute hash wait.pending wait.receipt) made ending := by
  obtain ⟨pending, closing, receipt⟩ := wait
  unfold confirmRoute pollRoute at walk
  unfold judgedRoute
  dsimp only at walk ⊢
  induction pending generalizing made with
  | zero =>
    cases closing with
    | included =>
      cases walk with
      | answered told walk =>
        dsimp only at told walk
        cases walk with
        | readOn concludes walk =>
          exact .answered (by simp only [judged, told, concludes]; rfl) walk
        | unreadable reverts => exact .refused (by simp only [judged, told, reverts]; rfl)
      | refused failed => exact .refused (by simp only [judged, failed])
    | late =>
      cases walk with
      | answered told _ => contradiction
      | refused failed =>
        cases failed
        exact absurd rfl (brief _ rfl)
    | expired | unpaced =>
      cases walk with
      | readOn read _ => contradiction
      | unreadable failed =>
        cases failed
        exact absurd rfl (brief _ rfl)
  | succ pending ih =>
    rw [List.replicate_succ] at walk ⊢
    cases walk with
    | answered told walk => exact .answered (by simp only [judged, told]) (ih walk)
    | refused failed => exact .refused (by simp only [judged, failed])

theorem confirm_sorts (session : Session) (wait : Wait) (awaited : Taken all hash) :
    (session.confirmRoute hash wait).Sorts all := by
  intro made ending within walk brief
  refine Route.sorts_of_stages ?_ within (judged_of_confirm walk brief) brief
  intro stage member
  have polls : ∃ answer, stage = .ask ⟨session.url, .receipt hash⟩ (judged hash) answer := by
    rcases List.mem_append.mp member with missing | last
    · exact ⟨none, List.eq_of_mem_replicate missing⟩
    · exact ⟨_, List.mem_singleton.mp last⟩
  obtain ⟨answer, rfl⟩ := polls
  exact session.judged_sorts awaited answer

theorem send_sorts (session : Session) (raw : Bytes) {rest : Route}
    (next : Taken all hash → rest.Sorts all) :
    Route.Sorts all (session.sendStage raw hash :: rest) := by
  refine Route.sorts_ask (session.demand_sorts (.sendRaw raw) trivial hash) ?_
  intro reply member told
  exact next ⟨_, member, ⟨raw, rfl⟩, demanded_iff.mp told⟩

end Session

section Commands

variable {all : List Exchange}

theorem Authorization.terms_sorts (session : Session) (account : Address) (terms : Terms) :
    (termsRoute session account terms).Sorts all := by
  apply Route.sorts_of_stages
  simp only [termsRoute, List.forall_mem_cons]
  exact ⟨permitted_reports account,
    session.demand_sorts (.transactionCount account) trivial terms.nonce,
    session.demand_sorts .gasPrice trivial terms.gasPrice,
    session.demand_sorts .chainId trivial terms.chainId, List.forall_mem_nil _⟩

theorem Token.Contract.metadata_sorts (contract : Contract) (metadata : Metadata) :
    (contract.metadataRoute metadata).Sorts all := by
  apply Route.sorts_of_stages
  simp only [metadataRoute, List.forall_mem_cons]
  exact ⟨contract.view_sorts .name metadata.name, contract.view_sorts .symbol metadata.symbol,
    contract.view_sorts .decimals metadata.decimals, List.forall_mem_nil _⟩

namespace Findings

variable (f : Findings) (s : Settings) (session : Session)

theorem balances_sorts (found : Word × Word) : (f.balances found).Sorts all := by
  apply Route.sorts_of_stages
  simp only [balances, List.forall_mem_cons]
  exact ⟨f.contract.view_sorts (.balanceOf f.signer.address) found.1,
    f.contract.view_sorts (.balanceOf f.partner) found.2, List.forall_mem_nil _⟩

theorem decimals_sorts {awaited : TxHash → Prop} : f.decimalsStage.Sorts awaited :=
  f.contract.view_sorts .decimals f.metadata.decimals

theorem dispatch_sorts (method : Method) : (f.dispatch s session method).Sorts all := by
  have sent := f.contract.session.send_sorts
    ((f.auth s).raw (.account f.contract.address) method.input)
    fun awaited : Taken all f.hash => session.confirm_sorts f.wait awaited
  exact Route.sorts_append (Authorization.terms_sorts session _ _)
    (Route.sorts_ask (f.contract.rehearsal_sorts _ method) fun _ _ _ => sent)

end Findings

theorem Token.Cursor.batch_sorts (cursor : Cursor) (head : Nat) (events : List Event) :
    (cursor.batchRoute head events).Sorts all := by
  refine Route.sorts_ask (cursor.session.demand_sorts .blockNumber trivial head) fun _ _ _ => ?_
  split
  · exact Route.sorts_nil
  · exact Route.sorts_one (cursor.fetch_sorts head events)

namespace Command

theorem moving_sorts (s : Settings) (session : Session) (f : Findings)
    (contract key owner recipient amount : String) :
    (movingErrand s session f contract key owner recipient amount).Sorts all := by
  refine Route.sorts_append (Route.sorts_of_stages ?_) (f.dispatch_sorts s session _)
  simp only [List.forall_mem_cons]
  exact ⟨Action.contractAt_reports session contract, Credential.read_reports key,
    Account.resolve_reports owner, Account.resolveRecipient_reports recipient, f.decimals_sorts,
    Action.parseAmount_reports amount _, List.forall_mem_nil _⟩

/-- Every reply behind the handshake is sorted, in all commands. Where nothing is broadcast, a
receipt that is asked for is only shown. -/
theorem errand_sorts (command : Command) (s : Settings) (session : Session) (f : Findings)
    (quiet : command.signs = false → ∀ hash, ¬ Taken all hash) :
    (command.errand s session f).Sorts all := by
  cases command with
  | deploy key =>
    have sent := session.send_sorts ((f.auth s).raw .creation Token.code)
      fun awaited : Taken all f.hash => session.confirm_sorts f.wait awaited
    exact Route.sorts_read (Credential.read_reports key)
      (Route.sorts_append (Authorization.terms_sorts session _ _) sent)
  | queryTransfer contract key receiver amount =>
    have moved (method : Method) : Route.Sorts all (f.balances f.before ++
        f.dispatch s session method ++ f.balances f.after) :=
      Route.sorts_append
        (Route.sorts_append (f.balances_sorts f.before) (f.dispatch_sorts s session method))
        (f.balances_sorts f.after)
    exact Route.sorts_read (Action.contractAt_reports session contract)
      (Route.sorts_read (Credential.read_reports key)
        (Route.sorts_read (Account.resolveRecipient_reports receiver)
          (Route.sorts_append (f.contract.metadata_sorts f.metadata)
            (Route.sorts_read (Action.parseAmount_reports _ _) (moved _)))))
  | info contract =>
    exact Route.sorts_read (Action.contractAt_reports session contract)
      (Route.sorts_append (f.contract.metadata_sorts f.metadata)
        (Route.sorts_one (f.contract.view_sorts .totalSupply f.word)))
  | balance contract account =>
    exact Route.sorts_read (Action.contractAt_reports session contract)
      (Route.sorts_read (Account.resolve_reports account)
        (Route.sorts_append (f.contract.metadata_sorts f.metadata)
          (Route.sorts_one (f.contract.view_sorts (.balanceOf f.holder) f.word))))
  | allowance contract owner spender =>
    apply Route.sorts_of_stages
    simp only [errand, List.forall_mem_cons]
    exact ⟨Action.contractAt_reports session contract, Account.resolve_reports owner,
      Account.resolve_reports spender, f.decimals_sorts,
      f.contract.view_sorts (.allowance f.holder f.partner) f.word, List.forall_mem_nil _⟩
  | approve contract key spender amount =>
    refine Route.sorts_append (Route.sorts_of_stages ?_) (f.dispatch_sorts s session _)
    simp only [List.forall_mem_cons]
    exact ⟨Action.contractAt_reports session contract, Credential.read_reports key,
      Account.resolveRecipient_reports spender, f.decimals_sorts,
      Action.parseAmount_reports amount _, List.forall_mem_nil _⟩
  | transferFrom contract key owner recipient amount =>
    exact Route.sorts_append (moving_sorts s session f contract key owner recipient amount)
      (Route.sorts_one (f.contract.view_sorts (.allowance f.holder f.signer.address) f.word))
  | events contract fromBlock =>
    exact Route.sorts_read (Action.contractAt_reports session contract)
      (Route.sorts_append (Route.sorts_one f.decimals_sorts)
        ((f.contract.eventsFrom fromBlock).batch_sorts f.head f.events))
  | transactionStatus text =>
    apply Route.sorts_of_stages
    simp only [errand, List.forall_mem_cons]
    exact ⟨Action.parseHash_reports text,
      session.demand_sorts (.receipt f.hash) (quiet rfl f.hash) f.receipt, List.forall_mem_nil _⟩
  | initSettings | showSettings => exact Route.sorts_nil

end Command
end Commands
end TokenClient
