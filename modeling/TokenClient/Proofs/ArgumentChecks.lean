import TokenClient.Proofs.AmountSpelling
import TokenClient.Proofs.Broadcast
import TokenClient.Proofs.MethodInput

/-! Arguments that are not what they stand for. They are read in order behind the handshake and
before anything else; the amount is read as soon as the contract has told its decimals. -/
namespace TokenClient

open Token

inductive Role where
  | contract
  | key
  | account
  /-- An account that is to get tokens or an allowance. -/
  | recipient
  | hash
  deriving DecidableEq, Repr

/-- Contracts are read first, then keys, then accounts. -/
def Role.rank : Role → Nat
  | contract => 0
  | key => 1
  | account | recipient => 2
  | hash => 3

/-- An argument and what it stands for. -/
structure Argument where
  role : Role
  text : String
  deriving DecidableEq, Repr

namespace Argument

def check (argument : Argument) : Except Failure Unit :=
  match argument.role with
  | .contract => (Account.parseAddress argument.text).map fun _ => ()
  | .key => (Credential.read argument.text).map fun _ => ()
  | .account => (Account.resolve argument.text).map fun _ => ()
  | .recipient => (Account.resolveRecipient argument.text).map fun _ => ()
  | .hash => (Action.parseHash argument.text).map fun _ => ()

def refusal? (argument : Argument) : Option Failure :=
  match argument.check with
  | .ok () => none
  | .error failure => some failure

theorem refusal?_eq_some {argument : Argument} {failure : Failure} :
    argument.refusal? = some failure ↔ argument.check = .error failure := by
  unfold refusal?
  cases argument.check <;> simp

theorem refusal?_eq_none {argument : Argument} :
    argument.refusal? = none ↔ argument.check = .ok () := by
  unfold refusal?
  cases argument.check <;> simp

end Argument

/-- The arguments that are read without the contract's decimals, in the order they are read in. -/
def Command.arguments : Command → List Argument
  | .deploy key => [⟨.key, key⟩]
  | .queryTransfer contract key receiver _ =>
    [⟨.contract, contract⟩, ⟨.key, key⟩, ⟨.recipient, receiver⟩]
  | .info contract | .events contract _ => [⟨.contract, contract⟩]
  | .balance contract account => [⟨.contract, contract⟩, ⟨.account, account⟩]
  | .allowance contract owner spender =>
    [⟨.contract, contract⟩, ⟨.account, owner⟩, ⟨.account, spender⟩]
  | .approve contract key spender _ =>
    [⟨.contract, contract⟩, ⟨.key, key⟩, ⟨.recipient, spender⟩]
  | .transferFrom contract key owner recipient _ =>
    [⟨.contract, contract⟩, ⟨.key, key⟩, ⟨.account, owner⟩, ⟨.recipient, recipient⟩]
  | .transactionStatus hash => [⟨.hash, hash⟩]
  | .initSettings _ | .showSettings => []

theorem Command.arguments_ranked (command : Command) :
    (command.arguments.map (·.role.rank)).Pairwise (· ≤ ·) := by
  cases command <;> simp [arguments, Role.rank]

def Stage.Reads (argument : Argument) : Stage → Prop
  | .read reading _ => (reading.map fun _ => ()) = argument.check
  | .ask .. => False

theorem Action.contractAt_check (session : Session) (text : String) :
    ((Action.contractAt session text).map fun _ => ()) =
      (Account.parseAddress text).map fun _ => () := by
  unfold contractAt
  cases Account.parseAddress text <;> rfl

theorem Command.errand_reads (command : Command) (s : Settings) (session : Session)
    (f : Findings) : ∃ checks rest, command.errand s session f = checks ++ rest ∧
      List.Forall₂ Stage.Reads command.arguments checks := by
  cases command with
  | deploy key => exact ⟨[_], _, rfl, by simp [arguments, Stage.Reads, Argument.check]⟩
  | queryTransfer contract key receiver amount =>
    refine ⟨[.read (Action.contractAt session contract) f.contract,
      .read (Credential.read key) f.signer,
      .read (Account.resolveRecipient receiver) f.partner], _, List.append_assoc _ _ _, ?_⟩
    simp [arguments, Stage.Reads, Argument.check, Action.contractAt_check]
  | info contract | events contract fromBlock =>
    exact ⟨[_], _, rfl, by
      simp [arguments, Stage.Reads, Argument.check, Action.contractAt_check]⟩
  | balance contract account =>
    refine ⟨[.read (Action.contractAt session contract) f.contract,
      .read (Account.resolve account) f.holder], _, List.append_assoc _ _ _, ?_⟩
    simp [arguments, Stage.Reads, Argument.check, Action.contractAt_check]
  | allowance | approve =>
    exact ⟨[_, _, _], _, rfl, by
      simp [arguments, Stage.Reads, Argument.check, Action.contractAt_check]⟩
  | transferFrom =>
    exact ⟨[_, _, _, _], _, rfl, by
      simp [arguments, Stage.Reads, Argument.check, Action.contractAt_check]⟩
  | transactionStatus => exact ⟨[_], _, rfl, by simp [arguments, Stage.Reads, Argument.check]⟩
  | initSettings | showSettings => exact ⟨[], [], rfl, .nil⟩

theorem Walk.refused_argument {checks rest : Route} {arguments : List Argument}
    {made : List Exchange} {ending : Option Failure} {failure : Failure}
    (reads : List.Forall₂ Stage.Reads arguments checks)
    (refused : arguments.findSome? Argument.refusal? = some failure)
    (walk : Walk (checks ++ rest) made ending) : made = [] ∧ ending = some failure := by
  induction reads with
  | nil => contradiction
  | @cons argument stage arguments checks read _ ih =>
    cases stage with
    | ask => contradiction
    | read reading value =>
      change (reading.map fun _ => ()) = argument.check at read
      cases walk with
      | unreadable failed =>
        rw [failed] at read
        rw [List.findSome?_cons, Argument.refusal?_eq_some.mpr read.symm] at refused
        exact ⟨rfl, refused⟩
      | readOn reads walk =>
        rw [reads] at read
        rw [List.findSome?_cons, Argument.refusal?_eq_none.mpr read.symm] at refused
        exact ih refused walk

theorem Walk.accepted_arguments {checks rest : Route} {arguments : List Argument}
    {made : List Exchange} {ending : Option Failure}
    (reads : List.Forall₂ Stage.Reads arguments checks)
    (accepted : ∀ argument ∈ arguments, argument.check = .ok ())
    (walk : Walk (checks ++ rest) made ending) : Walk rest made ending := by
  induction reads with
  | nil => exact walk
  | @cons argument stage arguments checks read _ ih =>
    rw [List.forall_mem_cons] at accepted
    cases stage with
    | ask => contradiction
    | read reading value =>
      change (reading.map fun _ => ()) = argument.check at read
      rw [accepted.1] at read
      cases walk with
      | readOn _ walk => exact ih accepted.2 walk
      | unreadable failed =>
        rw [failed] at read
        contradiction

namespace Invocation

section

variable {i : Invocation} {home : String} {files : Storage} {f : Findings} {node : Node}
  {made : List Exchange} {calls : List Call} {ending : Option Failure} {failure : Failure}

/-- A walk ends with the handshake, or what is behind it is the command's own. -/
theorem greeting_of_walk (walk : Walk (i.route home files f) made ending) :
    (made.map Exchange.call <+: [⟨f.session.url, .chainId⟩] ∧ ∃ failure, ending = some failure) ∨
      ∃ greeting later, made = greeting :: later ∧ greeting.call = ⟨f.session.url, .chainId⟩ ∧
        Walk (i.command.errand f.settings f.session f) later ending := by
  have walk : Walk (i.opening home files f ++ i.command.errand f.settings f.session f) made
      ending := walk
  rcases walk.split with ⟨failure, ended, halted⟩ | ⟨opened, later, rfl, done, errand⟩
  · exact .inl ⟨halted.calls_prefix, failure, ended⟩
  · obtain ⟨greeting, rfl, same⟩ := List.map_eq_singleton_iff.mp done.calls_of_arrived
    exact .inr ⟨greeting, later, rfl, same, errand⟩

theorem errand_of_walk {s : Settings} {session : Session}
    (walk : Walk (i.route home files f) (node.exchanges [] calls) ending)
    (settled : i.settings home files = .ok s)
    (opened : (Session.connect s.session node .idle).1 = .ok session) :
    f.session = session ∧ ∃ later, calls = ⟨session.url, .chainId⟩ :: later ∧
      Walk (i.command.errand f.settings session f)
        (node.exchanges [⟨session.url, .chainId⟩] later) ending := by
  obtain ⟨created, chain, greets⟩ := Session.connect_ok opened
  have walk : Walk (i.opening home files f ++ i.command.errand f.settings f.session f)
      (node.exchanges [] calls) ending := walk
  obtain ⟨same, walk⟩ := walk.passed settled
  obtain ⟨rfl, walk⟩ := walk.passed (same ▸ created)
  obtain ⟨later, rfl, _, walk⟩ := walk.heard greets
  exact ⟨rfl, later, rfl, walk⟩

theorem refused_of_walk (walk : Walk (i.route home files f) made ending)
    (refused : i.command.arguments.findSome? Argument.refusal? = some failure) :
    (∃ failure, ending = some failure) ∧
      made.map Exchange.call <+: [⟨f.session.url, .chainId⟩] := by
  rcases greeting_of_walk walk with ⟨asked, ended⟩ | ⟨greeting, later, rfl, same, errand⟩
  · exact ⟨ended, asked⟩
  · obtain ⟨checks, rest, shape, reads⟩ := i.command.errand_reads f.settings f.session f
    rw [shape] at errand
    obtain ⟨rfl, ended⟩ := Walk.refused_argument reads refused errand
    exact ⟨⟨failure, ended⟩, by simp [same]⟩

/-- Once a session is open, the first argument that is refused is what is reported. -/
theorem refusal_reported {s : Settings} {session : Session}
    (walk : Walk (i.route home files f) (node.exchanges [] calls) ending)
    (settled : i.settings home files = .ok s)
    (opened : (Session.connect s.session node .idle).1 = .ok session)
    (refused : i.command.arguments.findSome? Argument.refusal? = some failure) :
    ending = some failure ∧ calls = [⟨session.url, .chainId⟩] := by
  obtain ⟨checks, rest, shape, reads⟩ := i.command.errand_reads f.settings session f
  obtain ⟨_, later, rfl, errand⟩ := errand_of_walk walk settled opened
  rw [shape] at errand
  obtain ⟨silent, ended⟩ := Walk.refused_argument reads refused errand
  have spent : later = [] := by simpa using congrArg (List.map Exchange.call) silent
  rw [spent]
  exact ⟨ended, rfl⟩

end

end Invocation

/-- Questions for the chain and for what a contract says of itself. -/
inductive Request.Introductory : Request → Prop where
  | chainId : Introductory .chainId
  | name (target : Address) : Introductory (.call none target Method.name.input)
  | symbol (target : Address) : Introductory (.call none target Method.symbol.input)
  | decimals (target : Address) : Introductory (.call none target Method.decimals.input)

/-- Reads of balances, and all that leads up to a transaction. -/
inductive Request.Committing : Request → Prop where
  | balance (target account : Address) :
      Committing (.call none target (Method.balanceOf account).input)
  | nonce (account : Address) : Committing (.transactionCount account)
  | rehearsal (sender target : Address) (input : Bytes) :
      Committing (.call (some sender) target input)
  | broadcast (raw : Bytes) : Committing (.sendRaw raw)

theorem Token.Method.input_injective {first second : Method} (same : first.input = second.input) :
    first = second := by
  have read := Method.ofInput?_input first
  rw [same, Method.ofInput?_input second] at read
  exact (Option.some.inj read).symm

theorem Request.Introductory.not_committing {request : Request}
    (introductory : request.Introductory) : ¬ request.Committing := by
  intro committing
  cases introductory with
  | chainId => cases committing
  | name target | symbol target | decimals target =>
    generalize asked : Request.call none target _ = request at committing
    cases committing with
    | balance target account =>
      simp only [Request.call.injEq] at asked
      exact absurd (Method.input_injective asked.2.2) nofun
    | nonce | rehearsal | broadcast => simp at asked

def Command.amountText? (s : Settings) : Command → Option String
  | .approve _ _ _ amount | .transferFrom _ _ _ _ amount => some amount
  | .queryTransfer _ _ _ amount => some (amount.getD s.transferAmount)
  | _ => none

def Request.AsksDecimals (request : Request) : Prop :=
  ∃ target, request = .call none target Method.decimals.input

namespace Request

@[simp] theorem asksDecimals_call {sender : Option Address} {target : Address} {method : Method} :
    AsksDecimals (.call sender target method.input) ↔ sender = none ∧ method = .decimals := by
  constructor
  · rintro ⟨target, same⟩
    simp only [Request.call.injEq] at same
    exact ⟨same.1, Method.input_injective same.2.2⟩
  · rintro ⟨rfl, rfl⟩
    exact ⟨target, rfl⟩

end Request

theorem Findings.dispatch_apart (f : Findings) (s : Settings) (session : Session)
    (method : Method) : ∀ request ∈ (f.dispatch s session method).calls.map Call.request,
      ¬ request.AsksDecimals := by
  rintro request member ⟨target, rfl⟩
  simp only [dispatch, Authorization.termsRoute, Contract.transactRoute, Route.calls_append,
    List.map_append, List.mem_append] at member
  rcases member with terms | sent | polled
  · simp at terms
  · simp at sent
  · obtain ⟨call, waits, same⟩ := List.mem_map.mp polled
    rw [session.confirmRoute_calls f.hash f.wait call waits] at same
    contradiction

theorem Findings.balances_apart (f : Findings) (found : Word × Word) :
    ∀ request ∈ (Route.calls (f.balances found)).map Call.request, ¬ request.AsksDecimals := by
  simp [balances]

/-- What a command asks before it reads its amount. -/
structure Route.Leads (front : Route) : Prop where
  introductory : ∀ request ∈ front.calls.map Call.request, request.Introductory
  apart : ∀ request ∈ front.calls.map Call.request, ¬ request.AsksDecimals

/-- The amount is read behind the answer for the decimals, and they are asked for only once. -/
theorem Command.errand_amount {command : Command} {s : Settings} {text : String}
    (given : command.amountText? s = some text) (session : Session) (f : Findings) :
    ∃ front rest : Route, command.errand s session f =
        front ++ f.decimalsStage ::
          .read (Action.parseAmount text f.metadata.decimals) f.amount :: rest ∧
      front.Leads ∧ ∀ request ∈ rest.calls.map Call.request, ¬ request.AsksDecimals := by
  cases command with
  | deploy | info | balance | allowance | events | transactionStatus | initSettings
    | showSettings => contradiction
  | approve contract key spender amount =>
    cases given
    refine ⟨[_, _, _], _, rfl, ⟨?_, ?_⟩, f.dispatch_apart _ _ _⟩ <;> simp
  | transferFrom contract key owner recipient amount =>
    cases given
    refine ⟨[_, _, _, _], f.dispatch s session _ ++ [_], rfl, ⟨?_, ?_⟩, ?_⟩
    · simp
    · simp
    · rw [Route.calls_append, List.map_append, List.forall_mem_append]
      exact ⟨f.dispatch_apart _ _ _, by simp⟩
  | queryTransfer contract key receiver amount =>
    cases given
    refine ⟨[_, _, _, f.contract.viewStage .name Abi.text f.metadata.name,
      f.contract.viewStage .symbol Abi.text f.metadata.symbol], _, rfl, ⟨?_, ?_⟩, ?_⟩
    · simp [Request.Introductory.name, Request.Introductory.symbol]
    · simp
    · simp only [Route.calls_append, List.map_append, List.forall_mem_append]
      exact ⟨⟨f.balances_apart _, f.dispatch_apart _ _ _⟩, f.balances_apart _⟩

theorem Walk.requests_subset {route : Route} {made : List Exchange} {ending : Option Failure}
    (walk : Walk route made ending) :
    made.map Exchange.request ⊆ route.calls.map Call.request :=
  (Route.spells_requests route made ending walk).1.subset

/-- Where the amount cannot be read, the walk ends there if it has not ended before. -/
theorem Walk.unread_amount {front rest : Route} {f : Findings} {text : String} {decimals : Nat}
    {fault : AmountFault} {made : List Exchange} {exchange : Exchange} {ending : Option Failure}
    (walk : Walk (front ++ f.decimalsStage ::
      .read (Action.parseAmount text f.metadata.decimals) f.amount :: rest) made ending)
    (leads : front.Leads)
    (apart : ∀ request ∈ rest.calls.map Call.request, ¬ request.AsksDecimals)
    (member : exchange ∈ made) (asks : exchange.request.AsksDecimals)
    (told : Contract.evaluated .decimals Abi.small exchange.reply = .ok decimals)
    (unread : Amount.parse text decimals = .error fault) :
    (∃ failure, ending = some failure) ∧
      ∀ request ∈ made.map Exchange.request, request.Introductory := by
  have upTo : ∀ request ∈
      (Route.calls (front ++ [f.decimalsStage])).map Call.request, request.Introductory := by
    rw [Route.calls_append, List.map_append, List.forall_mem_append]
    exact ⟨leads.introductory, by simp [Findings.decimalsStage, Request.Introductory.decimals]⟩
  have within {made : List Exchange} {ending : Option Failure}
      (walk : Walk (front ++ [f.decimalsStage]) made ending) :
      ∀ request ∈ made.map Exchange.request, request.Introductory := fun request member =>
    upTo request (walk.requests_subset member)
  rw [List.append_cons] at walk
  rcases walk.split with ⟨failure, ended, halted⟩ | ⟨first, later, rfl, done, rest⟩
  · exact ⟨⟨failure, ended⟩, within halted⟩
  · cases rest with
    | unreadable failed => exact ⟨⟨_, rfl⟩, by simpa using within done⟩
    | readOn read later =>
      obtain ⟨before, answer, rfl, lead, answered⟩ := Walk.append_none_iff.mp done
      simp only [Findings.decimalsStage, Contract.viewStage, Walk.ask_none_iff, Walk.nil_iff,
        Contract.viewed_iff] at answered
      obtain ⟨reply, _, rfl, heard, rfl, _⟩ := answered
      have absent {route : Route} {made : List Exchange} {ending : Option Failure}
          (walk : Walk route made ending)
          (apart : ∀ request ∈ route.calls.map Call.request, ¬ request.AsksDecimals) :
          exchange ∉ made := fun member =>
        apart _ (walk.requests_subset (List.mem_map_of_mem member)) asks
      rcases List.mem_append.mp member with member | member
      · rcases List.mem_append.mp member with member | member
        · exact absurd member (absent lead leads.apart)
        · obtain rfl := List.mem_singleton.mp member
          rw [heard] at told
          cases told
          rw [Action.parseAmount, unread] at read
          contradiction
      · exact absurd member (absent later apart)

theorem Amount.parse_of_many_decimals (text : String) {decimals : Nat} (many : 78 ≤ decimals) :
    parse text decimals = .error (.decimalsOverflow decimals) := by
  simp only [parse, scale_eq_none many]

namespace Invocation

/-- What becomes of a run whose arguments are not all what they stand for. -/
structure ChecksFirst (i : Invocation) (home : String) (files : Storage) (node : Node) : Prop where
  /-- With one wrong argument the run fails, and at most the handshake has taken place. -/
  unheard : ∀ argument ∈ i.command.arguments, ∀ failure, argument.check = .error failure →
    (∃ failure, i.outcome home files node = .error failure) ∧
    i.requests home files node <+: [.chainId]
  /-- Once the session is open, the first wrong argument is the one that is reported. -/
  first : ∀ s session before argument after failure, i.settings home files = .ok s →
    (Session.connect s.session node .idle).1 = .ok session →
    i.command.arguments = before ++ argument :: after →
    (∀ earlier ∈ before, earlier.check = .ok ()) → argument.check = .error failure →
    i.outcome home files node = .error failure ∧ i.requests home files node = [.chainId]
  ranked : (i.command.arguments.map (·.role.rank)).Pairwise (· ≤ ·)
  /-- An amount that cannot be read in the decimals that the contract tells ends the run before
  anything is asked that serves a transaction. -/
  unread : ∀ s text exchange target decimals fault, i.settings home files = .ok s →
    i.command.amountText? s = some text → exchange ∈ i.transcript home files node →
    exchange.request = .call none target Method.decimals.input →
    Contract.evaluated .decimals Abi.small exchange.reply = .ok decimals →
    Amount.parse text decimals = .error fault →
    (∃ failure, i.outcome home files node = .error failure) ∧
    ∀ request ∈ i.requests home files node, ¬ request.Committing
  unscaled : ∀ text decimals, 78 ≤ decimals →
    Amount.parse text decimals = .error (.decimalsOverflow decimals)

theorem isOnline_of_arguments {i : Invocation} {argument : Argument}
    (member : argument ∈ i.command.arguments) : i.command.isOnline = true := by
  cases asked : i.command <;> simp_all [Command.arguments, Command.isOnline]

theorem amount_unread {i : Invocation} {home : String} {files : Storage} {f : Findings}
    {made : List Exchange} {ending : Option Failure} {s : Settings} {text : String}
    {exchange : Exchange} {decimals : Nat} {fault : AmountFault}
    (walk : Walk (i.route home files f) made ending) (settled : i.settings home files = .ok s)
    (given : i.command.amountText? s = some text) (member : exchange ∈ made)
    (asks : exchange.request.AsksDecimals)
    (told : Contract.evaluated .decimals Abi.small exchange.reply = .ok decimals)
    (unread : Amount.parse text decimals = .error fault) :
    (∃ failure, ending = some failure) ∧
      ∀ request ∈ made.map Exchange.request, request.Introductory := by
  have same := settings_of_walk walk (List.ne_nil_of_mem member)
  obtain rfl : s = f.settings := Except.ok.inj (settled.symm.trans same)
  obtain ⟨front, rest, shape, leads, apart⟩ := Command.errand_amount given f.session f
  have walk : Walk (i.opening home files f ++ i.command.errand f.settings f.session f) made
      ending := walk
  rw [shape, ← List.append_assoc] at walk
  refine walk.unread_amount ⟨?_, ?_⟩ apart member asks told unread
  · rw [Route.calls_append, List.map_append, List.forall_mem_append]
    exact ⟨by simp [opening, Session.connectRoute, Request.Introductory.chainId],
      leads.introductory⟩
  · rw [Route.calls_append, List.map_append, List.forall_mem_append]
    exact ⟨by simp [opening, Session.connectRoute, Request.AsksDecimals], leads.apart⟩

theorem run_checks_first (i : Invocation) (home : String) (files : Storage) (node : Node) :
    i.ChecksFirst home files node where
  unheard argument member failure wrong := by
    have online := isOnline_of_arguments member
    obtain ⟨f, ending, walk, -, halted⟩ := (i.run_ends home files node online).walk
    obtain ⟨reported, refused⟩ : ∃ failure,
        i.command.arguments.findSome? Argument.refusal? = some failure := by
      apply Option.isSome_iff_exists.mp
      rw [List.findSome?_isSome_iff]
      exact ⟨argument, member, by rw [Argument.refusal?_eq_some.mpr wrong]; rfl⟩
    obtain ⟨⟨failure, ended⟩, asked⟩ := refused_of_walk walk refused
    have called : i.requests home files node =
        ((i.transcript home files node).map Exchange.call).map Call.request := by
      rw [List.map_map]
      rfl
    rw [called]
    exact ⟨⟨failure, halted failure ended⟩, asked.map Call.request⟩
  first s session before argument after failure settled opened shape passed wrong := by
    have member : argument ∈ i.command.arguments := by simp [shape]
    have online := isOnline_of_arguments member
    obtain ⟨f, ending, walk, -, halted⟩ := (i.run_ends home files node online).walk
    have refused : i.command.arguments.findSome? Argument.refusal? = some failure :=
      List.findSome?_eq_some_iff.mpr ⟨before, argument, after, shape,
        Argument.refusal?_eq_some.mpr wrong, fun earlier member =>
          Argument.refusal?_eq_none.mpr (passed earlier member)⟩
    obtain ⟨ended, calls⟩ := refusal_reported walk settled opened refused
    refine ⟨halted failure ended, ?_⟩
    rw [requests, transcript, calls]
    rfl
  ranked := i.command.arguments_ranked
  unread s text exchange target decimals fault settled given member asks told unread := by
    have online := isOnline_of_asked (List.ne_nil_of_mem member)
    obtain ⟨f, ending, walk, -, halted⟩ := (i.run_ends home files node online).walk
    obtain ⟨⟨failure, ended⟩, introductory⟩ :=
      amount_unread walk settled given member ⟨target, asks⟩ told unread
    exact ⟨⟨failure, halted failure ended⟩, fun request asked =>
      (introductory request asked).not_committing⟩
  unscaled text _ many := Amount.parse_of_many_decimals text many

end Invocation

def mistakenInvocation : Invocation :=
  { sampleInvocation with
    command := .approve "0x00000000000000000000000000000000000000c0" "12" "0x00" "1.5" }

/-- Reports the chain 9000 and then 78 decimals. -/
def fineGrainedNode : Node := Node.scripted [⟨.result (.string "0x2328"), 1⟩, ⟨wordReply 78, 1⟩]

theorem fineGrained_told : ⟨⟨sampleUrl, .call none 0xc0 Method.decimals.input⟩, wordReply 78⟩ ∈
    sampleInvocation.transcript "" sampleFiles fineGrainedNode := by
  obtain ⟨f, ending, walk, -, -⟩ := (sampleInvocation.run_ends "" sampleFiles fineGrainedNode
    rfl).walk
  unfold Invocation.transcript at walk ⊢
  generalize (sampleInvocation.perform "" sampleFiles fineGrainedNode).2.wire.calls = calls
    at walk ⊢
  obtain ⟨settings, walk⟩ := walk.passed sample_settings
  rw [settings] at walk
  obtain ⟨session, walk⟩ := walk.passed sample_opened
  rw [session] at walk
  obtain ⟨calls, rfl, _, walk⟩ := walk.heard (ok_of_toOption (a := 9000) (by decide +kernel))
  obtain ⟨contract, walk⟩ := walk.passed
    (ok_of_toOption (a := ⟨sampleSession, 0xc0⟩) (by decide +kernel))
  obtain ⟨_, walk⟩ := walk.passed (ok_of_toOption (a := sampleSigner) (by decide +kernel))
  obtain ⟨_, walk⟩ := walk.passed (ok_of_toOption (a := 0xd1) (by decide +kernel))
  simp only [Findings.decimalsStage, contract] at walk
  obtain ⟨calls, rfl, _⟩ := walk.heard (ok_of_toOption (a := 78) (by decide +kernel))
  exact .tail _ (.head _)

theorem Invocation.run_checks_first_approve :
    mistakenInvocation.outcome "" sampleFiles sampleNode =
        .error (.invalidKey "expected 32 bytes, got 1") ∧
      mistakenInvocation.requests "" sampleFiles sampleNode = [.chainId] ∧
      (∃ failure, sampleInvocation.outcome "" sampleFiles fineGrainedNode = .error failure) := by
  have mistaken := mistakenInvocation.run_checks_first "" sampleFiles sampleNode
  obtain ⟨outcome, requests⟩ := mistaken.first sampleSettings sampleSession
    [⟨.contract, "0x00000000000000000000000000000000000000c0"⟩] ⟨.key, "12"⟩
    [⟨.recipient, "0x00"⟩] (.invalidKey "expected 32 bytes, got 1")
    (ok_of_toOption (by decide +kernel)) (ok_of_toOption (by decide +kernel)) rfl
    (by decide +kernel) (by decide +kernel)
  have unread := (sampleInvocation.run_checks_first "" sampleFiles fineGrainedNode).unread
    sampleSettings "1.5"
    ⟨⟨sampleUrl, .call none 0xc0 Method.decimals.input⟩, wordReply 78⟩ 0xc0 78
    (.decimalsOverflow 78) sample_settings rfl
    fineGrained_told rfl
    (ok_of_toOption (by decide +kernel)) (Amount.parse_of_many_decimals _ (by decide))
  exact ⟨outcome, requests, unread.1⟩

end TokenClient
