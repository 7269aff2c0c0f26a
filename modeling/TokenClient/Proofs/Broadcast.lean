import TokenClient.Proofs.ExactAmount
import TokenClient.Proofs.KeccakLanes
import TokenClient.Proofs.RawTransaction
import TokenClient.Proofs.RequestSequence
import TokenClient.Proofs.SettingsReading
import TokenClient.Proofs.WordReplies

/-! Broadcast transactions. Whatever is broadcast carries what the command line asks for, on the
terms that the node has just told, and the same call has been rehearsed. -/
namespace TokenClient

open Token

def Route.Quiet (route : Route) : Prop := ∀ call ∈ route.calls, call.request.isBroadcast = false

theorem Walk.not_mem_of_quiet {route : Route} {made : List Exchange} {exchange : Exchange}
    {ending : Option Failure} (walk : Walk route made ending) (quiet : route.Quiet)
    (sent : exchange.request.isBroadcast) : exchange ∉ made := by
  intro member
  have called := walk.calls_prefix.subset (List.mem_map_of_mem member)
  have silent := quiet _ called
  exact absurd sent (by simp [Exchange.request, silent])

/-- A broadcast in a run is the one on its route, and the run has come through all before it. -/
theorem Walk.reaches {front back : Route} {made before after : List Exchange}
    {exchange : Exchange} {ending : Option Failure} {session : Session} {raw : Bytes}
    {hash : TxHash} (walk : Walk (front ++ session.sendStage raw hash :: back) made ending)
    (quietFront : front.Quiet) (quietBack : back.Quiet)
    (place : made = before ++ exchange :: after) (sent : exchange.request.isBroadcast) :
    exchange.call = ⟨session.url, .sendRaw raw⟩ ∧ Walk front before none := by
  rcases walk.split with ⟨failure, _, halted⟩ | ⟨first, rest, joined, done, later⟩
  · have member : exchange ∈ made := by simp [place]
    exact absurd member (halted.not_mem_of_quiet quietFront sent)
  · have shape : ∃ reply more, rest = ⟨⟨session.url, .sendRaw raw⟩, reply⟩ :: more ∧
        exchange ∉ more := by
      cases later with
      | answered _ later => exact ⟨_, _, rfl, later.not_mem_of_quiet quietBack sent⟩
      | refused _ => exact ⟨_, [], rfl, List.not_mem_nil⟩
    obtain ⟨reply, more, rfl, absent⟩ := shape
    rw [place] at joined
    obtain ⟨rfl, rfl, rfl⟩ :=
      (List.append_cons_inj_of_notMem (done.not_mem_of_quiet quietFront sent) absent).mp joined.symm
    exact ⟨rfl, done⟩

namespace Route

theorem quiet_nil : Route.Quiet [] := by simp [Route.Quiet]

@[simp] theorem quiet_append {first second : Route} :
    Route.Quiet (first ++ second) ↔ first.Quiet ∧ second.Quiet := by
  simp [Route.Quiet, or_imp, forall_and]

theorem quiet_of_requests {route : Route}
    (silent : ∀ request ∈ route.calls.map Call.request, request.isBroadcast = false) :
    route.Quiet := by
  intro call member
  exact silent _ (List.mem_map_of_mem member)

end Route

theorem Session.confirmRoute_quiet (session : Session) (hash : TxHash) (wait : Session.Wait) :
    (session.confirmRoute hash wait).Quiet := by
  intro call member
  rw [session.confirmRoute_calls hash wait call member]
  rfl

/-- The exchanges in which a node tells nonce, gas price and chain, in this order. -/
def TermsTold (url : String) (account : Address) (t : Transaction) (made : List Exchange) : Prop :=
  ∃ nonce gasPrice chain : Reply,
    made = [⟨⟨url, .transactionCount account⟩, nonce⟩, ⟨⟨url, .gasPrice⟩, gasPrice⟩,
      ⟨⟨url, .chainId⟩, chain⟩] ∧
    nonce.understood (Json.quantity? 64) = .ok t.nonce ∧
    gasPrice.understood (Json.quantity? 128) = .ok t.gasPrice ∧
    chain.understood (Json.quantity? 64) = .ok t.chainId

/-- The one exchange in which a call from this sender has been tried and found to succeed. -/
def Rehearsed (url : String) (sender target : Address) (input : Bytes) (made : List Exchange) :
    Prop :=
  ∃ reply data, made = [⟨⟨url, .call (some sender) target input⟩, reply⟩] ∧
    reply.understood Json.bytes? = .ok data ∧ Abi.flag data = .ok true

/-- The contract has told its decimals. -/
def DecimalsTold (url : String) (target : Address) (decimals : Nat) (made : List Exchange) : Prop :=
  ∃ reply data, ⟨⟨url, .call none target Method.decimals.input⟩, reply⟩ ∈ made ∧
    reply.understood Json.bytes? = .ok data ∧ Abi.small data = .ok decimals

/-- The word that is the text's value in base units. -/
def Units (text : String) (decimals : Nat) (word : Word) : Prop :=
  ∃ value, Amount.Denotes text value ∧ (word.toNat : ℚ) = value * 10 ^ decimals

/-- Who signs what, as the arguments of a command say it. -/
inductive Command.Orders (s : Settings) (decimals : Nat) :
    Command → Credential → Destination → Bytes → Prop where
  | deploy : Credential.read key = .ok signer →
      Orders s decimals (.deploy key) signer .creation Token.code
  | transfer : Account.parseAddress contract = .ok target → Credential.read key = .ok signer →
      Account.resolveRecipient receiver = .ok recipient →
      Units (amount.getD s.transferAmount) decimals units →
      Orders s decimals (.queryTransfer contract key receiver amount) signer (.account target)
        (Method.transfer recipient units).input
  | approve : Account.parseAddress contract = .ok target → Credential.read key = .ok signer →
      Account.resolveRecipient spender = .ok allowed → Units amount decimals units →
      Orders s decimals (.approve contract key spender amount) signer (.account target)
        (Method.approve allowed units).input
  | transferFrom : Account.parseAddress contract = .ok target →
      Credential.read key = .ok signer → Account.resolve owner = .ok source →
      Account.resolveRecipient recipient = .ok goal → Units amount decimals units →
      Orders s decimals (.transferFrom contract key owner recipient amount) signer
        (.account target) (Method.transferFrom source goal units).input

theorem terms_told {session : Session} {account : Address} {terms : Authorization.Terms}
    {made : List Exchange} (walk : Walk (Authorization.termsRoute session account terms) made none)
    (t : Transaction) (same : t.nonce = terms.nonce ∧ t.gasPrice = terms.gasPrice ∧
      t.chainId = terms.chainId) : TermsTold session.url account t made := by
  simp only [Authorization.termsRoute, Session.demandStage, Walk.read_none_iff, Walk.ask_none_iff,
    Walk.nil_iff, Session.demanded_iff] at walk
  obtain ⟨_, nonce, _, rfl, nonceTold, gasPrice, _, rfl, priceTold, chain, _, rfl, chainTold, rfl,
    _⟩ := walk
  refine ⟨nonce, gasPrice, chain, rfl, ?_, ?_, ?_⟩
  · rw [same.1, nonceTold]
  · rw [same.2.1, priceTold]
  · rw [same.2.2, chainTold]

theorem rehearsed_of_walk {contract : Contract} {sender : Address} {method : Method}
    {made : List Exchange} (walk : Walk [contract.rehearsalStage sender method] made none) :
    Rehearsed contract.session.url sender contract.address method.input made := by
  simp only [Contract.rehearsalStage, Walk.ask_none_iff, Walk.nil_iff, Contract.rehearsed_iff,
    Contract.evaluated_iff] at walk
  obtain ⟨reply, _, rfl, ⟨data, understood, _, agreed⟩, rfl, _⟩ := walk
  exact ⟨reply, data, rfl, understood, agreed⟩

theorem quantity_lt {bits number : Nat} {value : Json}
    (read : Json.quantity? bits value = some number) : number < 2 ^ bits := by
  unfold Json.quantity? at read
  split at read
  · simpa using (Option.filter_eq_some_iff.mp read).2
  · contradiction

theorem understood_quantity_lt {bits number : Nat} {reply : Reply}
    (told : reply.understood (Json.quantity? bits) = .ok number) : number < 2 ^ bits := by
  obtain ⟨value, _, read⟩ := understood_iff.mp told
  exact quantity_lt read

theorem Token.Method.length_input_le (method : Method) : method.input.length ≤ 100 := by
  have selector : method.selector.length ≤ 4 := List.length_take_le _ _
  have words : (Abi.encodeWords method.arguments).length = 32 * method.arguments.length := by
    simp [Abi.encodeWords, Word.toBytes, List.length_flatMap, Nat.mul_comm]
  have few : method.arguments.length ≤ 3 := by cases method <;> simp [Method.arguments]
  rw [Method.input, List.length_append]
  omega

set_option maxRecDepth 2000 in
theorem Token.length_code_lt : Token.code.length < 2 ^ 32 := by
  have words : codeWords.length < 2 ^ 26 := by decide
  simp [Token.code, List.length_flatMap]
  omega

theorem Credential.fits_seal (credential : Credential) {t : Transaction}
    (older : t.accessList = none) (nonce : t.nonce < 2 ^ 64) (gas : t.gas < 2 ^ 64)
    (gasPrice : t.gasPrice < 2 ^ 128) (chainId : t.chainId < 2 ^ 64)
    (short : t.input.length < 2 ^ 63) : t.Fits (credential.sign t.signingHash) where
  older := older
  nonce := Nat.lt_trans nonce (by decide)
  gasPrice := Nat.lt_trans gasPrice (by decide)
  gas := Nat.lt_trans gas (by decide)
  chainId := Nat.lt_trans chainId (by decide)
  input := short
  r := (Secp256k1.sign_bounded credential.secret t.signingHash.toNat).1
  s := (Secp256k1.sign_bounded credential.secret t.signingHash.toNat).2

theorem Credential.ofRaw_seal (credential : Credential) {t : Transaction}
    (older : t.accessList = none) (nonce : t.nonce < 2 ^ 64) (gas : t.gas < 2 ^ 64)
    (gasPrice : t.gasPrice < 2 ^ 128) (chainId : t.chainId < 2 ^ 64)
    (short : t.input.length < 2 ^ 32) :
    Transaction.ofRaw (credential.seal t).raw = some (t, credential.sign t.signingHash) := by
  have spelled : (credential.seal t).raw = t.signedBytes (credential.sign t.signingHash) := rfl
  rw [spelled]
  exact Transaction.ofRaw_signedBytes t _ (credential.fits_seal older nonce gas gasPrice chainId
    (Nat.lt_trans short (by decide)))

namespace Authorization

/-- The numbers have the sizes in which a node and the settings give them. -/
structure Fits (auth : Authorization) : Prop where
  nonce : auth.nonce < 2 ^ 64
  gasLimit : auth.gasLimit < 2 ^ 64
  gasPrice : auth.gasPrice < 2 ^ 128
  chainId : auth.chainId < 2 ^ 64

theorem ofRaw_of_fits {auth : Authorization} (fits : auth.Fits) (destination : Destination)
    {input : Bytes} (short : input.length < 2 ^ 32) :
    Transaction.ofRaw (auth.raw destination input) =
      some (auth.transaction destination input,
        auth.credential.sign (auth.transaction destination input).signingHash) :=
  auth.credential.ofRaw_seal rfl fits.nonce fits.gasLimit fits.gasPrice fits.chainId short

theorem ofRaw_raw {auth : Authorization} {destination : Destination} {input : Bytes} {url : String}
    {account : Address} {made : List Exchange}
    (told : TermsTold url account (auth.transaction destination input) made)
    (gas : auth.gasLimit < 2 ^ 64) (short : input.length < 2 ^ 32) :
    Transaction.ofRaw (auth.raw destination input) =
      some (auth.transaction destination input,
        auth.credential.sign (auth.transaction destination input).signingHash) := by
  obtain ⟨_, _, _, _, nonce, gasPrice, chainId⟩ := told
  have fits : auth.Fits := ⟨understood_quantity_lt nonce, gas, understood_quantity_lt gasPrice,
    understood_quantity_lt chainId⟩
  exact ofRaw_of_fits fits destination short

end Authorization

/-- A run that broadcasts on the way of a rehearsed call has made its opening, heard the terms and
tried the call. -/
theorem Findings.dispatch_reaches {f : Findings} {s : Settings} {session : Session}
    {method : Method} {opening closing : Route} {made before after : List Exchange}
    {exchange : Exchange} {ending : Option Failure}
    (walk : Walk (opening ++ (f.dispatch s session method ++ closing)) made ending)
    (quietOpening : opening.Quiet) (quietClosing : closing.Quiet)
    (place : made = before ++ exchange :: after) (sent : exchange.request.isBroadcast) :
    exchange.call = ⟨f.contract.session.url,
      .sendRaw ((f.auth s).raw (.account f.contract.address) method.input)⟩ ∧
    ∃ earlier terms rehearsal, before = earlier ++ terms ++ rehearsal ∧
      Walk opening earlier none ∧
      Walk (Authorization.termsRoute session f.signer.address f.terms) terms none ∧
      Walk [f.contract.rehearsalStage f.signer.address method] rehearsal none := by
  have inOrder : opening ++ (f.dispatch s session method ++ closing) =
      (opening ++ (Authorization.termsRoute session f.signer.address f.terms ++
        [f.contract.rehearsalStage f.signer.address method])) ++
      f.contract.session.sendStage ((f.auth s).raw (.account f.contract.address) method.input)
        f.hash :: (session.confirmRoute f.hash f.wait ++ closing) := by
    simp [dispatch, Contract.transactRoute, auth, Authorization.sender]
  have quietTerms : Route.Quiet (Authorization.termsRoute session f.signer.address f.terms ++
      [f.contract.rehearsalStage f.signer.address method]) := by
    apply Route.quiet_of_requests
    simp [Authorization.termsRoute, Request.isBroadcast]
  rw [inOrder] at walk
  obtain ⟨call, reached⟩ := walk.reaches (Route.quiet_append.mpr ⟨quietOpening, quietTerms⟩)
    (Route.quiet_append.mpr ⟨session.confirmRoute_quiet f.hash f.wait, quietClosing⟩) place sent
  obtain ⟨earlier, rest, rfl, opened, later⟩ := Walk.append_none_iff.mp reached
  obtain ⟨terms, rehearsal, rfl, told, tried⟩ := Walk.append_none_iff.mp later
  exact ⟨call, earlier, terms, rehearsal, (List.append_assoc _ _ _).symm, opened, told, tried⟩

/-- What stands behind a transaction that is broadcast to a node after these exchanges. -/
structure Backing (s : Settings) (command : Command) (url : String) (before : List Exchange)
    (signer : Credential) (t : Transaction) : Prop where
  older : t.accessList = none
  gas : t.gas = s.gasLimit
  value : t.value = 0
  grounds : ∃ decimals earlier terms rehearsal, before = earlier ++ terms ++ rehearsal ∧
    command.Orders s decimals signer t.destination t.input ∧
    TermsTold url signer.address t terms ∧
    match t.destination with
    | .creation => rehearsal = []
    | .account target =>
      Rehearsed url signer.address target t.input rehearsal ∧
        DecimalsTold url target decimals earlier

/-- The transaction in a broadcast, signed and with all its backing. -/
def Backed (s : Settings) (command : Command) (url : String) (before : List Exchange)
    (raw : Bytes) : Prop :=
  ∃ signer t, Transaction.ofRaw raw = some (t, signer.sign t.signingHash) ∧
    Backing s command url before signer t

theorem Findings.dispatch_backed {f : Findings} {s : Settings} {command : Command}
    {method : Method} {opening closing : Route} {made before after : List Exchange} {url : String}
    {raw : Bytes} {reply : Reply} {ending : Option Failure}
    (walk : Walk (opening ++ (f.dispatch s f.session method ++ closing)) made ending)
    (quietOpening : opening.Quiet) (quietClosing : closing.Quiet)
    (place : made = before ++ ⟨⟨url, .sendRaw raw⟩, reply⟩ :: after) (gas : s.gasLimit < 2 ^ 64)
    (opened : ∀ earlier, Walk opening earlier none →
      f.contract.session = f.session ∧
      command.Orders s f.metadata.decimals f.signer (.account f.contract.address) method.input ∧
      DecimalsTold f.session.url f.contract.address f.metadata.decimals earlier) :
    Backed s command url before raw := by
  obtain ⟨call, earlier, terms, rehearsal, rfl, first, told, tried⟩ :=
    dispatch_reaches walk quietOpening quietClosing place rfl
  obtain ⟨same, orders, decimals⟩ := opened earlier first
  rw [same] at call
  cases call
  have toldTerms := terms_told told
    ((f.auth s).transaction (.account f.contract.address) method.input) ⟨rfl, rfl, rfl⟩
  have agreed := rehearsed_of_walk tried
  rw [same] at agreed
  have short := Nat.lt_of_le_of_lt method.length_input_le (by decide : 100 < 2 ^ 32)
  refine ⟨f.signer, _, Authorization.ofRaw_raw toldTerms gas short, rfl, rfl, rfl, ?_⟩
  exact ⟨f.metadata.decimals, earlier, terms, rehearsal, rfl, orders, toldTerms, agreed, decimals⟩

namespace Action

theorem contractAt_ok {session : Session} {text : String} {contract : Contract}
    (read : contractAt session text = .ok contract) :
    contract.session = session ∧ Account.parseAddress text = .ok contract.address := by
  unfold contractAt at read
  cases parsed : Account.parseAddress text with
  | error failure => simp [parsed, Except.map] at read
  | ok address =>
    simp only [parsed, Except.map, Except.ok.injEq] at read
    subst read
    exact ⟨rfl, rfl⟩

theorem parseAmount_units {text : String} {decimals : Nat} {amount : Amount}
    (read : parseAmount text decimals = .ok amount) : Units text decimals amount.raw := by
  unfold parseAmount at read
  cases parsed : Amount.parse text decimals with
  | error fault => simp [parsed, Except.mapError] at read
  | ok told =>
    simp only [parsed, Except.mapError, Except.ok.injEq] at read
    subst read
    exact (Amount.parse_exact parsed).2

end Action

theorem decimals_told {contract : Contract} {decimals : Nat} {reply : Reply}
    {made : List Exchange}
    (viewed : Contract.viewed .decimals Abi.small reply = .ok decimals)
    (member : ⟨⟨contract.session.url, .call none contract.address Method.decimals.input⟩, reply⟩ ∈
      made) : DecimalsTold contract.session.url contract.address decimals made := by
  obtain ⟨data, understood, _, small⟩ := Contract.evaluated_iff.mp (Contract.viewed_iff.mp viewed)
  exact ⟨reply, data, member, understood, small⟩

theorem DecimalsTold.mono {url : String} {target : Address} {decimals : Nat}
    {made more : List Exchange} (told : DecimalsTold url target decimals made)
    (kept : made ⊆ more) : DecimalsTold url target decimals more := by
  obtain ⟨reply, data, member, understood, small⟩ := told
  exact ⟨reply, data, kept member, understood, small⟩

theorem DecimalsTold.append_left {url : String} {target : Address} {decimals : Nat}
    {made : List Exchange} (told : DecimalsTold url target decimals made)
    (earlier : List Exchange) : DecimalsTold url target decimals (earlier ++ made) :=
  told.mono (List.subset_append_right earlier made)

def Command.signs : Command → Bool
  | .deploy _ | .queryTransfer .. | .approve .. | .transferFrom .. => true
  | _ => false

theorem Command.errand_quiet (command : Command) (s : Settings) (session : Session) (f : Findings)
    (reads : command.signs = false) : (command.errand s session f).Quiet := by
  apply Route.quiet_of_requests
  cases command with
  | deploy | queryTransfer | approve | transferFrom => contradiction
  | events contract fromBlock =>
    simp only [errand, Cursor.batchRoute]
    split <;> simp [Findings.decimalsStage, Cursor.logsCall, Request.isBroadcast]
  | _ =>
    simp [errand, Contract.metadataRoute, Findings.decimalsStage, Request.isBroadcast]

namespace Invocation

/-- What every run that needs a node begins with. -/
def opening (i : Invocation) (home : String) (files : Storage) (f : Findings) : Route :=
  .read (i.settings home files) f.settings ::
    Session.connectRoute f.settings.session f.session f.chain

theorem opening_quiet (i : Invocation) (home : String) (files : Storage) (f : Findings) :
    (i.opening home files f).Quiet := by
  apply Route.quiet_of_requests
  simp [opening, Session.connectRoute, Request.isBroadcast]

section

variable {i : Invocation} {home : String} {files : Storage} {f : Findings}
  {made before after : List Exchange} {url : String} {raw : Bytes} {reply : Reply}
  {ending : Option Failure}

/-- Before a rehearsed call of a command stand its arguments, and they are what it is backed by. -/
theorem rehearsed_backed {command : Command} {method : Method} {arguments closing : Route}
    (walk : Walk (i.opening home files f ++ command.errand f.settings f.session f) made ending)
    (shape : command.errand f.settings f.session f =
      arguments ++ (f.dispatch f.settings f.session method ++ closing))
    (quietArguments : arguments.Quiet) (quietClosing : closing.Quiet)
    (place : made = before ++ ⟨⟨url, .sendRaw raw⟩, reply⟩ :: after)
    (gas : f.settings.gasLimit < 2 ^ 64)
    (argued : ∀ asked, Walk arguments asked none →
      f.contract.session = f.session ∧
      command.Orders f.settings f.metadata.decimals f.signer (.account f.contract.address)
        method.input ∧
      DecimalsTold f.session.url f.contract.address f.metadata.decimals asked) :
    Backed f.settings command url before raw := by
  rw [shape, ← List.append_assoc] at walk
  have quiet := Route.quiet_append.mpr ⟨i.opening_quiet home files f, quietArguments⟩
  refine Findings.dispatch_backed walk quiet quietClosing place gas ?_
  intro earlier first
  obtain ⟨opened, asked, rfl, _, rest⟩ := Walk.append_none_iff.mp first
  obtain ⟨same, orders, told⟩ := argued asked rest
  exact ⟨same, orders, told.append_left opened⟩

theorem approve_backed {contract key spender amount : String}
    (walk : Walk (i.opening home files f ++
      (Command.approve contract key spender amount).errand f.settings f.session f) made ending)
    (place : made = before ++ ⟨⟨url, .sendRaw raw⟩, reply⟩ :: after)
    (gas : f.settings.gasLimit < 2 ^ 64) :
    Backed f.settings (.approve contract key spender amount) url before raw := by
  let arguments : Route := [.read (Action.contractAt f.session contract) f.contract,
    .read (Credential.read key) f.signer, .read (Account.resolveRecipient spender) f.partner,
    f.decimalsStage, .read (Action.parseAmount amount f.metadata.decimals) f.amount]
  have shape : (Command.approve contract key spender amount).errand f.settings f.session f =
      arguments ++ (f.dispatch f.settings f.session (.approve f.partner f.amount.raw) ++ []) := by
    simp [arguments, Command.errand]
  have quiet : arguments.Quiet := by
    apply Route.quiet_of_requests
    simp [arguments, Findings.decimalsStage, Request.isBroadcast]
  refine rehearsed_backed walk shape quiet Route.quiet_nil place gas ?_
  intro asked argued
  simp only [arguments, Findings.decimalsStage, Contract.viewStage, Walk.read_none_iff,
    Walk.ask_none_iff, Walk.nil_iff] at argued
  obtain ⟨target, signer, allowed, _, _, rfl, decimals, units, rfl, _⟩ := argued
  obtain ⟨same, target⟩ := Action.contractAt_ok target
  refine ⟨same, .approve target signer allowed (Action.parseAmount_units units), ?_⟩
  rw [← same]
  exact decimals_told decimals (by simp)

theorem transferFrom_backed {contract key owner recipient amount : String}
    (walk : Walk (i.opening home files f ++
      (Command.transferFrom contract key owner recipient amount).errand f.settings f.session f)
      made ending)
    (place : made = before ++ ⟨⟨url, .sendRaw raw⟩, reply⟩ :: after)
    (gas : f.settings.gasLimit < 2 ^ 64) :
    Backed f.settings (.transferFrom contract key owner recipient amount) url before raw := by
  let arguments : Route := [.read (Action.contractAt f.session contract) f.contract,
    .read (Credential.read key) f.signer, .read (Account.resolve owner) f.holder,
    .read (Account.resolveRecipient recipient) f.partner, f.decimalsStage,
    .read (Action.parseAmount amount f.metadata.decimals) f.amount]
  let left : Route := [f.contract.viewStage (.allowance f.holder f.signer.address) Abi.word f.word]
  have shape : (Command.transferFrom contract key owner recipient amount).errand f.settings
      f.session f = arguments ++ (f.dispatch f.settings f.session
        (.transferFrom f.holder f.partner f.amount.raw) ++ left) := by
    simp [arguments, left, Command.errand, Command.movingErrand]
  have quiet : arguments.Quiet := by
    apply Route.quiet_of_requests
    simp [arguments, Findings.decimalsStage, Request.isBroadcast]
  have quietLeft : left.Quiet := by
    apply Route.quiet_of_requests
    simp [left, Request.isBroadcast]
  refine rehearsed_backed walk shape quiet quietLeft place gas ?_
  intro asked argued
  simp only [arguments, Findings.decimalsStage, Contract.viewStage, Walk.read_none_iff,
    Walk.ask_none_iff, Walk.nil_iff] at argued
  obtain ⟨target, signer, source, goal, _, _, rfl, decimals, units, rfl, _⟩ := argued
  obtain ⟨same, target⟩ := Action.contractAt_ok target
  refine ⟨same, .transferFrom target signer source goal (Action.parseAmount_units units), ?_⟩
  rw [← same]
  exact decimals_told decimals (by simp)

theorem queryTransfer_backed {contract key receiver : String} {amount : Option String}
    (walk : Walk (i.opening home files f ++
      (Command.queryTransfer contract key receiver amount).errand f.settings f.session f)
      made ending)
    (place : made = before ++ ⟨⟨url, .sendRaw raw⟩, reply⟩ :: after)
    (gas : f.settings.gasLimit < 2 ^ 64) :
    Backed f.settings (.queryTransfer contract key receiver amount) url before raw := by
  let arguments : Route := [.read (Action.contractAt f.session contract) f.contract,
      .read (Credential.read key) f.signer,
      .read (Account.resolveRecipient receiver) f.partner] ++
    f.contract.metadataRoute f.metadata ++
    .read (Action.parseAmount (amount.getD f.settings.transferAmount) f.metadata.decimals)
      f.amount :: f.balances f.before
  have shape : (Command.queryTransfer contract key receiver amount).errand f.settings f.session f =
      arguments ++ (f.dispatch f.settings f.session (.transfer f.partner f.amount.raw) ++
        f.balances f.after) := by
    simp [arguments, Command.errand]
  have quiet : arguments.Quiet := by
    apply Route.quiet_of_requests
    simp [arguments, Contract.metadataRoute, Findings.balances, Request.isBroadcast]
  have quietAfter : Route.Quiet (f.balances f.after) := by
    apply Route.quiet_of_requests
    simp [Findings.balances, Request.isBroadcast]
  refine rehearsed_backed walk shape quiet quietAfter place gas ?_
  intro asked argued
  simp only [arguments, Contract.metadataRoute, Findings.balances, Contract.viewStage,
    List.cons_append, List.nil_append, Walk.read_none_iff, Walk.ask_none_iff, Walk.nil_iff]
    at argued
  obtain ⟨target, signer, goal, _, _, rfl, _, _, _, rfl, _, _, _, rfl, decimals, units, _, _, rfl,
    _, _, _, rfl, _, rfl, _⟩ := argued
  obtain ⟨same, target⟩ := Action.contractAt_ok target
  refine ⟨same, .transfer target signer goal (Action.parseAmount_units units), ?_⟩
  rw [← same]
  exact decimals_told decimals (by simp)

theorem deploy_backed {key : String}
    (walk : Walk (i.opening home files f ++
      (Command.deploy key).errand f.settings f.session f) made ending)
    (place : made = before ++ ⟨⟨url, .sendRaw raw⟩, reply⟩ :: after)
    (gas : f.settings.gasLimit < 2 ^ 64) :
    Backed f.settings (.deploy key) url before raw := by
  let terms := Authorization.termsRoute f.session f.signer.address f.terms
  have quiet : Route.Quiet (.read (Credential.read key) f.signer :: terms) := by
    apply Route.quiet_of_requests
    simp [terms, Authorization.termsRoute, Request.isBroadcast]
  have walk : Walk ((i.opening home files f ++ (.read (Credential.read key) f.signer :: terms)) ++
      f.session.sendStage ((f.auth f.settings).raw .creation Token.code) f.hash ::
        f.session.confirmRoute f.hash f.wait) made ending := by
    simpa [terms, Command.errand, Contract.deployRoute] using walk
  obtain ⟨call, reached⟩ := walk.reaches
    (Route.quiet_append.mpr ⟨i.opening_quiet home files f, quiet⟩)
    (f.session.confirmRoute_quiet f.hash f.wait) place rfl
  cases call
  obtain ⟨earlier, told, rfl, _, later⟩ := Walk.append_none_iff.mp reached
  obtain ⟨signer, later⟩ := Walk.read_none_iff.mp later
  have toldTerms := terms_told later ((f.auth f.settings).transaction .creation Token.code)
    ⟨rfl, rfl, rfl⟩
  have read := Authorization.ofRaw_raw toldTerms gas Token.length_code_lt
  refine ⟨f.signer, _, read, rfl, rfl, rfl, ?_⟩
  exact ⟨0, earlier, told, [], (List.append_nil _).symm, .deploy signer, toldTerms, rfl⟩

theorem backed_of_walk (walk : Walk (i.route home files f) made ending)
    (online : i.command.isOnline) (place : made = before ++ ⟨⟨url, .sendRaw raw⟩, reply⟩ :: after)
    (gas : f.settings.gasLimit < 2 ^ 64) : Backed f.settings i.command url before raw := by
  have walk : Walk (i.opening home files f ++ i.command.errand f.settings f.session f) made
      ending := walk
  cases asked : i.command with
  | deploy => exact deploy_backed (asked ▸ walk) place gas
  | queryTransfer => exact queryTransfer_backed (asked ▸ walk) place gas
  | approve => exact approve_backed (asked ▸ walk) place gas
  | transferFrom => exact transferFrom_backed (asked ▸ walk) place gas
  | info | balance | allowance | events | transactionStatus =>
    have quiet := Command.errand_quiet i.command f.settings f.session f (by rw [asked]; rfl)
    have member : ⟨⟨url, .sendRaw raw⟩, reply⟩ ∈ made := by simp [place]
    exact absurd member (walk.not_mem_of_quiet
      (Route.quiet_append.mpr ⟨i.opening_quiet home files f, quiet⟩) rfl)
  | initSettings | showSettings => simp [asked, Command.isOnline] at online

/-- A run that has asked anything has read its settings. -/
theorem settings_of_walk (walk : Walk (i.route home files f) made ending) (spoke : made ≠ []) :
    i.settings home files = .ok f.settings := by
  unfold route at walk
  cases walk with
  | readOn read _ => exact read
  | unreadable _ => contradiction

end

theorem isOnline_of_asked {i : Invocation} {home : String} {files : Storage} {node : Node}
    (spoke : i.transcript home files node ≠ []) : i.command.isOnline = true := by
  by_contra offline
  exact spoke (i.transcript_of_offline home files node (by simpa using offline))

/-- What is broadcast is what the command line asks for, on terms that the node has just told, and
it has been rehearsed. -/
theorem broadcast_as_ordered {args : List String} {i : Invocation} {home : String}
    {files : Storage} {node : Node} {before after : List Exchange} {url : String} {raw : Bytes}
    {reply : Reply} (parsed : CommandLine.parse args = .ok i)
    (sent : i.transcript home files node = before ++ ⟨⟨url, .sendRaw raw⟩, reply⟩ :: after) :
    ∃ s, i.settings home files = .ok s ∧ Backed s i.command url before raw := by
  have spoke : i.transcript home files node ≠ [] := by simp [sent]
  have online := isOnline_of_asked spoke
  obtain ⟨f, ending, walk, -, -⟩ := (i.run_ends home files node online).walk
  have settled := settings_of_walk walk spoke
  exact ⟨f.settings, settled, backed_of_walk walk online sent (settings_gasLimit_lt parsed settled)⟩

end Invocation

theorem ok_of_toOption {x : Except ε α} {a : α} (found : x.toOption = some a) : x = .ok a := by
  cases x with
  | error _ => contradiction
  | ok b =>
    cases found
    rfl

/-- An approval of one and a half tokens, with a gas limit of its own. -/
def sampleCommand : Command :=
  .approve "0x00000000000000000000000000000000000000c0"
    "0000000000000000000000000000000000000000000000000000000000000001"
    "0x00000000000000000000000000000000000000d1" "1.5"

def sampleArgs : List String :=
  ["approve", "0x00000000000000000000000000000000000000c0", "--gas-limit=90000",
    "0000000000000000000000000000000000000000000000000000000000000001",
    "0x00000000000000000000000000000000000000d1", "1.5", "--config", "/settings.toml"]

def sampleInvocation : Invocation := ⟨none, some 90000, some "/settings.toml", sampleCommand⟩

def sampleFiles : Storage :=
  ⟨[(["settings.toml"], Bytes.ofString "[network]\nchain_id = 9000\n")], []⟩

def sampleSettings : Settings := { chainId := some 9000, gasLimit := 90000 }

def sampleUrl : String := "http://localhost:8545/"

def sampleSession : Session := ⟨sampleSettings.session, sampleUrl⟩

def sampleSigner : Credential := ⟨1, by decide, by decide⟩

/-- Reports the chain 9000 at first and the chain 1 later, and drops the broadcast. -/
def sampleNode : Node := Node.scripted [⟨.result (.string "0x2328"), 1⟩, ⟨wordReply 18, 1⟩,
  ⟨.result (.string "0x7"), 1⟩, ⟨.result (.string "0x3b9aca00"), 1⟩, ⟨.result (.string "0x1"), 1⟩,
  ⟨wordReply 1, 1⟩]

def sampleAuthorization : Authorization := ⟨sampleSigner, 7, 90000, 1000000000, 1⟩

def sampleMethod : Method := .approve 0xd1 1500000000000000000

def sampleRaw : Bytes := sampleAuthorization.raw (.account 0xc0) sampleMethod.input

def sampleCalls : List Call :=
  [⟨sampleUrl, .chainId⟩, ⟨sampleUrl, .call none 0xc0 Method.decimals.input⟩,
    ⟨sampleUrl, .transactionCount sampleSigner.address⟩, ⟨sampleUrl, .gasPrice⟩,
    ⟨sampleUrl, .chainId⟩, ⟨sampleUrl, .call (some sampleSigner.address) 0xc0 sampleMethod.input⟩]

theorem sample_parsed : CommandLine.parse sampleArgs = .ok sampleInvocation :=
  ok_of_toOption (by decide +kernel)

theorem sampleSigner_address :
    sampleSigner.address = 0x7e5f4552091a69125d5dfcb7b8c2659029395bdf := by
  rw [Credential.address, Address.ofPublicKey, digest, Keccak.hash_eq_hashLanes]
  decide +kernel

theorem sampleSigner_permitted : Authorization.permitted sampleSigner.address = .ok () := by
  simp [Authorization.permitted, sampleSigner_address]

theorem sample_settings : sampleInvocation.settings "" sampleFiles = .ok sampleSettings :=
  ok_of_toOption (by decide +kernel)

theorem sample_opened : Session.new sampleSettings.session = .ok sampleSession :=
  ok_of_toOption (by decide +kernel)

/-- Up to the trial of the call the sample run hears these replies. -/
def sampleReplies : List Delivery := [⟨.result (.string "0x2328"), 1⟩, ⟨wordReply 18, 1⟩,
  ⟨.result (.string "0x7"), 1⟩, ⟨.result (.string "0x3b9aca00"), 1⟩, ⟨.result (.string "0x1"), 1⟩]

/-- Whatever the trial is answered, the sample run comes to it. -/
theorem sample_tried (more : List Delivery) :
    let node := Node.scripted (sampleReplies ++ more)
    ∃ hash wait calls ending, sampleInvocation.transcript "" sampleFiles node =
      node.exchanges [] (sampleCalls.take 5 ++ calls) ∧
      Walk ((⟨sampleSession, 0xc0⟩ : Contract).rehearsalStage sampleSigner.address sampleMethod ::
          sampleSession.sendStage sampleRaw hash :: sampleSession.confirmRoute hash wait)
        (node.exchanges (sampleCalls.take 5) calls) ending := by
  intro node
  obtain ⟨f, ending, walk, -, -⟩ := (sampleInvocation.run_ends "" sampleFiles node rfl).walk
  unfold Invocation.transcript at walk ⊢
  generalize (sampleInvocation.perform "" sampleFiles node).2.wire.calls = calls at walk ⊢
  have greeted : Session.greeted sampleSession.config (.result (.string "0x2328")) = .ok 9000 :=
    ok_of_toOption (by decide +kernel)
  have told : Session.demanded (Json.quantity? 64) (.result (.string "0x7")) = .ok 7 :=
    ok_of_toOption (by decide +kernel)
  have price : Session.demanded (Json.quantity? 128) (.result (.string "0x3b9aca00")) =
      .ok 1000000000 := ok_of_toOption (by decide +kernel)
  have chain : Session.demanded (Json.quantity? 64) (.result (.string "0x1")) = .ok 1 :=
    ok_of_toOption (by decide +kernel)
  obtain ⟨settings, walk⟩ := walk.passed sample_settings
  rw [settings] at walk
  obtain ⟨session, walk⟩ := walk.passed sample_opened
  rw [session] at walk
  obtain ⟨calls, rfl, _, walk⟩ := walk.heard greeted
  obtain ⟨contract, walk⟩ := walk.passed
    (ok_of_toOption (a := ⟨sampleSession, 0xc0⟩) (by decide +kernel))
  obtain ⟨signer, walk⟩ := walk.passed (ok_of_toOption (a := sampleSigner) (by decide +kernel))
  obtain ⟨partner, walk⟩ := walk.passed (ok_of_toOption (a := 0xd1) (by decide +kernel))
  simp only [Findings.dispatch, Findings.decimalsStage, Findings.auth, contract, signer, partner]
    at walk
  obtain ⟨calls, rfl, decimals, walk⟩ := walk.heard (viewed_decimals (n := 18) (by decide))
  rw [decimals] at walk
  obtain ⟨amount, walk⟩ := walk.passed
    (ok_of_toOption (a := ⟨1500000000000000000, 18⟩) (by decide +kernel))
  rw [amount] at walk
  obtain ⟨_, walk⟩ := walk.passed sampleSigner_permitted
  obtain ⟨calls, rfl, nonce, walk⟩ := walk.heard told
  obtain ⟨calls, rfl, gasPrice, walk⟩ := walk.heard price
  obtain ⟨calls, rfl, chainId, walk⟩ := walk.heard chain
  rw [nonce, gasPrice, chainId] at walk
  exact ⟨f.hash, f.wait, calls, ending, rfl, walk⟩

theorem sample_transcript : ∃ reply after, sampleInvocation.transcript "" sampleFiles sampleNode =
    sampleNode.exchanges [] sampleCalls ++ ⟨⟨sampleUrl, .sendRaw sampleRaw⟩, reply⟩ :: after := by
  obtain ⟨hash, wait, calls, ending, sent, walk⟩ := sample_tried [⟨wordReply 1, 1⟩]
  obtain ⟨calls, rfl, _, walk⟩ := walk.heard (rehearsed_one sampleMethod)
  obtain ⟨calls, rfl⟩ := walk.asked
  exact ⟨_, _, sent⟩

theorem broadcast_as_ordered_approve :
    CommandLine.parse sampleArgs = .ok sampleInvocation ∧
    (∃ reply after, sampleInvocation.transcript "" sampleFiles sampleNode =
      sampleNode.exchanges [] sampleCalls ++ ⟨⟨sampleUrl, .sendRaw sampleRaw⟩, reply⟩ :: after) ∧
    ∃ s, sampleInvocation.settings "" sampleFiles = .ok s ∧
      Backed s sampleCommand sampleUrl (sampleNode.exchanges [] sampleCalls) sampleRaw := by
  obtain ⟨reply, after, sent⟩ := sample_transcript
  exact ⟨sample_parsed, ⟨reply, after, sent⟩, Invocation.broadcast_as_ordered sample_parsed sent⟩

end TokenClient
