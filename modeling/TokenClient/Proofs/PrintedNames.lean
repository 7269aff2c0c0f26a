import TokenClient.Proofs.AccountReading
import TokenClient.Proofs.ArgumentChecks

/-! Names as they are printed. What a report calls an account or a transaction can be copied from
it, with white space around it, and names the same in the next command. -/
namespace TokenClient

namespace Text

/-- A text with nothing but white space around it. -/
def Padded (inner text : String) : Prop :=
  ∃ before after, text.toList = before ++ inner.toList ++ after ∧
    ∀ c ∈ before ++ after, isBlank c = true

theorem padded_self (text : String) : Padded text text := ⟨[], [], by simp, by simp⟩

/-- What stands behind the last white space of a line, apart from white space at its end. -/
def lastWord (line : String) : String :=
  String.ofList ((line.toList.rdropWhile isBlank).rtakeWhile fun c => !isBlank c)

theorem lastWord_eq {line : String} {front word : List Char} {c : Char}
    (split : line.toList = front ++ c :: word) (blank : isBlank c = true)
    (whole : ∀ d ∈ word, isBlank d = false) (nonempty : word ≠ []) :
    lastWord line = String.ofList word := by
  have ends : line.toList.rdropWhile isBlank = line.toList := by
    rw [List.rdropWhile_eq_self_iff]
    intro _
    simp only [split, List.getLast_append_of_right_ne_nil _ _ (List.cons_ne_nil c word),
      List.getLast_cons nonempty]
    simp [whole _ (List.getLast_mem nonempty)]
  have inner : (front ++ c :: word).rtakeWhile (fun d => !isBlank d) = word := by
    have reversed : ∀ d ∈ word.reverse, (!isBlank d) = true := fun d member => by
      simp [whole d (List.mem_reverse.mp member)]
    rw [List.rtakeWhile, List.reverse_append, List.reverse_cons, List.append_assoc,
      List.takeWhile_append_of_pos reversed]
    simp [blank]
  rw [lastWord, ends, split, inner]

end Text

namespace Hex

variable {digits : List Char} {n : Nat}

theorem IsDigit.not_blank {c : Char} (digit : IsDigit c) : Text.isBlank c = false := by
  have all : ∀ n < 128, IsDigit (Char.ofNat n) → Text.isBlank (Char.ofNat n) = false := by
    decide +kernel
  have here := all c.toNat digit.toNat_lt
  rw [Char.ofNat_toNat] at here
  exact here digit

/-- Digits behind a mark, as names are printed. -/
def marked (digits : List Char) : List Char := '0' :: 'x' :: digits

theorem marked_not_blank (all : ∀ c ∈ digits, IsDigit c) :
    ∀ c ∈ marked digits, Text.isBlank c = false := by
  simp only [marked, List.forall_mem_cons]
  exact ⟨rfl, rfl, fun c member => (all c member).not_blank⟩

theorem stripped_of_padded {inner text : String} (printed : inner.toList = marked digits)
    (all : ∀ c ∈ digits, IsDigit c) (padded : Text.Padded inner text) : Stripped text digits := by
  obtain ⟨before, after, shape, blank⟩ := padded
  have solid := marked_not_blank all
  rw [printed] at shape
  refine .marked ⟨⟨before, after, shape, blank⟩, ?_, ?_⟩ (.inl rfl)
  · exact fun c found => solid c (List.mem_of_head? found)
  · exact fun c found => solid c (List.mem_of_getLast? found)

theorem decodeFixed_of_spells (size : Nat) (spells : Spells digits (2 * size) n) :
    ∃ bytes, decodeFixed size (Bytes.ofString (String.ofList digits)) = .ok bytes ∧
      bytes.toNat = n := by
  obtain ⟨count, all, value⟩ := spells_ofString_iff.mpr spells
  have judged := decodeFixed_judged size (Bytes.ofString (String.ofList digits))
  cases read : decodeFixed size (Bytes.ofString (String.ofList digits)) with
  | ok bytes =>
    rw [read] at judged
    exact ⟨bytes, rfl, (judged.2.same 0).trans value⟩
  | error fault =>
    rw [read] at judged
    refine absurd ?_ judged.not_all
    rw [List.forall_mem_cons, List.forall_mem_cons, digitChecks_met_iff]
    exact ⟨by simp [count], count, all⟩

end Hex

namespace Address

theorem map_toLower_checksumDigits (a : Address) :
    a.checksumDigits.map Char.toLower = a.digits.map Char.toLower := by
  have cased (hashed digits : List Char) (all : ∀ c ∈ digits, c ∈ Hex.alphabet)
      (long : digits.length ≤ hashed.length) :
      (digits.zipWith (fun c d => if '8' ≤ d then c.toUpper else c) hashed).map Char.toLower =
        digits.map Char.toLower := by
    induction digits generalizing hashed with
    | nil => rfl
    | cons c rest ih =>
      cases hashed with
      | nil => simp at long
      | cons d hashed =>
        rw [List.forall_mem_cons] at all
        have lower := Hex.toLower_of_mem all.1
        rw [List.zipWith_cons_cons, List.map_cons, List.map_cons,
          ih hashed all.2 (by simpa using long)]
        split
        · rw [lower.2, lower.1]
        · rfl
  exact cased _ _ (fun _ => Hex.mem_fixed) (by simp [digits])

theorem spells_checksumDigits (a : Address) : Hex.Spells a.checksumDigits 40 a.toNat :=
  (Hex.spells_fixed a.isLt).recased a.map_toLower_checksumDigits

theorem toList_checksum (a : Address) : a.checksum.toList = Hex.marked a.checksumDigits := by
  simp [checksum, Hex.marked]

theorem parseAddress_of_padded {a : Address} {text : String}
    (padded : Text.Padded a.checksum text) : Account.parseAddress text = .ok a := by
  have spells := a.spells_checksumDigits
  have stripped := Hex.stripped_of_padded a.toList_checksum spells.all padded
  exact (Account.parseAddress_eq_ok_iff stripped).mpr spells

end Address

namespace TxHash

theorem spells_text (h : TxHash) : Hex.Spells (Hex.fixed 64 h.toNat) 64 h.toNat :=
  Hex.spells_fixed h.isLt

theorem toList_text (h : TxHash) : (text h).toList = Hex.marked (Hex.fixed 64 h.toNat) := by
  simp [text, Hex.marked]

theorem parseHash_of_padded {h : TxHash} {text : String}
    (padded : Text.Padded (TxHash.text h) text) : Action.parseHash text = .ok h := by
  have spells := spells_text h
  have stripped := Hex.stripped_of_padded (toList_text h) spells.all padded
  obtain ⟨bytes, read, value⟩ := Hex.decodeFixed_of_spells 32 spells
  have parsed : TxHash.read (Bytes.ofString (Text.trim text)) = .ok (Word.ofBytes bytes) := by
    have seen := Hex.hexBody_eq stripped
    rw [hexBody] at seen
    rw [TxHash.read, seen, read]
    rfl
  have same : Word.ofBytes bytes = h := by
    apply BitVec.eq_of_toNat_eq
    rw [Word.ofBytes, BitVec.toNat_ofNat, value]
    exact Nat.mod_eq_of_lt h.isLt
  rw [Action.parseHash, parsed, same]
  rfl

end TxHash

namespace Report

/-- The last words of the lines that begin with this label. -/
def told (lines : List String) (label : String) : List String :=
  (lines.filter fun line => label.toList.isPrefixOf line.toList).map Text.lastWord

theorem lastWord_marked {line : String} {digits : List Char} (front : List Char)
    (shape : line.toList = front ++ ' ' :: Hex.marked digits)
    (all : ∀ c ∈ digits, Hex.IsDigit c) :
    Text.lastWord line = String.ofList (Hex.marked digits) :=
  Text.lastWord_eq shape rfl (Hex.marked_not_blank all) (List.cons_ne_nil _ _)

theorem told_contract (report : DeployReport) :
    told report.lines "Deployed contract address:" = [report.deployment.address.checksum] := by
  have last : Text.lastWord
      ("Deployed contract address:         " ++ report.deployment.address.checksum) =
        report.deployment.address.checksum :=
    lastWord_marked "Deployed contract address:        ".toList
      (by simp [Address.toList_checksum]) report.deployment.address.spells_checksumDigits.all
  simpa [told, DeployReport.lines] using last

theorem told_transaction (report : DeployReport) :
    told report.lines "Deployed in transaction with hash:" =
      [TxHash.text report.deployment.hash] := by
  have last : Text.lastWord
      ("Deployed in transaction with hash: " ++ TxHash.text report.deployment.hash) =
        TxHash.text report.deployment.hash :=
    lastWord_marked "Deployed in transaction with hash:".toList
      (by simp [TxHash.toList_text]) (TxHash.spells_text report.deployment.hash).all
  simpa [told, DeployReport.lines] using last

end Report

/-- The account that a question is about. -/
def Request.target? : Request → Option Address
  | .call _ target _ | .logs target _ _ => some target
  | _ => none

theorem Command.errand_addressed {command : Command} {text : String}
    (named : ⟨.contract, text⟩ ∈ command.arguments) (s : Settings) (session : Session)
    (f : Findings) : ∃ rest, command.errand s session f =
      .read (Action.contractAt session text) f.contract :: rest := by
  cases command with
  | deploy | transactionStatus | initSettings | showSettings => simp [arguments] at named
  | _ =>
    simp only [arguments, List.mem_cons, Argument.mk.injEq, reduceCtorEq, true_and, false_and,
      List.not_mem_nil, or_self, or_false] at named
    subst named
    exact ⟨_, rfl⟩

theorem Command.sequence_targets (command : Command) (s : Settings) (f : Findings) :
    ∀ request ∈ command.sequence s f, ∀ target ∈ request.target?, target = f.contract.address := by
  cases command with
  | events contract fromBlock =>
    simp only [sequence]
    split <;> simp [Request.target?, Findings.view]
  | _ =>
    simp [sequence, Findings.submission, Findings.metadataViews, Findings.balanceViews,
      Findings.termsRequests, Findings.receipts, Findings.view, Request.target?]

theorem Command.errand_asks_contract {command : Command} {text : String}
    (named : ⟨.contract, text⟩ ∈ command.arguments) (s : Settings) (session : Session)
    (f : Findings) : ∃ checks call, ∃ (α : Type) (reading : Reply → Except Failure α) (answer : α),
      ∃ rest method, command.errand s session f = checks ++ .ask call reading answer :: rest ∧
      List.Forall₂ Stage.Reads command.arguments checks ∧ call.request = f.view method := by
  cases command with
  | deploy | transactionStatus | initSettings | showSettings => simp [arguments] at named
  | info | events =>
    refine ⟨[_], _, _, _, _, _, _, rfl, ?_, rfl⟩
    simp [arguments, Stage.Reads, Argument.check, Action.contractAt_check]
  | balance =>
    refine ⟨[_, _], _, _, _, _, _, _, rfl, ?_, rfl⟩
    simp [arguments, Stage.Reads, Argument.check, Action.contractAt_check]
  | queryTransfer | allowance | approve =>
    refine ⟨[_, _, _], _, _, _, _, _, _, rfl, ?_, rfl⟩
    simp [arguments, Stage.Reads, Argument.check, Action.contractAt_check]
  | transferFrom =>
    refine ⟨[_, _, _, _], _, _, _, _, _, _, rfl, ?_, rfl⟩
    simp [arguments, Stage.Reads, Argument.check, Action.contractAt_check]

namespace Invocation

/-- A run of which every question about an account is about this one. -/
structure Targets (i : Invocation) (home : String) (files : Storage) (node : Node)
    (target : Address) : Prop where
  only : ∀ request ∈ i.requests home files node, ∀ other ∈ request.target?, other = target
  /-- With an open session and arguments that are all accepted, there is such a question. -/
  asked : ∀ s session, i.settings home files = .ok s →
    (Session.connect s.session node .idle).1 = .ok session →
    (∀ argument ∈ i.command.arguments, argument.check = .ok ()) →
    ∃ input, [.chainId, .call none target input] <+: i.requests home files node

/-- A run that asks for the receipt of this transaction, as soon as a session is open. -/
structure LooksUp (i : Invocation) (home : String) (files : Storage) (node : Node)
    (hash : TxHash) : Prop where
  only : i.requests home files node <+: [.chainId, .receipt hash]
  asked : ∀ s session, i.settings home files = .ok s →
    (Session.connect s.session node .idle).1 = .ok session →
    i.requests home files node = [.chainId, .receipt hash]

variable {i : Invocation} {text : String} {address : Address} {hash : TxHash}

theorem contract_of_errand {s : Settings} {session : Session} {f : Findings}
    {made : List Exchange} {ending : Option Failure}
    (named : ⟨.contract, text⟩ ∈ i.command.arguments)
    (parsed : Account.parseAddress text = .ok address)
    (errand : Walk (i.command.errand s session f) made ending) :
    f.contract = ⟨session, address⟩ := by
  obtain ⟨rest, shape⟩ := Command.errand_addressed named s session f
  rw [shape] at errand
  have found : Action.contractAt session text = .ok ⟨session, address⟩ := by
    rw [Action.contractAt, parsed]
    rfl
  exact (errand.passed found).1

theorem targets_of_contract (named : ⟨.contract, text⟩ ∈ i.command.arguments)
    (parsed : Account.parseAddress text = .ok address) (home : String) (files : Storage)
    (node : Node) : i.Targets home files node address := by
  have online := isOnline_of_arguments named
  obtain ⟨f, ending, walk, -, -⟩ := (i.run_ends home files node online).walk
  constructor
  · intro request member target about
    rcases greeting_of_walk walk with ⟨greeting, _⟩ | ⟨_, later, _, _, errand⟩
    · obtain ⟨exchange, made, rfl⟩ := List.mem_map.mp member
      have asked := greeting.subset (List.mem_map_of_mem made)
      rw [List.mem_singleton] at asked
      simp [Exchange.request, asked, Request.target?] at about
    · have inOrder := (route_spells home files f online _ _ walk).1
      rw [i.command.sequence_targets _ f request (inOrder.subset member) target about,
        contract_of_errand named parsed errand]
  · intro s session settled opened accepted
    obtain ⟨_, later, calls, errand⟩ := errand_of_walk walk settled opened
    have found := contract_of_errand named parsed errand
    obtain ⟨checks, call, α, reading, answer, rest, method, shape, reads, view⟩ :=
      Command.errand_asks_contract named f.settings session f
    rw [shape] at errand
    obtain ⟨more, rfl⟩ := (errand.accepted_arguments reads accepted).asked
    refine ⟨method.input, more.map Call.request, ?_⟩
    simp [requests_eq, calls, view, Findings.view, found]

theorem looksUp_of_hash (status : i.command = .transactionStatus text)
    (parsed : Action.parseHash text = .ok hash) (home : String) (files : Storage)
    (node : Node) : i.LooksUp home files node hash := by
  have online : i.command.isOnline := by rw [status]; rfl
  obtain ⟨f, ending, walk, -, -⟩ := (i.run_ends home files node online).walk
  have only : i.requests home files node <+: [.chainId, .receipt hash] := by
    rcases greeting_of_walk walk with ⟨greeting, _⟩ | ⟨_, later, _, _, errand⟩
    · have asked := greeting.map Call.request
      rw [List.map_map] at asked
      exact asked.trans (List.prefix_append [Request.chainId] [Request.receipt hash])
    · have inOrder := (route_spells home files f online _ _ walk).1
      rw [status] at errand inOrder
      obtain ⟨rfl, _⟩ := errand.passed parsed
      exact inOrder
  refine ⟨only, fun s session settled opened => ?_⟩
  obtain ⟨_, later, calls, errand⟩ := errand_of_walk walk settled opened
  rw [status] at errand
  obtain ⟨rfl, waiting⟩ := errand.passed parsed
  obtain ⟨more, rfl⟩ := waiting.asked
  rw [requests_eq, calls] at only ⊢
  simpa using only

/-- What the client prints as a name it takes as that name: the checksummed text of an address, the
text of a hash, both with any white space around them. So the words at the ends of two lines of a
deployment report are the deployed contract and its transaction for whatever command comes next. -/
theorem printed_names_accepted :
    (∀ (address : Address) (text : String), Text.Padded address.checksum text →
      Account.parseAddress text = .ok address ∧ Account.resolve text = .ok address) ∧
    (∀ (hash : TxHash) (text : String), Text.Padded (TxHash.text hash) text →
      Action.parseHash text = .ok hash) ∧
    ∀ report : DeployReport, ∃ contract transaction,
      Report.told report.lines "Deployed contract address:" = [contract] ∧
      Report.told report.lines "Deployed in transaction with hash:" = [transaction] ∧
      ∀ (i : Invocation) (home : String) (files : Storage) (node : Node),
        (⟨.contract, contract⟩ ∈ i.command.arguments →
          i.Targets home files node report.deployment.address) ∧
        (i.command = .transactionStatus transaction →
          i.LooksUp home files node report.deployment.hash) := by
  refine ⟨?_, fun _ _ => TxHash.parseHash_of_padded, fun report => ?_⟩
  · intro address text padded
    have parsed := Address.parseAddress_of_padded padded
    exact ⟨parsed, Account.resolve_of_address parsed⟩
  · refine ⟨_, _, Report.told_contract report, Report.told_transaction report, ?_⟩
    intro i home files node
    constructor
    · intro named
      have parsed := Address.parseAddress_of_padded
        (Text.padded_self report.deployment.address.checksum)
      exact targets_of_contract named parsed home files node
    · intro status
      have parsed := TxHash.parseHash_of_padded
        (Text.padded_self (TxHash.text report.deployment.hash))
      exact looksUp_of_hash status parsed home files node

end Invocation

def sampleReport : DeployReport :=
  ⟨⟨0x5FbDB2315678afecb367f032d93F642f64180aa3, sampleSigner.address, 0xab⟩, some 1⟩

theorem sampleReport_checksum :
    sampleReport.deployment.address.checksum = "0x5FbDB2315678afecb367f032d93F642f64180aa3" := by
  rw [Address.checksum, Address.checksumDigits, digest, Keccak.hash_eq_hashLanes]
  decide +kernel

def infoInvocation : Invocation :=
  { sampleInvocation with command := .info "0x5FbDB2315678afecb367f032d93F642f64180aa3" }

def statusInvocation : Invocation :=
  { sampleInvocation with command := .transactionStatus (TxHash.text 0xab) }

theorem Invocation.printed_names_accepted_report :
    Account.resolve " 0x5FbDB2315678afecb367f032d93F642f64180aa3\n" =
        .ok sampleReport.deployment.address ∧
      Action.parseHash (TxHash.text 0xab ++ "\n") = .ok 0xab ∧
      (∃ input, [.chainId, .call none sampleReport.deployment.address input] <+:
        infoInvocation.requests "" sampleFiles sampleNode) ∧
      statusInvocation.requests "" sampleFiles sampleNode = [.chainId, .receipt 0xab] := by
  obtain ⟨addresses, hashes, reports⟩ := printed_names_accepted
  obtain ⟨contract, transaction, told, toldHash, next⟩ := reports sampleReport
  rw [Report.told_contract, sampleReport_checksum] at told
  rw [Report.told_transaction] at toldHash
  obtain ⟨rfl, -⟩ := List.cons.inj told
  obtain ⟨rfl, -⟩ := List.cons.inj toldHash
  have opened : (Session.connect sampleSettings.session sampleNode .idle).1 = .ok sampleSession :=
    ok_of_toOption (by decide +kernel)
  have newline : ∀ c ∈ ['\n'], Text.isBlank c = true := List.forall_mem_singleton.mpr rfl
  refine ⟨(addresses _ _ ⟨[' '], ['\n'], ?_, List.forall_mem_cons.mpr ⟨rfl, newline⟩⟩).2,
    hashes _ _ ⟨[], ['\n'], ?_, newline⟩, ?_, ?_⟩
  · rw [sampleReport_checksum]
    rfl
  · simp
  · exact ((next infoInvocation _ _ _).1 (.head _)).asked sampleSettings sampleSession
      (ok_of_toOption (by decide +kernel)) opened (by decide +kernel)
  · exact ((next statusInvocation _ _ _).2 rfl).asked sampleSettings sampleSession
      (ok_of_toOption (by decide +kernel)) opened

end TokenClient
