import TokenClient.Proofs.AmountSpelling
import TokenClient.Proofs.LedgerNode
import TokenClient.Proofs.Rehearsal

/-! A transfer with the balances around it. The balances before are read while the ledger is still
as it was, and the ones after once the receipt has been seen, so that what the report says adds up,
and what is printed of it, too. -/
namespace TokenClient

open Token

theorem Session.confirmed {session : Session} {hash : TxHash} {wait : Session.Wait}
    {made : List Exchange} (walk : Walk (session.confirmRoute hash wait) made none) :
    ∃ missing reply, made = missing ++ [⟨⟨session.url, .receipt hash⟩, reply⟩] ∧
      (∀ exchange ∈ missing, exchange.call.request = .receipt hash ∧
        exchange.reply.understood Receipt.answer? = .ok none) ∧
      reply.understood Receipt.answer? = .ok (some wait.receipt) ∧ wait.receipt.success := by
  have polls {n : Nat} {missing : List Exchange}
      (walk : Walk (List.replicate n (session.demandStage (.receipt hash) Receipt.answer? none))
        missing none) : ∀ exchange ∈ missing, exchange.call.request = .receipt hash ∧
          exchange.reply.understood Receipt.answer? = .ok none := by
    induction n generalizing missing with
    | zero =>
      obtain ⟨rfl, _⟩ := Walk.nil_iff.mp walk
      exact nofun
    | succ n ih =>
      obtain ⟨reply, rest, rfl, told, walk⟩ := Walk.ask_none_iff.mp walk
      rintro exchange (_ | ⟨_, later⟩)
      · exact ⟨rfl, demanded_iff.mp told⟩
      · exact ih walk exchange later
  unfold confirmRoute pollRoute at walk
  simp only [Walk.append_none_iff, Walk.read_none_iff, Walk.nil_iff] at walk
  obtain ⟨_, _, rfl, ⟨missing, _, rfl, none, closes⟩, success, rfl, _⟩ := walk
  have succeeded : wait.receipt.success = true := by
    unfold concluded at success
    split at success
    · assumption
    · contradiction
  unfold closingStage at closes
  cases closing : wait.closing with
  | included =>
    rw [closing] at closes
    obtain ⟨reply, _, rfl, told, walk⟩ := Walk.ask_none_iff.mp closes
    obtain ⟨rfl, _⟩ := Walk.nil_iff.mp walk
    refine ⟨missing, reply, by simp, polls none, demanded_iff.mp told, succeeded⟩
  | late | expired | unpaced =>
    simp [closing] at closes

section Printed

/-- What stands behind the first colon of a line. -/
def behindColon (line : String) : String :=
  String.ofList ((line.toList.dropWhile (· != ':')).drop 1)

/-- What stands between the first two spaces of a line. -/
def secondWord (line : String) : String :=
  String.ofList (((line.toList.dropWhile (· != ' ')).drop 1).takeWhile (· != ' '))

theorem Amount.parse_congr {first second : String}
    (same : Text.trimChars first.toList = Text.trimChars second.toList) (decimals : Nat) :
    Amount.parse first decimals = Amount.parse second decimals := by
  unfold Amount.parse
  rw [same]

theorem Text.trimChars_append {blank : List Char} (blanks : blank.all isBlank) (cs : List Char) :
    trimChars (blank ++ cs) = trimChars cs := by
  rw [trimChars, List.dropWhile_append_of_pos (List.all_eq_true.mp blanks), trimChars]

/-- A label that ends in a colon and blanks may stand in front of an amount. -/
theorem parse_behindColon {label : String} (amount : Amount) (few : amount.decimals ≤ 77)
    (colon : label.toList.dropWhile (· != ':') ≠ [])
    (blanks : (behindColon label).toList.all Text.isBlank) :
    Amount.parse (behindColon (label ++ amount.text)) amount.decimals = .ok amount := by
  have behind : (behindColon (label ++ amount.text)).toList =
      (behindColon label).toList ++ amount.text.toList := by
    have there : 1 ≤ (label.toList.dropWhile (· != ':')).length := List.length_pos_iff.mpr colon
    rw [behindColon, behindColon, String.toList_ofList, String.toList_ofList, String.toList_append,
      List.dropWhile_append, if_neg (by simpa using colon), List.drop_append_of_le_length there]
  refine Eq.trans (Amount.parse_congr ?_ amount.decimals) (Amount.parse_text amount.raw few)
  rw [behind, Text.trimChars_append blanks]

/-- A word and a space may stand in front of an amount, and a space and more words behind it. -/
theorem parse_secondWord {label rest : String} (amount : Amount) (few : amount.decimals ≤ 77)
    (space : label.toList.dropWhile (· != ' ') = [' ']) :
    Amount.parse (secondWord (label ++ (amount.text ++ (" " ++ rest)))) amount.decimals =
      .ok amount := by
  have visible : ∀ c ∈ amount.text.toList, (c != ' ') = true := by
    intro c member
    have shown := Amount.text_visible amount.raw few c member
    rw [bne_iff_ne]
    rintro rfl
    contradiction
  have cut : (" " ++ rest).toList = ' ' :: rest.toList := by simp
  have second : secondWord (label ++ (amount.text ++ (" " ++ rest))) = amount.text := by
    rw [secondWord, String.toList_append, String.toList_append, cut, List.dropWhile_append, space,
      if_neg (by decide), List.singleton_append, List.drop_one, List.tail_cons,
      List.takeWhile_append_of_pos visible, List.takeWhile_cons_of_neg (by decide),
      List.append_nil, String.ofList_toList]
  rw [second]
  exact Amount.parse_text amount.raw few

theorem Action.parseAmount_decimals {text : String} {decimals : Nat} {amount : Amount}
    (read : Action.parseAmount text decimals = .ok amount) :
    decimals ≤ 77 ∧ amount.decimals = decimals := by
  unfold Action.parseAmount at read
  cases parsed : Amount.parse text decimals with
  | error fault => simp [parsed, Except.mapError] at read
  | ok told =>
    simp only [parsed, Except.mapError, Except.ok.injEq] at read
    subst read
    exact ⟨(Amount.parse_eq_ok_iff.mp parsed).1, (Amount.parse_exact parsed).1⟩

/-- The amounts in the lines of a report can be read back. -/
theorem TransferReport.lines_read {report : TransferReport} {decimals : Nat} (few : decimals ≤ 77)
    (shown : ∀ amount ∈ [report.deployerBefore, report.receiverBefore, report.deployerAfter,
      report.receiverAfter, report.amount], amount.decimals = decimals) :
    (report.lines.drop 4).map (fun line => Amount.parse (behindColon line) decimals) =
      [.ok report.deployerBefore, .ok report.receiverBefore, .ok report.deployerAfter,
        .ok report.receiverAfter] ∧
    report.lines[2]?.map (fun line => Amount.parse (secondWord line) decimals) =
      some (.ok report.amount) := by
  have labelled (label : String) (amount : Amount) (member : amount ∈
      [report.deployerBefore, report.receiverBefore, report.deployerAfter, report.receiverAfter,
        report.amount])
      (colon : label.toList.dropWhile (· != ':') ≠ [])
      (blanks : (behindColon label).toList.all Text.isBlank) :
      Amount.parse (behindColon (label ++ amount.text)) decimals = .ok amount := by
    have scale := shown amount member
    subst scale
    exact parse_behindColon amount few colon blanks
  constructor
  · simp only [TransferReport.lines, List.drop_succ_cons, List.drop_zero, List.map_cons,
      List.map_nil]
    rw [labelled "deployer balance before: " _ (by simp) (by decide) (by decide),
      labelled "receiver balance before: " _ (by simp) (by decide) (by decide),
      labelled "deployer balance after:  " _ (by simp) (by decide) (by decide),
      labelled "receiver balance after:  " _ (by simp) (by decide) (by decide)]
  · have scale := shown report.amount (by simp)
    subst scale
    have line : report.lines[2]? = some ("Transferred " ++ (report.amount.text ++ (" " ++
        (report.metadata.symbol ++ (" in " ++ TxHash.text report.hash))))) := by
      simp only [TransferReport.lines, List.getElem?_cons_succ, List.getElem?_cons_zero,
        String.append_assoc]
    rw [line, Option.map_some, parse_secondWord report.amount few (by decide)]

end Printed

section Course

variable {deployed : Deployed} {node : Node} {past calls : List Call}
  {before after : List Exchange} {reply : Reply} {url : String}

/-- What stood behind the node when it gave the reply in this place. -/
theorem replay_place (deployed : Deployed) {exchange : Exchange}
    (place : node.exchanges past calls = before ++ exchange :: after) :
    deployed.replay (node.exchanges [] (past ++ before.map Exchange.call)) =
        deployed.replay (node.exchanges [] past ++ before) ∧
      exchange.reply = (node (past ++ before.map Exchange.call) exchange.call).reply := by
  obtain ⟨earlier, reply⟩ := Node.exchanges_place place
  refine ⟨?_, reply⟩
  rw [Node.exchanges_append, List.nil_append, earlier]

theorem Deployed.Behind.told {account : Address} {units : Word} (behind : deployed.Behind node)
    (before after : List Exchange) (place : node.exchanges past calls = before ++
      ⟨⟨url, .call none deployed.address (Method.balanceOf account).input⟩, reply⟩ :: after)
    (viewed : Contract.viewed (.balanceOf account) Abi.word reply = .ok units) :
    units.toNat = (deployed.replay (node.exchanges [] past ++ before)).ledger.balance account := by
  obtain ⟨data, understood, _, read⟩ := Contract.evaluated_iff.mp (Contract.viewed_iff.mp viewed)
  obtain ⟨same, given⟩ := replay_place deployed place
  dsimp only at given
  rw [given] at understood
  rw [← same]
  exact behind.balances _ _ _ _ _ understood read

theorem Deployed.Behind.tried {payer receiver : Address} {amount : Word}
    (behind : deployed.Behind node) (before after : List Exchange)
    (place : node.exchanges past calls = before ++
      ⟨⟨url, .call (some payer) deployed.address (Method.transfer receiver amount).input⟩,
        reply⟩ :: after)
    (rehearsed : Contract.rehearsed (.transfer receiver amount) reply = .ok ()) :
    amount.toNat ≤ (deployed.replay (node.exchanges [] past ++ before)).ledger.balance payer := by
  obtain ⟨data, understood, _, read⟩ :=
    Contract.evaluated_iff.mp (Contract.rehearsed_iff.mp rehearsed)
  obtain ⟨same, given⟩ := replay_place deployed place
  dsimp only at given
  rw [given] at understood
  rw [← same]
  exact (behind.trials _ _ _ _ _ _ _ understood read).mp rfl

/-- A broadcast transfer takes effect with its receipt, however long that takes. -/
theorem replay_included (url : String) (made : List Exchange) {raw : Bytes} {hash : TxHash}
    {receipt : Receipt} {transfer : Transfer} {told : Reply} {missing : List Exchange}
    (accepted : reply.understood Json.hash? = .ok hash)
    (meant : deployed.transfer? raw = some transfer)
    (waited : ∀ exchange ∈ missing, exchange.call.request = .receipt hash ∧
      exchange.reply.understood Receipt.answer? = .ok none)
    (included : told.understood Receipt.answer? = .ok (some receipt)) (success : receipt.success) :
    (deployed.replay (made ++ ⟨⟨url, .sendRaw raw⟩, reply⟩ ::
      (missing ++ [⟨⟨url, .receipt hash⟩, told⟩]))).ledger =
      (deployed.replay made).ledger.apply transfer := by
  have sent : deployed.step (deployed.replay made) ⟨⟨url, .sendRaw raw⟩, reply⟩ = _ :=
    Deployed.step_sent _ rfl accepted meant
  rw [Deployed.replay_append, List.foldl_cons, sent, List.foldl_append,
    Deployed.foldl_step_of_still fun exchange member =>
      Deployed.step_missing _ (waited exchange member).1 (waited exchange member).2]
  rw [List.foldl_cons, List.foldl_nil]
  exact Deployed.step_included rfl included success (by simp)

theorem onlyAsks_of_walk {route : Route} {made : List Exchange} {ending : Option Failure}
    (walk : Walk route made ending) (asks : ∀ call ∈ route.calls, call.request.onlyAsks) :
    ∀ exchange ∈ made, exchange.call.request.onlyAsks := fun _ member =>
  asks _ (walk.calls_prefix.subset (List.mem_map_of_mem member))

theorem filter_broadcast_of_onlyAsks {made : List Exchange}
    (asks : ∀ exchange ∈ made, exchange.call.request.onlyAsks) :
    (made.map Exchange.call).filter (·.request.isBroadcast) = [] := by
  rw [List.filter_eq_nil_iff]
  intro call called
  obtain ⟨exchange, member, rfl⟩ := List.mem_map.mp called
  have here := asks exchange member
  cases request : exchange.call.request <;> simp_all [Request.onlyAsks, Request.isBroadcast]

theorem Findings.balances_told {f : Findings} {found : Word × Word} {made : List Exchange}
    (behind : deployed.Behind node) (target : f.contract.address = deployed.address)
    (walk : Walk (f.balances found) made none)
    (place : node.exchanges past calls = before ++ (made ++ after)) :
    found.1.toNat = (deployed.replay (node.exchanges [] past ++ before)).ledger.balance
      f.signer.address ∧
    found.2.toNat = (deployed.replay (node.exchanges [] past ++ before)).ledger.balance
      f.partner := by
  have asks := onlyAsks_of_walk walk (by simp [Findings.balances, Request.onlyAsks])
  simp only [Findings.balances, Contract.viewStage, Walk.ask_none_iff, Walk.nil_iff] at walk
  obtain ⟨first, _, rfl, firstRead, second, _, rfl, secondRead, rfl, _⟩ := walk
  rw [target] at place asks
  refine ⟨behind.told before _ place firstRead, ?_⟩
  have told := behind.told (before ++ [⟨_, first⟩]) after (by simpa using place) secondRead
  rw [told, ← List.append_assoc, Deployed.replay_of_onlyAsks fun exchange member =>
    asks exchange (List.mem_append_left [_] member)]

/-- The transfer that was broadcast, and that nothing else was. -/
def Broadcasts (calls : List Call) (session : Session) (token : Address) (signer : Credential)
    (receiver : Address) (amount : Word) : Prop :=
  ∃ raw t, calls.filter (·.request.isBroadcast) = [⟨session.url, .sendRaw raw⟩] ∧
    Transaction.ofRaw raw = some (t, signer.sign t.signingHash) ∧
    t.destination = .account token ∧ Method.ofInput? t.input = some (.transfer receiver amount)

/-- A transfer that has been sent and confirmed could be afforded, and it has taken effect. -/
theorem Findings.dispatch_replayed {f : Findings} {s : Settings} {session : Session}
    {made : List Exchange} (behind : deployed.Behind node)
    (target : f.contract = ⟨session, deployed.address⟩)
    (signed : ∀ t, deployed.signerOf t (f.signer.sign t.signingHash) = f.signer.address)
    (gas : s.gasLimit < 2 ^ 64)
    (walk : Walk (f.dispatch s session (.transfer f.partner f.amount.raw)) made none)
    (place : node.exchanges past calls = before ++ (made ++ after)) :
    f.amount.raw.toNat ≤ (deployed.replay (node.exchanges [] past ++ before)).ledger.balance
      f.signer.address ∧
    (deployed.replay (node.exchanges [] past ++ (before ++ made))).ledger =
      (deployed.replay (node.exchanges [] past ++ before)).ledger.apply
        ⟨f.signer.address, f.partner, f.amount.raw.toNat⟩ ∧
    Broadcasts (made.map Exchange.call) session deployed.address f.signer f.partner
      f.amount.raw := by
  unfold Findings.dispatch Contract.transactRoute at walk
  rw [target] at walk
  simp only [Walk.append_none_iff, Contract.rehearsalStage, Session.sendStage,
    Session.demandStage, Walk.ask_none_iff, Walk.nil_iff, Session.demanded_iff] at walk
  obtain ⟨terms, _, rfl, told, _, _, rfl, ⟨trial, _, rfl, tried, sent, _, rfl, accepted, rfl, _⟩,
    confirms⟩ := walk
  obtain ⟨missing, final, rfl, waited, included, success⟩ := Session.confirmed confirms
  have asks := onlyAsks_of_walk told (by simp [Authorization.termsRoute, Request.onlyAsks])
  have toldTerms := terms_told told
    ((f.auth s).transaction (.account deployed.address)
      (Method.transfer f.partner f.amount.raw).input) ⟨rfl, rfl, rfl⟩
  have short := Nat.lt_of_le_of_lt (Method.transfer f.partner f.amount.raw).length_input_le
    (by decide : 100 < 2 ^ 32)
  have read := Authorization.ofRaw_raw toldTerms gas short
  have meant := Deployed.transfer?_eq read rfl (Method.ofInput?_input _) (signed _)
  refine ⟨?_, ?_, _, _, ?_, read, rfl, Method.ofInput?_input _⟩
  · have afforded := behind.tried (before ++ terms) _ (by simpa using place) tried
    rwa [← List.append_assoc, Deployed.replay_of_onlyAsks asks] at afforded
  · have effect := replay_included session.url (node.exchanges [] past ++ before ++
      (terms ++ [⟨⟨session.url, .call (some (f.auth s).sender) deployed.address
        (Method.transfer f.partner f.amount.raw).input⟩, trial⟩])) accepted meant waited included
      success
    rw [Deployed.replay_of_onlyAsks (List.forall_mem_append.mpr ⟨asks, by simp [Request.onlyAsks]⟩)]
      at effect
    rw [← effect]
    simp
  · have silent : (missing.map Exchange.call).filter (·.request.isBroadcast) = [] := by
      rw [List.filter_eq_nil_iff]
      rintro call called
      obtain ⟨exchange, member, rfl⟩ := List.mem_map.mp called
      simp [(waited exchange member).1, Request.isBroadcast]
    simp only [List.map_append, List.filter_append, filter_broadcast_of_onlyAsks asks, silent]
    simp [Request.isBroadcast]

end Course

/-- What one account has lost, the other one has gained; within one account nothing has moved. -/
structure TransferReport.Conserves (report : TransferReport) (payer receiver : Address) : Prop where
  between : payer ≠ receiver →
    report.deployerBefore.raw.toNat = report.deployerAfter.raw.toNat + report.amount.raw.toNat ∧
    report.receiverAfter.raw.toNat = report.receiverBefore.raw.toNat + report.amount.raw.toNat
  within : payer = receiver →
    report.receiverBefore = report.deployerBefore ∧ report.deployerAfter = report.deployerBefore ∧
      report.receiverAfter = report.deployerBefore

/-- Balances that are those of a ledger before a transfer and after it. -/
theorem TransferReport.conserves_of_ledger {report : TransferReport} {ledger : Ledger}
    {payer receiver : Address} (decimals : Nat)
    (afforded : report.amount.raw.toNat ≤ ledger.balance payer)
    (shown : ∀ amount ∈ [report.deployerBefore, report.receiverBefore, report.deployerAfter,
      report.receiverAfter], amount.decimals = decimals)
    (before : report.deployerBefore.raw.toNat = ledger.balance payer ∧
      report.receiverBefore.raw.toNat = ledger.balance receiver)
    (after : report.deployerAfter.raw.toNat =
        (ledger.apply ⟨payer, receiver, report.amount.raw.toNat⟩).balance payer ∧
      report.receiverAfter.raw.toNat =
        (ledger.apply ⟨payer, receiver, report.amount.raw.toNat⟩).balance receiver) :
    report.Conserves payer receiver where
  between other := by
    obtain ⟨lost, gained⟩ := Ledger.apply_of_ne ⟨payer, receiver, report.amount.raw.toNat⟩ afforded
      other
    rw [before.1, before.2, after.1, after.2]
    exact ⟨lost, gained⟩
  within := by
    rintro rfl
    have kept := Ledger.apply_of_eq ⟨payer, payer, report.amount.raw.toNat⟩ afforded rfl
    rw [kept, ← before.1] at after
    have equal {amount : Amount} (member : amount ∈ [report.deployerBefore, report.receiverBefore,
        report.deployerAfter, report.receiverAfter])
        (same : amount.raw.toNat = report.deployerBefore.raw.toNat) :
        amount = report.deployerBefore := by
      have scales := (shown amount member).trans (shown report.deployerBefore (by simp)).symm
      calc amount = ⟨amount.raw, amount.decimals⟩ := rfl
        _ = report.deployerBefore := by rw [BitVec.eq_of_toNat_eq same, scales]
    exact ⟨equal (by simp) (before.2.trans before.1.symm), equal (by simp) after.1,
      equal (by simp) after.2⟩

namespace Action

theorem queryTransfer_conserves {s : Settings} {session : Session} {contract key receiver : String}
    {amount : Option String} {deployed : Deployed} {deployer : Credential} {recipient : Address}
    {node : Node} {wire wire' : Wire} {report : TransferReport}
    (target : Account.parseAddress contract = .ok deployed.address)
    (payer : Credential.read key = .ok deployer)
    (goal : Account.resolveRecipient receiver = .ok recipient) (gas : s.gasLimit < 2 ^ 64)
    (signed : ∀ t, deployed.signerOf t (deployer.sign t.signingHash) = deployer.address)
    (behind : deployed.Behind node)
    (ran : queryTransfer s session contract key receiver amount node wire = (.ok report, wire')) :
    report.Conserves deployer.address recipient ∧
    (∃ made, wire'.calls = wire.calls ++ made ∧
      Broadcasts made session deployed.address deployer recipient report.amount.raw) ∧
    (report.lines.drop 4).map
        (fun line => Amount.parse (behindColon line) report.metadata.decimals) =
      [.ok report.deployerBefore, .ok report.receiverBefore, .ok report.deployerAfter,
        .ok report.receiverAfter] ∧
    report.lines[2]?.map (fun line => Amount.parse (secondWord line) report.metadata.decimals) =
      some (.ok report.amount) := by
  obtain ⟨calls, extended, ends⟩ :=
    queryTransfer_follows s session contract key receiver amount node wire
  rw [ran] at extended ends
  cases ends with
  | ok f walk =>
    obtain ⟨opening, _, joined, opens, walk⟩ := Walk.append_none_iff.mp walk
    obtain ⟨parsed, walk⟩ := Walk.read_none_iff.mp walk
    obtain ⟨_, last, rfl, walk, readAfter⟩ := Walk.append_none_iff.mp walk
    obtain ⟨first, sent, rfl, readBefore, dispatched⟩ := Walk.append_none_iff.mp walk
    simp only [List.cons_append, List.nil_append, Walk.read_none_iff] at opens
    obtain ⟨opened, keyed, aimed, metadata⟩ := opens
    obtain ⟨same, found⟩ := contractAt_ok opened
    have address : f.contract.address = deployed.address :=
      Except.ok.inj (found.symm.trans target)
    have located : f.contract = ⟨session, deployed.address⟩ := by rw [← same, ← address]
    obtain rfl : deployer = f.signer := Except.ok.inj (payer.symm.trans keyed)
    obtain rfl : recipient = f.partner := Except.ok.inj (goal.symm.trans aimed)
    have asks := onlyAsks_of_walk metadata (by simp [Contract.metadataRoute, Request.onlyAsks])
    have asksFirst := onlyAsks_of_walk readBefore (by simp [Findings.balances, Request.onlyAsks])
    have asksLast := onlyAsks_of_walk readAfter (by simp [Findings.balances, Request.onlyAsks])
    have whole : node.exchanges wire.calls calls = opening ++ (first ++ (sent ++ last)) := by
      simpa using joined
    have behindFirst : node.exchanges wire.calls calls = opening ++ first ++ (sent ++ last) := by
      simpa using joined
    have behindSent : node.exchanges wire.calls calls =
        opening ++ first ++ sent ++ (last ++ []) := by
      simpa using joined
    have toldBefore := f.balances_told behind address readBefore whole
    have toldAfter := f.balances_told behind address readAfter behindSent
    obtain ⟨afforded, effect, broadcasts⟩ :=
      f.dispatch_replayed behind located signed gas dispatched behindFirst
    rw [← List.append_assoc, Deployed.replay_of_onlyAsks asksFirst] at afforded
    rw [← List.append_assoc _ opening, Deployed.replay_of_onlyAsks asksFirst] at effect
    rw [effect] at toldAfter
    obtain ⟨few, decimals⟩ := parseAmount_decimals parsed
    refine ⟨TransferReport.conserves_of_ledger f.metadata.decimals afforded (by simp) toldBefore
      toldAfter, ⟨calls, extended, ?_⟩,
      TransferReport.lines_read few (by simp [decimals])⟩
    obtain ⟨raw, t, only, read, goes, means⟩ := broadcasts
    have called : calls = (opening ++ (first ++ sent ++ last)).map Exchange.call := by
      rw [← joined, Node.exchanges_calls]
    refine ⟨raw, t, ?_, read, goes, means⟩
    rw [called]
    simp only [List.map_append, List.filter_append, filter_broadcast_of_onlyAsks asks,
      filter_broadcast_of_onlyAsks asksFirst, filter_broadcast_of_onlyAsks asksLast, only]
    rfl

end Action

/-- A token of one decimal, of which the signer holds ten. -/
def sampleToken : Deployed :=
  ⟨0xc0, fun _ _ => sampleSigner.address, .single sampleSigner.address 100 (by decide)⟩

/-- It has no receipt at the first time of asking. -/
def sampleTokenNode : Node := sampleToken.node 1 1

/-- One and a half tokens are sent between two accounts, and the four balances say so. -/
theorem queryTransfer_conserves_sample :
    Account.parseAddress "0x00000000000000000000000000000000000000c0" = .ok sampleToken.address ∧
    Credential.read "0000000000000000000000000000000000000000000000000000000000000001" =
      .ok sampleSigner ∧
    Account.resolveRecipient "0x00000000000000000000000000000000000000d1" = .ok 0xd1 ∧
    sampleSettings.gasLimit < 2 ^ 64 ∧
    (∀ t, sampleToken.signerOf t (sampleSigner.sign t.signingHash) = sampleSigner.address) ∧
    sampleToken.Behind sampleTokenNode ∧
    ∃ report wire, Action.queryTransfer sampleSettings sampleSession
        "0x00000000000000000000000000000000000000c0"
        "0000000000000000000000000000000000000000000000000000000000000001"
        "0x00000000000000000000000000000000000000d1" (some "1.5") sampleTokenNode .idle =
        (.ok report, wire) ∧
      report.deployerBefore.raw.toNat = report.deployerAfter.raw.toNat + 15 ∧
      report.receiverAfter.raw.toNat = report.receiverBefore.raw.toNat + 15 := by
  have target : Account.parseAddress "0x00000000000000000000000000000000000000c0" =
      .ok sampleToken.address := ok_of_toOption (by decide +kernel)
  have payer : Credential.read "0000000000000000000000000000000000000000000000000000000000000001" =
      .ok sampleSigner := ok_of_toOption (by decide +kernel)
  have goal : Account.resolveRecipient "0x00000000000000000000000000000000000000d1" = .ok 0xd1 :=
    ok_of_toOption (by decide +kernel)
  have other : sampleSigner.address ≠ 0xd1 := by
    rw [sampleSigner_address]
    decide
  have gas : sampleSettings.gasLimit < 2 ^ 64 := by decide
  have signed (t : Transaction) :
      sampleToken.signerOf t (sampleSigner.sign t.signingHash) = sampleSigner.address := by
    rw [sampleToken]
  have behind := sampleToken.node_behind 1 1
  have parsed : Action.parseAmount ((some "1.5").getD sampleSettings.transferAmount) 1 =
      .ok ⟨15, 1⟩ := ok_of_toOption (by decide +kernel)
  have afforded : (15 : Word).toNat ≤ sampleToken.opening.balance sampleSigner.address := by
    rw [show sampleToken.opening.balance sampleSigner.address = 100 from if_pos rfl]
    decide
  obtain ⟨report, wire, ran, amount⟩ := Deployed.node_reports 1 1 sampleSession target payer
    sampleSigner_permitted goal (by decide) parsed afforded (by decide) (by decide)
  have rule := Action.queryTransfer_conserves target payer goal gas signed behind ran
  have moved := rule.1.between other
  rw [amount] at moved
  exact ⟨target, payer, goal, gas, signed, behind, report, wire, ran, moved⟩

end TokenClient
