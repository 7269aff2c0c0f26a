import TokenClient.Proofs.Broadcast
import TokenClient.Proofs.Rehearsal
import TokenClient.Proofs.TokenLedger

/-! A node that keeps the ledger of a token. It takes every transaction, has no receipt for it
until it has been asked a few times, and tells balances as they are. -/
namespace TokenClient

open Token

def Request.isReceipt : Request → Bool
  | .receipt _ => true
  | _ => false

def emptyTextReply : Reply := .result (.string (Hex.text (Abi.encodeWords [32, 0])))

theorem Receipt.ofJson?_of_find {value other : Json} {find seek : String → Option Json}
    (record : value.record? keys = some find) (sought : other.record? keys = some seek)
    (agree : ∀ key, key ≠ "logsBloom" → find key = seek key)
    (bloom : ((find "logsBloom").bind (Json.fixedBytes? 256)).isSome =
      ((seek "logsBloom").bind (Json.fixedBytes? 256)).isSome) :
    ofJson? value = ofJson? other := by
  have alike (rest : Option Receipt) :
      ((find "logsBloom").bind fun text => (text.fixedBytes? 256).bind fun _ => rest) =
        (seek "logsBloom").bind fun text => (text.fixedBytes? 256).bind fun _ => rest := by
    rw [← Option.bind_assoc, ← Option.bind_assoc]
    cases first : (find "logsBloom").bind (Json.fixedBytes? 256) <;>
      cases second : (seek "logsBloom").bind (Json.fixedBytes? 256) <;> simp_all
  unfold ofJson? success?
  rw [record, sought]
  change Option.bind (some find) _ = Option.bind (some seek) _
  rw [Option.bind_some, Option.bind_some]
  simp (disch := simp) only [agree]
  simp only [Option.bind_eq_bind, alike]

/-- Of the bloom of a receipt only its length counts. -/
theorem Receipt.ofJson?_bloom (front back : List (String × Json)) {bloom other : Json}
    (same : (bloom.fixedBytes? 256).isSome = (other.fixedBytes? 256).isSome) :
    ofJson? (.object (front ++ ("logsBloom", bloom) :: back)) =
      ofJson? (.object (front ++ ("logsBloom", other) :: back)) := by
  have counted (key : String) :
      (front ++ ("logsBloom", bloom) :: back).countP (·.1 == key) =
        (front ++ ("logsBloom", other) :: back).countP (·.1 == key) := by
    simp [List.countP_append, List.countP_cons]
  by_cases single : keys.all fun key =>
      (front ++ ("logsBloom", other) :: back).countP (·.1 == key) ≤ 1
  · refine ofJson?_of_find (if_pos (by simpa only [counted] using single)) (if_pos single) ?_ ?_
    · intro key elsewhere
      simp [List.lookup_append, List.lookup_cons, beq_false_of_ne elsewhere]
    · cases found : front.lookup "logsBloom" <;> simp [List.lookup_append, found, same]
  · have refused : Json.record? keys (.object (front ++ ("logsBloom", other) :: back)) = none :=
      if_neg single
    have blocked : Json.record? keys (.object (front ++ ("logsBloom", bloom) :: back)) = none :=
      if_neg (by simpa only [counted] using single)
    rw [ofJson?, ofJson?, refused, blocked]

def successReply : Reply :=
  .result (.object [("transactionHash", .string (Hex.text (Bytes.ofNat 32 0xab))),
    ("transactionIndex", .string "0x0"), ("blockHash", .string (Hex.text (Bytes.ofNat 32 0x11))),
    ("blockNumber", .string "0x1"), ("gasUsed", .string "0x5208"),
    ("effectiveGasPrice", .string "0x7"), ("from", .string (Hex.text (Bytes.ofNat 20 1))),
    ("to", .null), ("contractAddress", .null), ("type", .string "0x0"),
    ("logsBloom", .string (Hex.text (List.replicate 256 0))), ("status", .string "0x1"),
    ("cumulativeGasUsed", .string "0x5208"), ("logs", .array [])])

/-- Two hundred and fifty-six bytes are cheaper to read as numbers than as one text. -/
theorem successReply_understood : successReply.understood Receipt.answer? =
    .ok (some ⟨0xab, true, some 1, 0x5208, none⟩) := by
  have same : (Json.fixedBytes? 256 (.string (Hex.text (List.replicate 256 0)))).isSome =
      (Json.fixedBytes? 256 (.array (List.replicate 256 (.number "0")))).isSome := by
    have text := Json.fixedBytes?_text (List.replicate 256 0)
    rw [List.length_replicate] at text
    rw [text]
    decide +kernel
  have read := Receipt.ofJson?_bloom
    [("transactionHash", .string (Hex.text (Bytes.ofNat 32 0xab))),
      ("transactionIndex", .string "0x0"), ("blockHash", .string (Hex.text (Bytes.ofNat 32 0x11))),
      ("blockNumber", .string "0x1"), ("gasUsed", .string "0x5208"),
      ("effectiveGasPrice", .string "0x7"), ("from", .string (Hex.text (Bytes.ofNat 20 1))),
      ("to", .null), ("contractAddress", .null), ("type", .string "0x0")]
    [("status", .string "0x1"), ("cumulativeGasUsed", .string "0x5208"), ("logs", .array [])] same
  refine understood_iff.mpr ⟨_, rfl, (congrArg (Option.map some) read).trans ?_⟩
  decide +kernel

namespace Deployed

variable (deployed : Deployed) (decimals patience : Nat)

/-- What the contract answers to a call, as the chain stands. -/
def outcome (chain : Chain) (sender : Option Address) : Option Method → Reply
  | some (.balanceOf account) => wordReply (chain.ledger.balance account)
  | some (.transfer _ amount) =>
    wordReply (if amount.toNat ≤ chain.ledger.balance (sender.getD 0) then 1 else 0)
  | some .decimals => wordReply decimals
  | _ => emptyTextReply

/-- What the node answers, as the chain stands and after these calls. -/
def answer (past : List Call) (chain : Chain) (call : Call) : Reply :=
  match call.request with
  | .call sender target input =>
    if target = deployed.address then outcome decimals chain sender (Method.ofInput? input)
    else .dropped "no such contract"
  | .sendRaw _ => wordReply 0xab
  | .receipt _ =>
    if past.countP (·.request.isReceipt) < patience then .result .null else successReply
  | _ => .result (.string "0x7")

/-- The chain after these calls, the latest one first. -/
def books : List Call → Chain
  | [] => ⟨deployed.opening, []⟩
  | call :: earlier =>
    deployed.step (books earlier)
      ⟨call, deployed.answer decimals patience earlier.reverse (books earlier) call⟩

def node : Node := fun past call =>
  ⟨deployed.answer decimals patience past (deployed.books decimals patience past.reverse) call, 1⟩

/-- The node's own books are what its replies make of the ledger. -/
theorem replay_node (past : List Call) :
    deployed.replay ((deployed.node decimals patience).exchanges [] past) =
      deployed.books decimals patience past.reverse := by
  induction past using List.reverseRecOn with
  | nil => rfl
  | append_singleton past call ih =>
    rw [Node.exchanges_append, replay_append, ih, List.reverse_concat]
    simp [Node.exchanges, books, node]

theorem node_call (past : List Call) (url : String) (sender : Option Address) (method : Method) :
    (deployed.node decimals patience past
      ⟨url, .call sender deployed.address method.input⟩).reply =
      outcome decimals (deployed.books decimals patience past.reverse) sender (some method) := by
  simp only [node, answer, ↓reduceIte, Method.ofInput?_input]

theorem node_receipt (past : List Call) (url : String) (hash : TxHash) :
    deployed.node decimals patience past ⟨url, .receipt hash⟩ =
      ⟨if past.countP (·.request.isReceipt) < patience then .result .null else successReply, 1⟩ :=
  rfl

theorem node_behind : deployed.Behind (deployed.node decimals patience) where
  balances past url account data units understood read := by
    have bounded := (deployed.books decimals patience past.reverse).ledger.balance_lt account
    have told : (outcome decimals (deployed.books decimals patience past.reverse) none
        (some (.balanceOf account))).understood Json.bytes? = .ok data := by
      rw [← deployed.node_call decimals patience past url none (.balanceOf account)]
      exact understood
    have same := Except.ok.inj ((wordReply_understood _).symm.trans told)
    subst same
    rw [Abi.word_ofNat] at read
    cases read
    rw [replay_node, BitVec.toNat_ofNat]
    exact Nat.mod_eq_of_lt bounded
  trials past url payer receiver amount data affordable understood read := by
    have told : (outcome decimals (deployed.books decimals patience past.reverse) (some payer)
        (some (.transfer receiver amount))).understood Json.bytes? = .ok data := by
      rw [← deployed.node_call decimals patience past url (some payer) (.transfer receiver amount)]
      exact understood
    have same := Except.ok.inj ((wordReply_understood _).symm.trans told)
    subst same
    rw [Abi.flag_ofNat (by split <;> decide)] at read
    cases read
    rw [replay_node]
    simp

theorem books_of_onlyAsks {past : List Call} (asks : ∀ call ∈ past, call.request.onlyAsks) :
    deployed.books decimals patience past = ⟨deployed.opening, []⟩ := by
  induction past with
  | nil => rfl
  | cons call earlier ih =>
    rw [books, ih fun other member => asks other (.tail call member)]
    exact step_of_onlyAsks _ (asks call (.head earlier))

end Deployed

/-- The computation comes to a good end, with such a result and such calls behind it. -/
def Client.Gives (x : Client α) (node : Node) (wire : Wire) (good : α → Wire → Prop) : Prop :=
  ∃ a last, x node wire = (.ok a, last) ∧ good a last

theorem Client.gives_bind {x : Client α} {f : α → Client β} {node : Node} {wire : Wire}
    {first : α → Wire → Prop} {second : β → Wire → Prop} (leads : x.Gives node wire first)
    (follows : ∀ a last, first a last → (f a).Gives node last second) :
    (x >>= f).Gives node wire second := by
  obtain ⟨a, middle, ran, holds⟩ := leads
  obtain ⟨b, last, done, good⟩ := follows a middle holds
  exact ⟨b, last, (Client.bind_ok ran).trans done, good⟩

namespace Deployed

/-! A transfer on such a node, one operation after the other. -/

variable {deployed : Deployed} {decimals patience : Nat} {session : Session} {wire : Wire}

theorem node_read {reading : Except Failure α} {a : α} (found : reading = .ok a) :
    (liftM reading : Client α).Gives (deployed.node decimals patience) wire
      fun b last => b = a ∧ last = wire :=
  ⟨a, wire, congrArg (·, wire) found, rfl, rfl⟩

theorem node_view {method : Method} {read : Bytes → Except Abi.Fault α} {a : α}
    (told : Contract.viewed method read (outcome decimals
      (deployed.books decimals patience wire.calls.reverse) none (some method)) = .ok a) :
    ((Contract.mk session deployed.address).view method read).Gives
      (deployed.node decimals patience) wire fun b last => b = a ∧
        last.calls = wire.calls ++ [⟨session.url, .call none deployed.address method.input⟩] := by
  have reply := deployed.node_call decimals patience wire.calls session.url none method
  have ran := (Contract.mk session deployed.address).view_eq method read
    (deployed.node decimals patience) wire
  dsimp only at ran
  rw [reply, told] at ran
  exact ⟨a, _, ran, rfl, rfl⟩

theorem node_metadata (few : decimals < 256) :
    (Contract.mk session deployed.address).metadata.Gives (deployed.node decimals patience) wire
      fun metadata last => metadata.decimals = decimals ∧
        last.calls = wire.calls ++ [⟨session.url, .call none deployed.address Method.name.input⟩,
          ⟨session.url, .call none deployed.address Method.symbol.input⟩,
          ⟨session.url, .call none deployed.address Method.decimals.input⟩] := by
  have name : Contract.viewed .name Abi.text emptyTextReply = .ok "" :=
    ok_of_toOption (by decide +kernel)
  have symbol : Contract.viewed .symbol Abi.text emptyTextReply = .ok "" :=
    ok_of_toOption (by decide +kernel)
  refine Client.gives_bind (node_view name) fun _ first asked => ?_
  refine Client.gives_bind (node_view symbol) fun _ second more => ?_
  refine Client.gives_bind (node_view (viewed_decimals few)) fun _ third last => ?_
  refine ⟨_, _, rfl, last.1, ?_⟩
  rw [last.2, more.2, asked.2]
  simp

theorem node_balance (account : Address) :
    ((Contract.mk session deployed.address).balanceAmount account decimals).Gives
      (deployed.node decimals patience) wire fun _ last => last.calls = wire.calls ++
        [⟨session.url, .call none deployed.address (Method.balanceOf account).input⟩] :=
  Client.gives_bind (node_view (viewed_balance account _)) fun _ _ asked => ⟨_, _, rfl, asked.2⟩

theorem node_demand {request : Request} {read? : Json → Option α} {a : α}
    (told : Session.demanded read?
      (deployed.node decimals patience wire.calls ⟨session.url, request⟩).reply = .ok a) :
    (session.demand request read?).Gives (deployed.node decimals patience) wire
      fun _ last => last.calls = wire.calls ++ [⟨session.url, request⟩] :=
  ⟨a, _, (session.demand_eq request read? _ wire).trans (congrArg (·, _) told), rfl⟩

theorem node_terms {signer : Credential} (gasLimit : Nat)
    (permitted : Authorization.permitted signer.address = .ok ()) :
    (Authorization.forCredential session signer gasLimit).Gives (deployed.node decimals patience)
      wire fun auth last => auth.sender = signer.address ∧
        last.calls = wire.calls ++ [⟨session.url, .transactionCount signer.address⟩,
          ⟨session.url, .gasPrice⟩, ⟨session.url, .chainId⟩] := by
  have small : Session.demanded (Json.quantity? 64) (.result (.string "0x7")) = .ok 7 :=
    ok_of_toOption (by decide +kernel)
  have large : Session.demanded (Json.quantity? 128) (.result (.string "0x7")) = .ok 7 :=
    ok_of_toOption (by decide +kernel)
  rw [Authorization.forCredential, Authorization.request_inOrder]
  refine Client.gives_bind (node_read permitted) fun _ _ same => ?_
  obtain ⟨_, rfl⟩ := same
  refine Client.gives_bind (node_demand small) fun nonce first asked => ?_
  refine Client.gives_bind (node_demand large) fun gasPrice second more => ?_
  refine Client.gives_bind (node_demand small) fun chain third last => ?_
  refine ⟨_, _, rfl, rfl, ?_⟩
  rw [last, more, asked]
  simp

/-- As long as nothing but questions has been asked, the ledger is as it was at first. -/
theorem node_sent {auth : Authorization} {recipient : Address} {amount : Word}
    (asks : ∀ call ∈ wire.calls, call.request.onlyAsks)
    (afforded : amount.toNat ≤ deployed.opening.balance auth.sender) :
    ((Contract.mk session deployed.address).transfer auth recipient amount).Gives
      (deployed.node decimals patience) wire fun _ last => last.calls = wire.calls ++
        [(Contract.mk session deployed.address).trialCall auth (.transfer recipient amount),
          (Contract.mk session deployed.address).broadcastCall auth
            (.transfer recipient amount)] := by
  have opening : deployed.books decimals patience wire.calls.reverse = ⟨deployed.opening, []⟩ :=
    deployed.books_of_onlyAsks decimals patience (by simpa using asks)
  have trial : (deployed.node decimals patience wire.calls
      ((Contract.mk session deployed.address).trialCall auth
        (.transfer recipient amount))).reply = wordReply 1 := by
    have told := deployed.node_call decimals patience wire.calls session.url (some auth.sender)
      (.transfer recipient amount)
    rw [opening] at told
    exact told.trans (congrArg wordReply (if_pos afforded))
  have ran := Contract.transact_eq ⟨session, deployed.address⟩ auth (.transfer recipient amount)
    (deployed.node decimals patience) wire
  dsimp only at ran
  rw [trial, rehearsed_one] at ran
  refine ⟨_, _, ran.trans (congrArg (·, _) (Session.demanded_iff.mpr (wordReply_hash _))), ?_⟩
  simp [Wire.after]

/-- The polls that are left find nothing until the node's patience is over. The induction is on
how many of them there are. -/
theorem node_polled {schedule : Session.Schedule} {url : String} {hash : TxHash} {left : Nat}
    (number : Nat) (wire : Wire)
    (asked : wire.calls.countP (·.request.isReceipt) = number) (rest : number + left = patience)
    (early : wire.clock ≤ schedule.start + number * schedule.interval)
    (time : patience * schedule.interval + 1 ≤ schedule.limit) :
    Client.Gives (schedule.poll url hash number) (deployed.node decimals patience) wire
      fun receipt _ => receipt.success := by
  have missing : (Reply.result .null).understood Receipt.answer? = .ok none := rfl
  have within : number * schedule.interval ≤ patience * schedule.interval :=
    Nat.mul_le_mul_right _ (by omega)
  have reply := deployed.node_receipt decimals patience wire.calls url hash
  induction left generalizing number wire with
  | zero =>
    rw [asked, if_neg (by omega)] at reply
    refine ⟨_, _, Session.Schedule.poll_included ?_ (by rw [reply, successReply_understood]), rfl⟩
    rw [reply, Session.Schedule.deadline]
    dsimp only
    omega
  | succ left ih =>
    rw [asked, if_pos (by omega)] at reply
    have timely : max (schedule.start + number * schedule.interval) wire.clock +
        (deployed.node decimals patience wire.calls ⟨url, .receipt hash⟩).delay ≤
        schedule.deadline := by
      rw [reply, Session.Schedule.deadline]
      dsimp only
      omega
    have pace := schedule.positive
    obtain ⟨receipt, last, polled, success⟩ := ih (number + 1)
      ⟨wire.calls ++ [⟨url, .receipt hash⟩],
        max (schedule.start + number * schedule.interval) wire.clock +
          (deployed.node decimals patience wire.calls ⟨url, .receipt hash⟩).delay⟩
      (by rw [List.countP_append, asked]; rfl) (by omega)
      (by rw [reply, Nat.succ_mul]; dsimp only; omega)
      (Nat.mul_le_mul_right _ (by omega)) rfl
    have waits := schedule.poll_missing timely (by rw [reply, missing])
    exact ⟨receipt, last, waits.trans polled, success⟩

theorem node_confirmed {hash : TxHash} (fresh : wire.calls.countP (·.request.isReceipt) = 0)
    (pace : 0 < session.config.pollInterval)
    (time : patience * session.config.pollInterval + 1 ≤ session.config.confirmationTimeout) :
    (session.confirm hash).Gives (deployed.node decimals patience) wire fun _ _ => True := by
  let schedule : Session.Schedule :=
    ⟨wire.clock, session.config.pollInterval, session.config.confirmationTimeout, pace⟩
  have awaited : (session.await hash).Gives (deployed.node decimals patience) wire
      fun receipt _ => receipt.success := by
    obtain ⟨receipt, last, polled, success⟩ : Client.Gives (schedule.poll session.url hash 0)
        (deployed.node decimals patience) wire fun receipt _ => receipt.success :=
      node_polled 0 wire fresh (Nat.zero_add patience) (by simp [schedule]) time
    exact ⟨receipt, last, (dif_pos pace).trans polled, success⟩
  refine Client.gives_bind awaited fun receipt last success => ?_
  rw [if_pos success]
  exact ⟨receipt, last, rfl, trivial⟩

/-- Where the payer can afford it and there is time for the polls, a transfer is reported. -/
theorem node_reports (decimals patience : Nat) (session : Session) {s : Settings}
    {contract key receiver : String} {text : Option String}
    {signer : Credential} {recipient : Address} {amount : Amount}
    (target : Account.parseAddress contract = .ok deployed.address)
    (payer : Credential.read key = .ok signer)
    (permitted : Authorization.permitted signer.address = .ok ())
    (goal : Account.resolveRecipient receiver = .ok recipient) (few : decimals < 256)
    (parsed : Action.parseAmount (text.getD s.transferAmount) decimals = .ok amount)
    (afforded : amount.raw.toNat ≤ deployed.opening.balance signer.address)
    (pace : 0 < session.config.pollInterval)
    (time : patience * session.config.pollInterval + 1 ≤ session.config.confirmationTimeout) :
    (Action.queryTransfer s session contract key receiver text).Gives
      (deployed.node decimals patience) .idle fun report _ => report.amount = amount := by
  have opened : Action.contractAt session contract = .ok ⟨session, deployed.address⟩ := by
    rw [Action.contractAt, target]
    rfl
  refine Client.gives_bind (node_read opened) ?_
  rintro _ _ ⟨rfl, rfl⟩
  refine Client.gives_bind (node_read payer) ?_
  rintro _ _ ⟨rfl, rfl⟩
  refine Client.gives_bind (node_read goal) ?_
  rintro _ _ ⟨rfl, rfl⟩
  refine Client.gives_bind (node_metadata few) ?_
  rintro metadata _ ⟨rfl, first⟩
  refine Client.gives_bind (node_read parsed) ?_
  rintro _ _ ⟨rfl, rfl⟩
  refine Client.gives_bind (node_balance _) fun _ _ second => ?_
  refine Client.gives_bind (node_balance _) fun _ _ third => ?_
  refine Client.gives_bind (node_terms s.gasLimit permitted) ?_
  rintro auth last ⟨sender, asked⟩
  rw [third, second, first] at asked
  have asks : ∀ call ∈ last.calls, call.request.onlyAsks := by
    rw [asked]
    simp [Wire.idle, Request.onlyAsks]
  refine Client.gives_bind (node_sent asks (by rwa [sender])) fun _ _ sent => ?_
  refine Client.gives_bind (node_confirmed (by rw [sent, asked]; rfl) pace time) fun _ _ _ => ?_
  refine Client.gives_bind (node_balance _) fun _ _ _ => ?_
  refine Client.gives_bind (node_balance _) fun _ _ _ => ?_
  exact ⟨_, _, rfl, rfl⟩

end Deployed
end TokenClient
