import TokenClient.Proofs.Broadcast

/-! Whose nonce an authorization carries. The nonce is asked for the account that is named, and the
signature is the credential's. The two belong together where the account is the credential's own. -/
namespace TokenClient.Authorization

/-- The node's answers about pending transactions are true. How many an account has pending may
differ from call to call. -/
def CountsPending (node : Node) (url : String) (count : List Call → Address → Nat) : Prop :=
  ∀ past account told,
    (node past ⟨url, .transactionCount account⟩).reply.understood (Json.quantity? 64) = .ok told →
    told = count past account

/-- The five ways in which asking for terms can end, with the exchanges that each one takes. -/
inductive Drawn (url : String) (account : Address) :
    List Exchange → Except Failure Terms → Prop where
  | forbidden : account = 0 → Drawn url account []
      (.error (.invalidAddress "cannot authorize transactions for the zero address"))
  | uncounted {failure : Failure} : account ≠ 0 →
      Session.demanded (Json.quantity? 64) counted = .error failure →
      Drawn url account [⟨⟨url, .transactionCount account⟩, counted⟩] (.error failure)
  | unpriced {failure : Failure} {terms : Terms} : account ≠ 0 →
      counted.understood (Json.quantity? 64) = .ok terms.nonce →
      Session.demanded (Json.quantity? 128) priced = .error failure →
      Drawn url account [⟨⟨url, .transactionCount account⟩, counted⟩, ⟨⟨url, .gasPrice⟩, priced⟩]
        (.error failure)
  | unplaced {failure : Failure} {terms : Terms} : account ≠ 0 →
      counted.understood (Json.quantity? 64) = .ok terms.nonce →
      priced.understood (Json.quantity? 128) = .ok terms.gasPrice →
      Session.demanded (Json.quantity? 64) placed = .error failure →
      Drawn url account [⟨⟨url, .transactionCount account⟩, counted⟩, ⟨⟨url, .gasPrice⟩, priced⟩,
        ⟨⟨url, .chainId⟩, placed⟩] (.error failure)
  | told {terms : Terms} : account ≠ 0 →
      counted.understood (Json.quantity? 64) = .ok terms.nonce →
      priced.understood (Json.quantity? 128) = .ok terms.gasPrice →
      placed.understood (Json.quantity? 64) = .ok terms.chainId →
      Drawn url account [⟨⟨url, .transactionCount account⟩, counted⟩, ⟨⟨url, .gasPrice⟩, priced⟩,
        ⟨⟨url, .chainId⟩, placed⟩] (.ok terms)

theorem permitted_iff {account : Address} : permitted account = .ok () ↔ account ≠ 0 := by
  unfold permitted
  by_cases zero : account = 0 <;> simp [zero]

theorem drawn_of_walk {session : Session} {account : Address} {terms : Terms}
    {made : List Exchange} {ending : Option Failure}
    (walk : Walk (termsRoute session account terms) made ending) :
    Drawn session.url account made
      (match ending with
        | none => .ok terms
        | some failure => .error failure) := by
  unfold termsRoute Session.demandStage at walk
  cases walk with
  | unreadable forbids =>
    unfold permitted at forbids
    by_cases zero : account = 0
    · rw [if_pos zero] at forbids
      cases forbids
      exact .forbidden zero
    · rw [if_neg zero] at forbids
      contradiction
  | readOn permits walk =>
    have named := permitted_iff.mp permits
    cases walk with
    | refused failed => exact .uncounted named failed
    | answered told walk =>
      have counted := Session.demanded_iff.mp told
      cases walk with
      | refused failed => exact .unpriced named counted failed
      | answered told walk =>
        have priced := Session.demanded_iff.mp told
        cases walk with
        | refused failed => exact .unplaced named counted priced failed
        | answered told walk =>
          obtain ⟨rfl, rfl⟩ := Walk.nil_iff.mp walk
          exact .told named counted priced (Session.demanded_iff.mp told)

section

variable (session : Session) (credential : Credential) (account : Address) (gasLimit : Nat)
  (node : Node) (wire : Wire)

/-- Whatever the node does, an authorization is obtained or missed in one of the five ways. -/
theorem request_drawn :
    ∃ made drawn, (request session credential account gasLimit node wire).2.calls =
        wire.calls ++ made ∧
      Drawn session.url account (node.exchanges wire.calls made) drawn ∧
      (request session credential account gasLimit node wire).1 =
        drawn.map fun terms =>
          ⟨credential, terms.nonce, gasLimit, terms.gasPrice, terms.chainId⟩ := by
  obtain ⟨made, calls, ends⟩ := request_follows session credential account gasLimit node wire
  refine ⟨made, ?_⟩
  generalize (request session credential account gasLimit node wire).1 = outcome at ends ⊢
  cases ends with
  | ok terms walk => exact ⟨.ok terms, calls, drawn_of_walk walk, rfl⟩
  | error terms walk => exact ⟨.error _, calls, drawn_of_walk walk, rfl⟩

end

theorem Drawn.nonce_eq {node : Node} {url : String} {account : Address} {past made : List Call}
    {terms : Terms} {count : List Call → Address → Nat} (counts : CountsPending node url count)
    (drawn : Drawn url account (node.exchanges past made) (.ok terms)) :
    terms.nonce = count past account := by
  generalize shape : node.exchanges past made = exchanges at drawn
  cases drawn with
  | @told counted _ _ _ _ understood _ _ =>
    cases made with
    | nil => simp [Node.exchanges] at shape
    | cons call more =>
      obtain ⟨same, _⟩ := List.cons.inj shape
      obtain ⟨rfl, rfl⟩ := Exchange.mk.inj same
      exact counts past account terms.nonce understood

/-- The zero address is turned away before anything is asked. Otherwise nonce, gas price and chain
are asked for in this order up to the first failure, the nonce is that of the named account, and so
it is the sender's just where that account has as many transactions pending as the sender has. -/
theorem nonce_of_named_account (session : Session) (credential : Credential) (gasLimit : Nat)
    {node : Node} {count : List Call → Address → Nat}
    (counts : CountsPending node session.url count) (wire : Wire) :
    (∀ account, ∃ made drawn,
      (request session credential account gasLimit node wire).2.calls = wire.calls ++ made ∧
      Drawn session.url account (node.exchanges wire.calls made) drawn ∧
      (request session credential account gasLimit node wire).1 =
        drawn.map fun terms =>
          ⟨credential, terms.nonce, gasLimit, terms.gasPrice, terms.chainId⟩) ∧
    (∀ account auth, (request session credential account gasLimit node wire).1 = .ok auth →
      auth.nonce = count wire.calls account ∧
      (auth.nonce = count wire.calls auth.sender ↔
        count wire.calls account = count wire.calls credential.address)) ∧
    ∀ auth, (forCredential session credential gasLimit node wire).1 = .ok auth →
      auth.nonce = count wire.calls auth.sender := by
  have named (account : Address) (auth : Authorization)
      (obtained : (request session credential account gasLimit node wire).1 = .ok auth) :
      auth.nonce = count wire.calls account ∧ auth.sender = credential.address := by
    obtain ⟨made, drawn, _, ended, outcome⟩ :=
      request_drawn session credential account gasLimit node wire
    rw [outcome] at obtained
    cases drawn with
    | error failure => contradiction
    | ok terms =>
      cases obtained
      exact ⟨ended.nonce_eq counts, rfl⟩
  refine ⟨fun account => request_drawn session credential account gasLimit node wire, ?_, ?_⟩
  · intro account auth obtained
    obtain ⟨nonce, sender⟩ := named account auth obtained
    refine ⟨nonce, ?_⟩
    rw [nonce, sender]
  · intro auth obtained
    obtain ⟨nonce, sender⟩ := named credential.address auth obtained
    rw [nonce, sender]

/-- One account has five transactions pending, all others have nine. -/
def sampleCounts (_ : List Call) (account : Address) : Nat := if account = 0xa5 then 5 else 9

/-- Tells these counts, the gas price 7 and the chain 9000. -/
def countingNode : Node := fun _ call =>
  let told := match call.request with
    | .transactionCount account => if account = 0xa5 then "0x5" else "0x9"
    | .gasPrice => "0x7"
    | _ => "0x2328"
  ⟨.result (.string told), 1⟩

theorem countingNode_counts (url : String) : CountsPending countingNode url sampleCounts := by
  have few : Json.quantity? 64 (.string "0x5") = some 5 := by decide +kernel
  have many : Json.quantity? 64 (.string "0x9") = some 9 := by decide +kernel
  intro past account told answered
  obtain ⟨value, read, quantity⟩ := understood_iff.mp answered
  by_cases fifth : account = 0xa5
  · simp only [countingNode, if_pos fifth, Reply.read, Except.ok.injEq] at read
    subst read
    rw [sampleCounts, if_pos fifth]
    exact Option.some.inj (quantity.symm.trans few)
  · simp only [countingNode, if_neg fifth, Reply.read, Except.ok.injEq] at read
    subst read
    rw [sampleCounts, if_neg fifth]
    exact Option.some.inj (quantity.symm.trans many)

theorem sampleSigner_ne : sampleSigner.address ≠ 0xa5 := by
  rw [sampleSigner_address]
  decide

/-- With the account of five pending transactions named, the authorization of a sender who has
nine carries the nonce 5. -/
theorem nonce_of_other_account :
    CountsPending countingNode sampleUrl sampleCounts ∧
    (request sampleSession sampleSigner 0xa5 90000 countingNode .idle).1 =
      .ok ⟨sampleSigner, 5, 90000, 7, 9000⟩ ∧
    sampleCounts [] sampleSigner.address = 9 := by
  refine ⟨countingNode_counts sampleUrl, ok_of_toOption (by decide +kernel), ?_⟩
  exact if_neg sampleSigner_ne

theorem nonce_of_named_account_other :
    CountsPending countingNode sampleSession.url sampleCounts ∧
    ∃ auth, (request sampleSession sampleSigner 0xa5 90000 countingNode .idle).1 = .ok auth ∧
      auth.nonce = sampleCounts [] 0xa5 ∧ auth.nonce ≠ sampleCounts [] auth.sender := by
  have obtained : (request sampleSession sampleSigner 0xa5 90000 countingNode .idle).1 =
      .ok ⟨sampleSigner, 5, 90000, 7, 9000⟩ := ok_of_toOption (by decide +kernel)
  obtain ⟨nonce, own⟩ := (nonce_of_named_account sampleSession sampleSigner 90000
    (countingNode_counts sampleSession.url) .idle).2.1 0xa5 _ obtained
  refine ⟨countingNode_counts sampleSession.url, _, obtained, nonce, ?_⟩
  intro same
  have equal := own.mp same
  rw [sampleCounts, if_pos rfl, sampleCounts, if_neg sampleSigner_ne] at equal
  contradiction

end TokenClient.Authorization
