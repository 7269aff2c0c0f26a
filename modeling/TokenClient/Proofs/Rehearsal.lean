import TokenClient.Proofs.Broadcast
import TokenClient.Proofs.MethodInput

/-! State-changing calls one by one. A call is tried first, and it goes out only if the reply says
that it would succeed; every other reply ends it after that one request. -/
namespace TokenClient.Token.Contract

/-- The trial of a call: asked for, as the sender of the authorization would make it. -/
def trialCall (contract : Contract) (auth : Authorization) (method : Method) : Call :=
  ⟨contract.session.url, .call (some auth.sender) contract.address method.input⟩

def broadcastCall (contract : Contract) (auth : Authorization) (method : Method) : Call :=
  ⟨contract.session.url, .sendRaw (auth.raw (.account contract.address) method.input)⟩

/-- The reply to a trial is a result that says true. -/
def Agrees (reply : Reply) : Prop :=
  ∃ data, reply.understood Json.bytes? = .ok data ∧ Abi.flag data = .ok true

/-- How a reply to a trial does not agree, and the failure that this is. -/
inductive Declines (method : Method) (reply : Reply) : Failure → Prop where
  | denied : reply.understood Json.bytes? = .ok data → Abi.flag data = .ok false →
      Declines method reply (.contractCall (method.label ++ " returned false"))
  /-- No data at all are reported in words of their own. -/
  | undecodable : reply.understood Json.bytes? = .ok data → Abi.flag data = .error fault →
      .contractCall detail =
        (if data = [] then CallFault.noData method.label else .abi fault).failure →
      Declines method reply (.contractCall detail)
  | reverted : reply.understood Json.bytes? = .error (.refused refusal) →
      Declines method reply
        (.contractCall (method.label ++ " would revert: " ++ refusal.message))
  | lost : reply.understood Json.bytes? = .error fault → (∀ refusal, fault ≠ .refused refusal) →
      Declines method reply (.rpc fault.message)

theorem rehearsed_agrees {method : Method} {reply : Reply} (agrees : Agrees reply) :
    rehearsed method reply = .ok () := by
  obtain ⟨data, understood, agreed⟩ := agrees
  refine rehearsed_iff.mpr (evaluated_iff.mpr ⟨data, understood, ?_, agreed⟩)
  rintro rfl
  contradiction

theorem rehearsed_declines (method : Method) {reply : Reply} (against : ¬ Agrees reply) :
    ∃ failure, rehearsed method reply = .error failure ∧ Declines method reply failure := by
  unfold rehearsed evaluated
  cases understood : reply.understood Json.bytes? with
  | error fault =>
    cases fault with
    | refused refusal => exact ⟨_, rfl, .reverted understood⟩
    | dropped reason => exact ⟨_, rfl, .lost understood nofun⟩
    | status code body => exact ⟨_, rfl, .lost understood nofun⟩
    | malformed => exact ⟨_, rfl, .lost understood nofun⟩
  | ok data =>
    cases data with
    | nil =>
      have told : Abi.flag [] = .error .overrun := rfl
      exact ⟨_, rfl, .undecodable understood told rfl⟩
    | cons byte rest =>
      cases told : Abi.flag (byte :: rest) with
      | error fault =>
        refine ⟨_, ?_, .undecodable understood told rfl⟩
        simp [told, Except.mapError, CallFault.failure]
      | ok agreed =>
        cases agreed with
        | false =>
          refine ⟨_, ?_, .denied understood told⟩
          simp [told, Except.mapError]
        | true => exact absurd ⟨_, understood, told⟩ against

theorem transact_eq (contract : Contract) (auth : Authorization) (method : Method) (node : Node)
    (wire : Wire) :
    contract.transact auth method node wire =
      let tried := wire.after node (contract.trialCall auth method)
      match rehearsed method (node wire.calls (contract.trialCall auth method)).reply with
      | .error failure => (.error failure, tried)
      | .ok () =>
        (Session.demanded Json.hash?
            (node tried.calls (contract.broadcastCall auth method)).reply,
          tried.after node (contract.broadcastCall auth method)) := by
  have rehearses : contract.rehearse auth.sender method node wire =
      (rehearsed method (node wire.calls (contract.trialCall auth method)).reply,
        wire.after node (contract.trialCall auth method)) := by
    simp only [rehearse, bind, Client.bind, evaluate_eq, rehearsed, trialCall]
    generalize evaluated method Abi.flag (node wire.calls _).reply = outcome
    rcases outcome with ((_ | _ | _ | _) | _ | _) | _ | _ <;> rfl
  have inOrder : contract.transact auth method = (do
      contract.rehearse auth.sender method
      contract.session.demand (.sendRaw (auth.raw (.account contract.address) method.input))
        Json.hash?) := rfl
  rw [inOrder]
  simp only [bind, Client.bind, rehearses]
  cases rehearsed method (node wire.calls (contract.trialCall auth method)).reply with
  | error failure => rfl
  | ok _ => exact contract.session.demand_eq _ _ _ _

/-- An operation that tries this call, and broadcasts it just where the trial agrees. -/
structure Guarded (contract : Contract) (auth : Authorization) (method : Method) (node : Node)
    (wire : Wire) (operation : Client TxHash) : Prop where
  spelled : (contract.trialCall auth method).request.method = "eth_call" ∧
    (contract.trialCall auth method).request.params? =
      some [.object [("to", .string contract.address.text),
        ("input", .string (Hex.text method.input)), ("from", .string auth.sender.text)],
        .string "latest"]
  meant : Method.ofInput? method.input = some method
  /-- What would be broadcast has the target and the input of the trial. -/
  same : ∃ t signature,
    Transaction.ofRaw (auth.raw (.account contract.address) method.input) = some (t, signature) ∧
      t.destination = .account contract.address ∧ t.input = method.input
  sent : Agrees (node wire.calls (contract.trialCall auth method)).reply →
    (operation node wire).2.calls =
      wire.calls ++ [contract.trialCall auth method, contract.broadcastCall auth method] ∧
    (operation node wire).1 = Session.demanded Json.hash?
      (node (wire.calls ++ [contract.trialCall auth method])
        (contract.broadcastCall auth method)).reply
  held : ¬ Agrees (node wire.calls (contract.trialCall auth method)).reply →
    (operation node wire).2.calls = wire.calls ++ [contract.trialCall auth method] ∧
    ∃ failure, (operation node wire).1 = .error failure ∧
      Declines method (node wire.calls (contract.trialCall auth method)).reply failure

theorem transact_guarded (contract : Contract) {auth : Authorization} (fits : auth.Fits)
    (method : Method) (node : Node) (wire : Wire) :
    Guarded contract auth method node wire (contract.transact auth method) where
  spelled := ⟨rfl, rfl⟩
  meant := method.ofInput?_input
  same := by
    have short := Nat.lt_of_le_of_lt method.length_input_le (by decide : 100 < 2 ^ 32)
    exact ⟨_, _, auth.ofRaw_of_fits fits (.account contract.address) short, rfl, rfl⟩
  sent agrees := by
    rw [transact_eq, rehearsed_agrees agrees]
    refine ⟨?_, rfl⟩
    simp [Wire.after]
  held against := by
    obtain ⟨failure, failed, declines⟩ := rehearsed_declines method against
    rw [transact_eq, failed]
    exact ⟨rfl, failure, rfl, declines⟩

/-- None of the five operations that change the contract's state broadcasts anything unless the
very call has been tried right before and the node has said that it would succeed. -/
theorem state_changes_rehearsed (contract : Contract) {auth : Authorization} (fits : auth.Fits)
    (node : Node) (wire : Wire) :
    (∀ recipient amount, Guarded contract auth (.transfer recipient amount) node wire
      (contract.transfer auth recipient amount)) ∧
    (∀ owner recipient amount, Guarded contract auth (.transferFrom owner recipient amount) node
      wire (contract.transferFrom auth owner recipient amount)) ∧
    (∀ spender amount, Guarded contract auth (.approve spender amount) node wire
      (contract.approve auth spender amount)) ∧
    (∀ spender added, Guarded contract auth (.increaseAllowance spender added) node wire
      (contract.increaseAllowance auth spender added)) ∧
    ∀ spender subtracted, Guarded contract auth (.decreaseAllowance spender subtracted) node wire
      (contract.decreaseAllowance auth spender subtracted) :=
  ⟨fun _ _ => transact_guarded contract fits _ node wire,
    fun _ _ _ => transact_guarded contract fits _ node wire,
    fun _ _ => transact_guarded contract fits _ node wire,
    fun _ _ => transact_guarded contract fits _ node wire,
    fun _ _ => transact_guarded contract fits _ node wire⟩

theorem wordReply_zero_declines : ¬ Agrees (wordReply 0) := by
  rintro ⟨data, understood, agreed⟩
  have zeros : (wordReply 0).understood Json.bytes? = .ok (List.replicate 32 0) :=
    ok_of_toOption (by decide +kernel)
  cases zeros.symm.trans understood
  have denied : Abi.flag (List.replicate 32 0) = .ok false := ok_of_toOption (by decide +kernel)
  rw [denied] at agreed
  contradiction

/-- A transfer of approved tokens at a node that says false: one request is made, and it fails. -/
theorem state_changes_rehearsed_denied :
    sampleAuthorization.Fits ∧ ¬ Agrees (wordReply 0) ∧
    let contract : Contract := ⟨sampleSession, 0xc0⟩
    let ran := contract.transferFrom sampleAuthorization 0xa1 0xb2 5
      (Node.scripted [⟨wordReply 0, 1⟩]) .idle
    ran.2.calls = [contract.trialCall sampleAuthorization (.transferFrom 0xa1 0xb2 5)] ∧
    ∃ failure, ran.1 = .error failure ∧
      Declines (.transferFrom 0xa1 0xb2 5) (wordReply 0) failure := by
  have fits : sampleAuthorization.Fits := ⟨by decide, by decide, by decide, by decide⟩
  have guarded := (state_changes_rehearsed ⟨sampleSession, 0xc0⟩ fits
    (Node.scripted [⟨wordReply 0, 1⟩]) .idle).2.1 0xa1 0xb2 5
  exact ⟨fits, wordReply_zero_declines, guarded.held wordReply_zero_declines⟩

end TokenClient.Token.Contract
