import TokenClient.Proofs.Broadcast
import TokenClient.Proofs.KeccakLanes

/-! The address under which a deployment is announced. It is made before the transaction is signed,
yet it is the one that follows from the transaction as it goes out. -/
namespace TokenClient

namespace Address

/-- An account's next contract stands at the last twenty bytes of the hash of the account and its
nonce. -/
theorem toBytes_created (sender : Address) (nonce : Nat) :
    (sender.created nonce).toBytes =
      (Keccak.hash (Rlp.Item.list [.bytes sender.toBytes, .number nonce]).encode).rtake 20 :=
  toBytes_digest _

example : created 0xf39Fd6e51aad88F6F4ce6aB8827279cffFb92266 0 =
    0x5FbDB2315678afecb367f032d93F642f64180aa3 := by
  rw [created, digest, Keccak.hash_eq_hashLanes]
  decide +kernel

end Address

namespace Token.Contract

/-- The bytes spell the creation of the token, signed with this key. -/
structure Creates (raw : Bytes) (signer : Credential) (t : Transaction) : Prop where
  spelled : Transaction.ofRaw raw = some (t, signer.sign t.signingHash)
  destination : t.destination = .creation
  input : t.input = Token.code

/-- What is announced of a transaction that creates a contract: who has signed it, and the address
that follows from the signer and the transaction's own nonce. -/
structure Announces (session : Session) (signer : Credential) (t : Transaction)
    (contract : Contract) (deployment : Deployment) : Prop where
  deployer : deployment.deployer = signer.address
  address : deployment.address.toBytes = (Keccak.hash (Rlp.Item.list
    [.bytes signer.address.toBytes, .number t.nonce]).encode).rtake 20
  bound : contract = ⟨session, deployment.address⟩

/-- A deployment is one broadcast. Where the node answers with a hash, it is announced under that
hash and as the broadcast says; else the failure is all that is reported. -/
theorem deploy_announces (session : Session) {auth : Authorization} (fits : auth.Fits)
    (node : Node) (wire : Wire) :
    ∃ raw t, Creates raw auth.credential t ∧
    (Request.sendRaw raw).method = "eth_sendRawTransaction" ∧
    (deploy session auth node wire).2.calls = wire.calls ++ [⟨session.url, .sendRaw raw⟩] ∧
    match (node wire.calls ⟨session.url, .sendRaw raw⟩).reply.understood Json.hash? with
    | .ok hash => ∃ contract deployment,
        (deploy session auth node wire).1 = .ok (contract, deployment) ∧
        Announces session auth.credential t contract deployment ∧ deployment.hash = hash
    | .error fault => (deploy session auth node wire).1 = .error (.rpc fault.message) := by
  have spelled := auth.ofRaw_of_fits fits .creation Token.length_code_lt
  refine ⟨auth.raw .creation Token.code, _, ⟨spelled, rfl, rfl⟩, rfl, ?_, ?_⟩
  · rw [deploy_eq]
    rfl
  · rw [deploy_eq]
    dsimp only [Session.demanded]
    cases (node wire.calls ⟨session.url, .sendRaw (auth.raw .creation Token.code)⟩).reply.understood
      Json.hash? with
    | error fault => rfl
    | ok hash =>
      exact ⟨_, _, rfl, ⟨rfl, auth.sender.toBytes_created auth.nonce, rfl⟩, rfl⟩

theorem deploy_announces_sample :
    sampleAuthorization.Fits ∧ ∃ raw t contract deployment,
      Creates raw sampleSigner t ∧
      (deploy sampleSession sampleAuthorization (.scripted [⟨wordReply 0xab, 1⟩]) .idle).1 =
        .ok (contract, deployment) ∧
      Announces sampleSession sampleSigner t contract deployment ∧
      deployment.deployer = 0x7e5f4552091a69125d5dfcb7b8c2659029395bdf ∧
      deployment.hash = 0xab := by
  have fits : sampleAuthorization.Fits := ⟨by decide, by decide, by decide, by decide⟩
  obtain ⟨raw, t, creates, _, _, reported⟩ := deploy_announces sampleSession fits
    (.scripted [⟨wordReply 0xab, 1⟩]) .idle
  have taken : (Node.scripted [⟨wordReply 0xab, 1⟩] Wire.idle.calls
      ⟨sampleSession.url, .sendRaw raw⟩).reply.understood Json.hash? = .ok 0xab := wordReply_hash _
  simp only [taken] at reported
  obtain ⟨contract, deployment, outcome, announces, hash⟩ := reported
  exact ⟨fits, raw, t, contract, deployment, creates, outcome, announces,
    announces.deployer.trans sampleSigner_address, hash⟩

end Token.Contract
end TokenClient
