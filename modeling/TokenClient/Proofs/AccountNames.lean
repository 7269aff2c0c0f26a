import TokenClient.Proofs.AccountReading
import TokenClient.Proofs.Broadcast

/-! Accounts that are named by their address or by their private key. Which of the two it is, and
how it is spelled, is settled where the argument is read; nothing behind that sees the text. -/
namespace TokenClient

/-- A command with one account left open: the account is the argument that is missing. -/
inductive AccountPlace where
  | transferReceiver (contract deployerKey : String) (amount : Option String)
  | balanceHolder (contract : String)
  | allowanceOwner (contract spender : String)
  | allowanceSpender (contract owner : String)
  | approvedSpender (contract ownerKey amount : String)
  | movedFrom (contract spenderKey recipient amount : String)
  | movedTo (contract spenderKey owner amount : String)
  deriving DecidableEq, Repr

namespace AccountPlace

def fill (place : AccountPlace) (account : String) : Command :=
  match place with
  | transferReceiver contract deployerKey amount =>
    .queryTransfer contract deployerKey account amount
  | balanceHolder contract => .balance contract account
  | allowanceOwner contract spender => .allowance contract account spender
  | allowanceSpender contract owner => .allowance contract owner account
  | approvedSpender contract ownerKey amount => .approve contract ownerKey account amount
  | movedFrom contract spenderKey recipient amount =>
    .transferFrom contract spenderKey account recipient amount
  | movedTo contract spenderKey owner amount =>
    .transferFrom contract spenderKey owner account amount

/-- A command sees only the account that a text stands for. -/
theorem carryOut_congr (place : AccountPlace) {first second : String} {address : Address}
    (named : Account.resolve first = .ok address) (alike : Account.resolve second = .ok address)
    (some_ : address ≠ 0) (s : Settings) (session : Session) :
    (place.fill first).carryOut s session = (place.fill second).carryOut s session := by
  have same : Account.resolve first = Account.resolve second := named.trans alike.symm
  have sameRecipient : Account.resolveRecipient first = Account.resolveRecipient second :=
    (Account.resolveRecipient_eq_ok_iff.mpr ⟨named, some_⟩).trans
      (Account.resolveRecipient_eq_ok_iff.mpr ⟨alike, some_⟩).symm
  cases place with
  | transferReceiver contract deployerKey amount =>
    simp only [fill, Command.carryOut, Action.queryTransfer, sameRecipient]
  | balanceHolder contract => simp only [fill, Command.carryOut, Action.balance, same]
  | allowanceOwner contract spender | allowanceSpender contract owner =>
    simp only [fill, Command.carryOut, Action.allowance, same]
  | approvedSpender contract ownerKey amount =>
    simp only [fill, Command.carryOut, Action.approve, sameRecipient]
  | movedFrom contract spenderKey recipient amount =>
    simp only [fill, Command.carryOut, Action.transferFrom, same]
  | movedTo contract spenderKey owner amount =>
    simp only [fill, Command.carryOut, Action.transferFrom, sameRecipient]

theorem run_fill (place : AccountPlace) (i : Invocation) (home account : String) :
    { i with command := place.fill account }.run home = (do
      let s ← i.settings home (← Shell.files)
      (place.fill account).online s) := by
  cases place <;> rfl

end AccountPlace

/-- A key and the address of its account say the same thing wherever an account is asked for: the
two runs make the same requests, print the same and end alike, whatever the node replies. -/
theorem Invocation.run_key_eq_address (i : Invocation) (place : AccountPlace) {key address : String}
    {credential : Credential} (asKey : Credential.read key = .ok credential)
    (asAddress : Account.parseAddress address = .ok credential.address)
    (some_ : credential.address ≠ 0) (home : String) (node : Node) (desk : Desk) :
    { i with command := place.fill key }.run home node desk =
      { i with command := place.fill address }.run home node desk := by
  have carriesOut := place.carryOut_congr (Account.resolve_of_key asKey)
    (Account.resolve_of_address asAddress) some_
  rw [place.run_fill, place.run_fill]
  simp only [Command.online, carriesOut]

def paddedKey : String := " 0x0000000000000000000000000000000000000000000000000000000000000001"

def capitalAddress : String := "7E5F4552091A69125D5DFCB7B8C2659029395BDF "

def sampleTransfer : AccountPlace :=
  .movedFrom "0x00000000000000000000000000000000000000c0" paddedKey
    "0x00000000000000000000000000000000000000d1" "1.5"

theorem Invocation.run_key_eq_address_padded :
    { sampleInvocation with command := sampleTransfer.fill paddedKey }.run "" sampleNode
        ⟨.idle, sampleFiles, []⟩ =
      { sampleInvocation with command := sampleTransfer.fill capitalAddress }.run "" sampleNode
        ⟨.idle, sampleFiles, []⟩ := by
  have asKey : Credential.read paddedKey = .ok sampleSigner := ok_of_toOption (by decide +kernel)
  refine sampleInvocation.run_key_eq_address sampleTransfer asKey ?_ ?_ "" sampleNode
    ⟨.idle, sampleFiles, []⟩
  · rw [sampleSigner_address]
    exact ok_of_toOption (by decide +kernel)
  · rw [sampleSigner_address]
    decide

end TokenClient
