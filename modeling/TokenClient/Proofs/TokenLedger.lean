import Mathlib.Algebra.BigOperators.Group.Finset.Piecewise
import Mathlib.Algebra.Order.BigOperators.Group.Finset
import TokenClient.Proofs.MethodInput
import TokenClient.Proofs.TokenDialogue

/-! A token as a ledger behind a node. The node's replies tell who holds what; a broadcast transfer
waits until the receipt of its transaction has been handed out, and takes effect with it. Nothing
else changes the ledger. -/
namespace TokenClient

open Token

/-- Who holds how many base units. A word can hold all of them together. -/
structure Ledger where
  balance : Address → Nat
  bounded : ∀ accounts : Finset Address, ∑ account ∈ accounts, balance account < Word.count

structure Transfer where
  payer : Address
  receiver : Address
  amount : Nat
  deriving DecidableEq

namespace Ledger

theorem balance_lt (ledger : Ledger) (account : Address) :
    ledger.balance account < Word.count := by
  simpa using ledger.bounded {account}

def moved (ledger : Ledger) (transfer : Transfer) : Address → Nat :=
  let debited := Function.update ledger.balance transfer.payer
    (ledger.balance transfer.payer - transfer.amount)
  Function.update debited transfer.receiver (debited transfer.receiver + transfer.amount)

theorem sum_update (balance : Address → Nat) {accounts : Finset Address} {account : Address}
    (member : account ∈ accounts) (units : Nat) :
    ∑ other ∈ accounts, Function.update balance account units other + balance account =
      ∑ other ∈ accounts, balance other + units := by
  rw [Finset.sum_update_of_mem member, ← Finset.sum_sdiff (Finset.singleton_subset_iff.mpr member),
    Finset.sum_singleton]
  omega

theorem sum_moved (ledger : Ledger) {transfer : Transfer} (accounts : Finset Address)
    (affordable : transfer.amount ≤ ledger.balance transfer.payer)
    (payer : transfer.payer ∈ accounts) (receiver : transfer.receiver ∈ accounts) :
    ∑ account ∈ accounts, ledger.moved transfer account =
      ∑ account ∈ accounts, ledger.balance account := by
  have debit := sum_update ledger.balance payer (ledger.balance transfer.payer - transfer.amount)
  have credit := sum_update
    (Function.update ledger.balance transfer.payer
      (ledger.balance transfer.payer - transfer.amount)) receiver
    (Function.update ledger.balance transfer.payer
      (ledger.balance transfer.payer - transfer.amount) transfer.receiver + transfer.amount)
  unfold moved
  omega

/-- The ledger after a transfer. One that the payer cannot afford changes nothing. -/
def apply (ledger : Ledger) (transfer : Transfer) : Ledger :=
  if affordable : transfer.amount ≤ ledger.balance transfer.payer then
    { balance := ledger.moved transfer
      bounded := fun accounts => by
        have whole := ledger.sum_moved (insert transfer.payer (insert transfer.receiver accounts))
          affordable (by simp) (by simp)
        have total := ledger.bounded (insert transfer.payer (insert transfer.receiver accounts))
        rw [← whole] at total
        refine Nat.lt_of_le_of_lt (Finset.sum_le_sum_of_subset ?_) total
        intro account member
        simp [member] }
  else ledger

theorem apply_balance {ledger : Ledger} {transfer : Transfer}
    (affordable : transfer.amount ≤ ledger.balance transfer.payer) :
    (ledger.apply transfer).balance = ledger.moved transfer := by
  rw [apply, dif_pos affordable]

theorem apply_of_ne {ledger : Ledger} (transfer : Transfer)
    (affordable : transfer.amount ≤ ledger.balance transfer.payer)
    (other : transfer.payer ≠ transfer.receiver) :
    ledger.balance transfer.payer =
        (ledger.apply transfer).balance transfer.payer + transfer.amount ∧
      (ledger.apply transfer).balance transfer.receiver =
        ledger.balance transfer.receiver + transfer.amount := by
  rw [apply_balance affordable]
  constructor
  · simp [moved, Function.update_of_ne other]
    omega
  · simp [moved, Function.update_of_ne other.symm]

theorem apply_of_eq {ledger : Ledger} (transfer : Transfer)
    (affordable : transfer.amount ≤ ledger.balance transfer.payer)
    (same : transfer.payer = transfer.receiver) :
    (ledger.apply transfer).balance transfer.payer = ledger.balance transfer.payer := by
  rw [apply_balance affordable]
  simp [moved, ← same]
  omega

/-- One account holds everything. -/
def single (holder : Address) (units : Nat) (fits : units < Word.count) : Ledger where
  balance account := if account = holder then units else 0
  bounded accounts := by
    rw [Finset.sum_ite_eq']
    split
    · exact fits
    · exact Nat.lt_of_le_of_lt (Nat.zero_le units) fits

end Ledger

/-- The ledger, and the transfers that have been broadcast under a hash, newest first. -/
structure Chain where
  ledger : Ledger
  pending : List (TxHash × Transfer)

/-- A token contract on the chain: where it is, whose transactions signatures make, and who holds
what at first. -/
structure Deployed where
  address : Address
  signerOf : Transaction → Secp256k1.Signature → Address
  opening : Ledger

namespace Deployed

variable (deployed : Deployed)

/-- The transfer of tokens that a broadcast is, if it is one. -/
def transfer? (raw : Bytes) : Option Transfer :=
  match Transaction.ofRaw raw with
  | none => none
  | some (t, signature) =>
    if t.destination = .account deployed.address then
      match Method.ofInput? t.input with
      | some (.transfer receiver amount) =>
        some ⟨deployed.signerOf t signature, receiver, amount.toNat⟩
      | _ => none
    else none

def step (chain : Chain) (exchange : Exchange) : Chain :=
  match exchange.call.request with
  | .sendRaw raw =>
    match exchange.reply.understood Json.hash?, deployed.transfer? raw with
    | .ok hash, some transfer => { chain with pending := (hash, transfer) :: chain.pending }
    | _, _ => chain
  | .receipt hash =>
    match exchange.reply.understood Receipt.answer?, chain.pending.lookup hash with
    | .ok (some receipt), some transfer =>
      if receipt.success then
        ⟨chain.ledger.apply transfer, chain.pending.filter (·.1 ≠ hash)⟩
      else chain
    | _, _ => chain
  | _ => chain

def replay (made : List Exchange) : Chain := made.foldl deployed.step ⟨deployed.opening, []⟩

/-- The ledger stands behind this node: a balance that is told is the one at the time, and a
transfer that is tried is said to succeed just where the payer can afford it. -/
structure Behind (node : Node) : Prop where
  balances : ∀ past url account data units,
    (node past ⟨url, .call none deployed.address (Method.balanceOf account).input⟩).reply.understood
      Json.bytes? = .ok data → Abi.word data = .ok units →
    units.toNat = (deployed.replay (node.exchanges [] past)).ledger.balance account
  trials : ∀ past url payer receiver amount data affordable,
    (node past ⟨url, .call (some payer) deployed.address
      (Method.transfer receiver amount).input⟩).reply.understood Json.bytes? = .ok data →
    Abi.flag data = .ok affordable →
    (affordable = true ↔
      amount.toNat ≤ (deployed.replay (node.exchanges [] past)).ledger.balance payer)

end Deployed

def Request.onlyAsks : Request → Bool
  | .sendRaw _ | .receipt _ => false
  | _ => true

namespace Deployed

variable {deployed : Deployed}

theorem transfer?_eq {raw : Bytes} {t : Transaction} {signature : Secp256k1.Signature}
    {payer receiver : Address} {amount : Word} (read : Transaction.ofRaw raw = some (t, signature))
    (target : t.destination = .account deployed.address)
    (method : Method.ofInput? t.input = some (.transfer receiver amount))
    (signed : deployed.signerOf t signature = payer) :
    deployed.transfer? raw = some ⟨payer, receiver, amount.toNat⟩ := by
  rw [transfer?, read]
  simp only [target, ↓reduceIte, method, signed]

theorem replay_append (made more : List Exchange) :
    deployed.replay (made ++ more) = more.foldl deployed.step (deployed.replay made) :=
  List.foldl_append

theorem step_of_onlyAsks {exchange : Exchange} (chain : Chain)
    (asks : exchange.call.request.onlyAsks) : deployed.step chain exchange = chain := by
  unfold step
  cases request : exchange.call.request <;> simp_all [Request.onlyAsks]

/-- What every exchange leaves as it is, all of them do. -/
theorem foldl_step_of_still {made : List Exchange} {chain : Chain}
    (still : ∀ exchange ∈ made, deployed.step chain exchange = chain) :
    made.foldl deployed.step chain = chain := by
  induction made with
  | nil => rfl
  | cons exchange rest ih =>
    rw [List.foldl_cons, still exchange (.head rest)]
    exact ih fun other member => still other (.tail exchange member)

theorem replay_of_onlyAsks {made more : List Exchange}
    (asks : ∀ exchange ∈ more, exchange.call.request.onlyAsks) :
    deployed.replay (made ++ more) = deployed.replay made := by
  rw [replay_append]
  exact foldl_step_of_still fun exchange member => step_of_onlyAsks _ (asks exchange member)

theorem step_sent {exchange : Exchange} {raw : Bytes} {hash : TxHash} {transfer : Transfer}
    (chain : Chain) (sent : exchange.call.request = .sendRaw raw)
    (accepted : exchange.reply.understood Json.hash? = .ok hash)
    (meant : deployed.transfer? raw = some transfer) :
    deployed.step chain exchange = { chain with pending := (hash, transfer) :: chain.pending } := by
  simp only [step, sent, accepted, meant]

theorem step_missing {exchange : Exchange} {hash : TxHash} (chain : Chain)
    (asked : exchange.call.request = .receipt hash)
    (missing : exchange.reply.understood Receipt.answer? = .ok none) :
    deployed.step chain exchange = chain := by
  simp only [step, asked, missing]

theorem step_included {exchange : Exchange} {hash : TxHash} {receipt : Receipt}
    {transfer : Transfer} {chain : Chain} (asked : exchange.call.request = .receipt hash)
    (included : exchange.reply.understood Receipt.answer? = .ok (some receipt))
    (success : receipt.success) (waiting : chain.pending.lookup hash = some transfer) :
    (deployed.step chain exchange).ledger = chain.ledger.apply transfer := by
  simp only [step, asked, included, waiting, success, ↓reduceIte]

end Deployed
end TokenClient
