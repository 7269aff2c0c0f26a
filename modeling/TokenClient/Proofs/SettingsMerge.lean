import Mathlib.Algebra.Ring.Nat
import TokenClient.Proofs.DocumentTables
import TokenClient.Proofs.FileStorage
import TokenClient.Proofs.SettingsDocument
import TokenClient.Proofs.SettingsMembers

/-! Settings from a document that holds some of them. Each one is taken from its own member, if that
is there, and else it is the default; what else the document holds does not count. -/
namespace TokenClient

namespace Settings

/-- One setting of those that a document can hold. -/
inductive Field where
  | rpcUrl
  | chainId
  | gasLimit
  | confirmationTimeout
  | pollInterval
  | transferAmount
  deriving DecidableEq, Repr

inductive Datum where
  | text (content : String)
  | number (n : Nat)
  deriving DecidableEq, Repr

/-- What the settings have there; there may be no chain. -/
def datum? (s : Settings) : Field → Option Datum
  | .rpcUrl => some (.text s.rpcUrl)
  | .chainId => s.chainId.map .number
  | .gasLimit => some (.number s.gasLimit)
  | .confirmationTimeout => some (.number s.confirmationTimeoutSecs)
  | .pollInterval => some (.number s.pollIntervalMs)
  | .transferAmount => some (.text s.transferAmount)

namespace Field

def table : Field → String
  | rpcUrl | chainId => "network"
  | gasLimit | confirmationTimeout | pollInterval => "tx"
  | transferAmount => "transfer"

def key : Field → String
  | rpcUrl => "rpc_url"
  | chainId => "chain_id"
  | gasLimit => "gas_limit"
  | confirmationTimeout => "confirmation_timeout_secs"
  | pollInterval => "poll_interval_ms"
  | transferAmount => "amount"

def isText : Field → Bool
  | rpcUrl | transferAmount => true
  | chainId | gasLimit | confirmationTimeout | pollInterval => false

/-- The value is of the setting's type, and this is what it says. -/
inductive Takes (field : Field) : Toml → Datum → Prop where
  | text : field.isText = true → Takes field (.text content) (.text content)
  | number {i : Int64} {n : Nat} : field.isText = false → i.toInt = n → n < 2 ^ 63 →
      Takes field (.integer i) (.number n)

def Fits (field : Field) (value : Toml) : Prop := ∃ datum, field.Takes value datum

end Field

variable {document : List (String × Toml)} {s : Settings} {field : Field} {value : Toml}

theorem takes_number_iff {n : Nat} (number : field.isText = false) :
    field.Takes value (.number n) ↔ natural? value = some n := by
  constructor
  · rintro (_ | @⟨i, _, _, same, _⟩)
    have positive : 0 ≤ i := Int64.le_iff_toInt_le.mpr (by simp [same])
    rw [natural?, if_pos positive, same, Int.toNat_natCast]
  · intro natural
    have low := natural_le natural
    cases value with
    | integer i =>
      obtain ⟨positive, ⟨⟩⟩ := Option.ite_none_right_eq_some.mp natural
      have positive := Int64.le_iff_toInt_le.mp positive
      refine .number number ?_ (Nat.lt_of_le_of_lt low (by decide))
      exact (Int.toNat_of_nonneg positive).symm
    | _ => contradiction

theorem Stands.imp {value? : Option Toml} {said said' : Toml → Prop} {otherwise otherwise' : Prop}
    (stands : Stands value? said otherwise) (implied : ∀ value, said value → said' value)
    (defaults : otherwise → otherwise') : Stands value? said' otherwise' := by
  cases value? with
  | none => exact defaults stands
  | some value => exact implied value stands

theorem Stands.text {value? : Option Toml} {said usual : String} (isText : field.isText = true)
    (stands : Stands value? (· = .text said) (said = usual)) :
    Stands value? (fun value => ∃ datum, field.Takes value datum ∧ some (.text said) = some datum)
      (some (Datum.text said) = some (.text usual)) := by
  refine stands.imp ?_ fun same => congrArg (some ∘ Datum.text) same
  rintro _ rfl
  exact ⟨_, .text isText, rfl⟩

theorem Stands.number {value? : Option Toml} {said usual : α} {of : Nat → α}
    (read : α → Option Datum) (number : field.isText = false)
    (reads : ∀ n, read (of n) = some (.number n))
    (stands : Stands value? (fun value => ∃ n, natural? value = some n ∧ said = of n)
      (said = usual)) :
    Stands value? (fun value => ∃ datum, field.Takes value datum ∧ read said = some datum)
      (read said = read usual) := by
  refine stands.imp ?_ (congrArg read)
  rintro value ⟨n, natural, rfl⟩
  exact ⟨.number n, (takes_number_iff number).mpr natural, reads n⟩

/-- What is known of each setting, for all of them at once. -/
theorem Says.stands (told : Says document s) (field : Field) :
    Stands (member? document field.table field.key)
      (fun value => ∃ datum, field.Takes value datum ∧ s.datum? field = some datum)
      (s.datum? field = ({} : Settings).datum? field) := by
  cases field with
  | rpcUrl => exact told.rpcUrl.text rfl
  | chainId => exact told.chainId.number (Option.map .number) rfl fun _ => rfl
  | gasLimit => exact told.gasLimit.number (some ∘ .number) rfl fun _ => rfl
  | confirmationTimeout =>
    exact told.confirmationTimeoutSecs.number (some ∘ .number) rfl fun _ => rfl
  | pollInterval => exact told.pollIntervalMs.number (some ∘ .number) rfl fun _ => rfl
  | transferAmount => exact told.transferAmount.text rfl

section Loading

variable {files : Storage} {path text : String}

end Loading

end Settings
end TokenClient
