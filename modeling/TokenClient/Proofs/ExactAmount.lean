import Mathlib.Algebra.Order.Field.Rat
import Mathlib.Tactic.FieldSimp
import Mathlib.Tactic.Ring
import TokenClient.Proofs.AmountGrammar

/-! Amounts as numbers. A decimal text has one rational value, and reading it in some decimals is
exact. -/
namespace TokenClient.Amount

/-- The value of a decimal text: digits, perhaps with a point among them. White space around them
does not count. -/
def Denotes (text : String) (value : ℚ) : Prop :=
  ∃ whole places : List Char,
    (Text.trimChars text.toList = whole ++ '.' :: places ∨
      Text.trimChars text.toList = whole ∧ places = []) ∧
    (∀ c ∈ whole ++ places, Decimal.isDigit c = true) ∧ whole ++ places ≠ [] ∧
    value = Decimal.value whole + Decimal.value places / 10 ^ places.length

theorem Denotes.unique {text : String} {first second : ℚ} (left : Denotes text first)
    (right : Denotes text second) : first = second := by
  obtain ⟨whole, places, spelled, digits, _, rfl⟩ := left
  obtain ⟨whole', places', spelled', digits', _, rfl⟩ := right
  rw [List.forall_mem_append] at digits digits'
  have plain := not_mem_of_digits digits.1
  have plain' := not_mem_of_digits digits'.1
  rcases spelled with spelled | ⟨spelled, rfl⟩ <;> rcases spelled' with spelled' | ⟨spelled', rfl⟩
  · rw [spelled] at spelled'
    obtain ⟨rfl, _, rfl⟩ := (List.append_cons_inj_of_notMem plain
      (not_mem_of_digits digits.2)).mp spelled'
    rfl
  · rw [← spelled', spelled] at plain'
    simp at plain'
  · rw [← spelled, spelled'] at plain
    simp at plain
  · rw [← spelled, ← spelled']

/-- Base units are the value times the base units of one whole token. -/
theorem scaled_value (whole places decimals length : Nat) (few : length ≤ decimals) :
    ((whole * 10 ^ decimals + places * 10 ^ (decimals - length) : Nat) : ℚ) =
      ((whole : ℚ) + places / 10 ^ length) * 10 ^ decimals := by
  obtain ⟨more, rfl⟩ := Nat.exists_eq_add_of_le few
  have shift : length + more - length = more := by omega
  rw [shift]
  push_cast
  rw [pow_add]
  field_simp

theorem parse_exact {text : String} {decimals : Nat} {amount : Amount}
    (parsed : parse text decimals = .ok amount) :
    amount.decimals = decimals ∧
      ∃ value, Denotes text value ∧ (amount.raw.toNat : ℚ) = value * 10 ^ decimals := by
  obtain ⟨_, whole, places, spells, nonempty, short, _, same, counted⟩ :=
    parse_eq_ok_iff.mp parsed
  refine ⟨same, _, ⟨whole, places, spells.shape, spells.digits, nonempty, rfl⟩, ?_⟩
  rw [counted, units, scaled_value _ _ _ _ short]

end TokenClient.Amount
