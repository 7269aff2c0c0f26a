import Mathlib.Data.List.DropRight
import TokenClient.Proofs.DecimalDigits
import TokenClient.Proofs.ExactAmount

/-! Amounts as texts. Every number with finitely many places has one canonical spelling; an amount
is shown in the canonical spelling of its value, and reading that gives the amount back. -/
namespace TokenClient

theorem Text.trimChars_eq_self {cs : List Char} (visible : ∀ c ∈ cs, isBlank c = false) :
    trimChars cs = cs := by
  have kept {cs : List Char} (visible : ∀ c ∈ cs, isBlank c = false) :
      cs.dropWhile isBlank = cs := by
    cases cs with
    | nil => rfl
    | cons c rest => exact List.dropWhile_cons_of_neg (by simp [visible c (.head rest)])
  have backwards : ∀ c ∈ cs.reverse, isBlank c = false := fun c member =>
    visible c (List.mem_reverse.mp member)
  rw [trimChars, kept visible, kept backwards, List.reverse_reverse]

theorem Text.isBlank_of_isDigit {c : Char} (digit : Decimal.isDigit c = true) :
    isBlank c = false := by
  have bounds := (Decimal.isDigit_iff c).mp digit
  simp [isBlank]
  omega

namespace Amount

/-- The spelling with these digits before and after the point; without places there is no point. -/
def joinPoint (whole places : List Char) : List Char :=
  if places = [] then whole else whole ++ '.' :: places

/-- Digits without superfluous zeros on either side of the point. -/
structure Plain (whole places : List Char) : Prop where
  leading : Decimal.Leading whole
  digits : ∀ c ∈ places, Decimal.isDigit c = true
  last : places.getLast? ≠ some '0'

/-- At least one digit before the point and none of them superfluous, no zero at the end of the
places, and no point without places. -/
def Canonical (text : String) : Prop :=
  ∃ whole places, text.toList = joinPoint whole places ∧ Plain whole places

theorem dropTrailingZeros_eq (cs : List Char) :
    dropTrailingZeros cs = cs.rdropWhile (· == '0') := rfl

theorem dropTrailingZeros_append (cs : List Char) :
    ∃ dropped, cs = dropTrailingZeros cs ++ List.replicate dropped '0' := by
  induction cs using List.reverseRecOn with
  | nil => exact ⟨0, rfl⟩
  | append_singleton cs c ih =>
    rw [dropTrailingZeros_eq]
    by_cases zero : c = '0'
    · obtain ⟨dropped, spelled⟩ := ih
      refine ⟨dropped + 1, ?_⟩
      rw [List.rdropWhile_concat_pos _ _ _ (by simp [zero]), List.replicate_succ',
        ← List.append_assoc, ← dropTrailingZeros_eq, ← spelled, zero]
    · refine ⟨0, ?_⟩
      rw [List.rdropWhile_concat_neg _ _ _ (by simp [zero])]
      simp

theorem getLast_dropTrailingZeros (cs : List Char) :
    (dropTrailingZeros cs).getLast? ≠ some '0' := by
  intro zero
  have nonempty : dropTrailingZeros cs ≠ [] := by
    intro empty
    simp [empty] at zero
  have kept := List.rdropWhile_last_not (· == '0') cs nonempty
  rw [List.getLast?_eq_some_getLast nonempty] at zero
  exact kept (beq_iff_eq.mpr (Option.some.inj zero))

theorem value_zeros (size : Nat) : Decimal.value (List.replicate size '0') = 0 := by
  induction size with
  | zero => rfl
  | succ size ih => rw [List.replicate_succ', Decimal.value_concat, ih]; rfl

theorem value_dropTrailingZeros (cs : List Char) :
    (dropTrailingZeros cs).length ≤ cs.length ∧
      Decimal.value (dropTrailingZeros cs) * 10 ^ (cs.length - (dropTrailingZeros cs).length) =
        Decimal.value cs := by
  obtain ⟨dropped, spelled⟩ := dropTrailingZeros_append cs
  have length := congrArg List.length spelled
  rw [List.length_append, List.length_replicate] at length
  have value := congrArg Decimal.value spelled
  rw [Decimal.value_append, value_zeros, List.length_replicate] at value
  have shift : cs.length - (dropTrailingZeros cs).length = dropped := by omega
  exact ⟨by omega, by rw [shift, value, Nat.add_zero]⟩

theorem dropTrailingZeros_padded {places : List Char} (last : places.getLast? ≠ some '0')
    (size : Nat) : dropTrailingZeros (places ++ List.replicate size '0') = places := by
  induction size with
  | zero =>
    rw [List.replicate_zero, List.append_nil]
    cases places using List.reverseRecOn with
    | nil => rfl
    | append_singleton places c =>
      refine List.rdropWhile_concat_neg _ _ _ ?_
      simpa using last
  | succ size ih =>
    rw [List.replicate_succ', ← List.append_assoc, dropTrailingZeros_eq,
      List.rdropWhile_concat_pos _ _ _ (by rfl), ← dropTrailingZeros_eq, ih]

/-- The places that are shown of a number of base units. -/
def shownPlaces (units decimals : Nat) : List Char :=
  dropTrailingZeros (Decimal.fixed decimals (units % 10 ^ decimals))

/-- The text for a number of base units, of any size. -/
def spell (units decimals : Nat) : List Char :=
  joinPoint (Decimal.digits (units / 10 ^ decimals)) (shownPlaces units decimals)

theorem plain_shown (units decimals : Nat) :
    Plain (Decimal.digits (units / 10 ^ decimals)) (shownPlaces units decimals) where
  leading := Decimal.leading_digits _
  digits c member := by
    obtain ⟨dropped, spelled⟩ := dropTrailingZeros_append
      (Decimal.fixed decimals (units % 10 ^ decimals))
    have fixed : c ∈ Decimal.fixed decimals (units % 10 ^ decimals) := by
      rw [spelled]
      exact List.mem_append_left _ member
    exact Decimal.isDigit_of_mem_fixed fixed
  last := getLast_dropTrailingZeros _

theorem value_shownPlaces (units decimals : Nat) :
    (shownPlaces units decimals).length ≤ decimals ∧
      Decimal.value (shownPlaces units decimals) *
        10 ^ (decimals - (shownPlaces units decimals).length) = units % 10 ^ decimals := by
  have shown := value_dropTrailingZeros (Decimal.fixed decimals (units % 10 ^ decimals))
  rwa [Decimal.length_fixed, Decimal.value_fixed, Nat.mod_mod] at shown

theorem shownPlaces_eq_nil_iff (units decimals : Nat) :
    shownPlaces units decimals = [] ↔ units % 10 ^ decimals = 0 := by
  have shown := (value_shownPlaces units decimals).2
  constructor
  · intro none
    rw [none] at shown
    rw [← shown]
    exact Nat.zero_mul _
  · intro zero
    have padded : Decimal.fixed decimals (units % 10 ^ decimals) =
        [] ++ List.replicate decimals '0' := by
      rw [zero]
      exact List.eq_replicate_iff.mpr ⟨Decimal.length_fixed _ _,
        Decimal.eq_zero_of_value (fun _ => Decimal.isDigit_of_mem_fixed) (by
          rw [Decimal.value_fixed, Nat.zero_mod])⟩
    rw [shownPlaces, padded]
    exact dropTrailingZeros_padded (by simp) decimals

/-- Where a word can hold one whole token, amounts are shown like numbers of any size. -/
theorem chars_eq_spell {a : Amount} (few : a.decimals ≤ 77) :
    a.chars = spell a.raw.toNat a.decimals := by
  unfold chars spell joinPoint
  simp only [scale_of_le few, shownPlaces_eq_nil_iff]
  rfl

theorem spell_of_plain {whole places : List Char} (plain : Plain whole places) {decimals : Nat}
    (few : places.length ≤ decimals) :
    spell (Decimal.value whole * 10 ^ decimals +
      Decimal.value places * 10 ^ (decimals - places.length)) decimals =
      joinPoint whole places := by
  have small : Decimal.value places * 10 ^ (decimals - places.length) < 10 ^ decimals := by
    calc Decimal.value places * 10 ^ (decimals - places.length)
        < 10 ^ places.length * 10 ^ (decimals - places.length) :=
          Nat.mul_lt_mul_of_pos_right (Decimal.value_lt plain.digits) (Nat.pow_pos (by decide))
      _ = 10 ^ decimals := by rw [← Nat.pow_add, Nat.add_sub_of_le few]
  have padded : Decimal.fixed decimals (Decimal.value places * 10 ^ (decimals - places.length)) =
      places ++ List.replicate (decimals - places.length) '0' := by
    have zeros : ∀ c ∈ List.replicate (decimals - places.length) '0',
        Decimal.isDigit c = true := fun c member => by
      rw [List.eq_of_mem_replicate member]
      rfl
    have spelled := Decimal.fixed_value (List.forall_mem_append.mpr ⟨plain.digits, zeros⟩)
    rwa [Decimal.value_append, value_zeros, List.length_append, List.length_replicate,
      Nat.add_sub_of_le few, Nat.add_zero] at spelled
  have front : (Decimal.value whole * 10 ^ decimals +
      Decimal.value places * 10 ^ (decimals - places.length)) / 10 ^ decimals =
      Decimal.value whole := by
    rw [Nat.mul_comm, Nat.mul_add_div (Nat.pow_pos (by decide)), Nat.div_eq_of_lt small,
      Nat.add_zero]
  have back : (Decimal.value whole * 10 ^ decimals +
      Decimal.value places * 10 ^ (decimals - places.length)) % 10 ^ decimals =
      Decimal.value places * 10 ^ (decimals - places.length) := by
    rw [Nat.mul_comm, Nat.mul_add_mod, Nat.mod_eq_of_lt small]
  rw [spell, shownPlaces, front, back, padded, dropTrailingZeros_padded plain.last,
    Decimal.digits_value plain.leading]

theorem Plain.all_digits {whole places : List Char} (plain : Plain whole places) :
    ∀ c ∈ whole ++ places, Decimal.isDigit c = true :=
  List.forall_mem_append.mpr ⟨plain.leading.digits, plain.digits⟩

theorem spells_joinPoint {whole places : List Char}
    (digits : ∀ c ∈ whole ++ places, Decimal.isDigit c = true) :
    Spells (joinPoint whole places) whole places := by
  refine ⟨?_, digits⟩
  unfold joinPoint
  split
  · exact .inr ⟨rfl, ‹_›⟩
  · exact .inl rfl

theorem Spells.visible {cs whole places : List Char} (spells : Spells cs whole places) :
    ∀ c ∈ cs, Text.isBlank c = false := by
  have visible : ∀ c ∈ whole ++ places, Text.isBlank c = false := fun c member =>
    Text.isBlank_of_isDigit (spells.digits c member)
  rw [List.forall_mem_append] at visible
  rcases spells.shape with rfl | ⟨rfl, rfl⟩
  · exact List.forall_mem_append.mpr ⟨visible.1, List.forall_mem_cons.mpr ⟨rfl, visible.2⟩⟩
  · exact visible.1

theorem Spells.trimChars_eq {cs whole places : List Char} (spells : Spells cs whole places) :
    Text.trimChars cs = cs := Text.trimChars_eq_self spells.visible

theorem denotes_of_plain {text : String} {whole places : List Char}
    (spelled : text.toList = joinPoint whole places) (plain : Plain whole places) :
    Denotes text (Decimal.value whole + Decimal.value places / 10 ^ places.length) := by
  refine ⟨whole, places, ?_, plain.all_digits, by simp [plain.leading.nonempty], rfl⟩
  rw [spelled, (spells_joinPoint plain.all_digits).trimChars_eq]
  exact (spells_joinPoint plain.all_digits).shape

/-- A number has one canonical spelling at most. Both spellings are what is shown of the same base
units, counted in as many decimals as the longer one has. -/
theorem Canonical.unique {first second : String} {value : ℚ} (left : Canonical first)
    (right : Canonical second) (leftValue : Denotes first value)
    (rightValue : Denotes second value) : first = second := by
  obtain ⟨whole, places, spelled, plain⟩ := left
  obtain ⟨whole', places', spelled', plain'⟩ := right
  have same := (denotes_of_plain spelled plain).unique leftValue
  have same' := (denotes_of_plain spelled' plain').unique rightValue
  have few : places.length ≤ max places.length places'.length := Nat.le_max_left _ _
  have few' : places'.length ≤ max places.length places'.length := Nat.le_max_right _ _
  generalize max places.length places'.length = decimals at few few'
  have units := scaled_value (Decimal.value whole) (Decimal.value places) decimals _ few
  have units' := scaled_value (Decimal.value whole') (Decimal.value places') decimals _ few'
  rw [same] at units
  rw [same', ← units] at units'
  have shown := spell_of_plain plain few
  rw [← Nat.cast_injective units', spell_of_plain plain' few', ← spelled, ← spelled'] at shown
  exact (String.toList_inj.mp shown).symm

theorem parse_text (raw : Word) {decimals : Nat} (few : decimals ≤ 77) :
    parse (text ⟨raw, decimals⟩) decimals = .ok ⟨raw, decimals⟩ := by
  have plain := plain_shown raw.toNat decimals
  have shown := value_shownPlaces raw.toNat decimals
  have whole : units (Decimal.digits (raw.toNat / 10 ^ decimals)) (shownPlaces raw.toNat decimals)
      decimals = raw.toNat := by
    rw [units, Decimal.value_digits, shown.2, Nat.div_add_mod']
  have spelled : Text.trimChars (text ⟨raw, decimals⟩).toList =
      joinPoint (Decimal.digits (raw.toNat / 10 ^ decimals)) (shownPlaces raw.toNat decimals) := by
    rw [text, String.toList_ofList, chars_eq_spell few, spell,
      (spells_joinPoint plain.all_digits).trimChars_eq]
  refine parse_eq_ok_iff.mpr ⟨few, _, _, ?_, by simp [plain.leading.nonempty], shown.1, ?_, rfl,
    whole.symm⟩
  · rw [spelled]
    exact spells_joinPoint plain.all_digits
  · rw [whole]
    exact raw.isLt

theorem text_visible (raw : Word) {decimals : Nat} (few : decimals ≤ 77) :
    ∀ c ∈ (text ⟨raw, decimals⟩).toList, Text.isBlank c = false := by
  rw [text, String.toList_ofList, chars_eq_spell few]
  exact (spells_joinPoint (plain_shown raw.toNat decimals).all_digits).visible

/-- An amount that was read is shown canonically, and as the number that the text denotes. -/
theorem text_of_parsed {given : String} {decimals : Nat} {a : Amount}
    (parsed : parse given decimals = .ok a) :
    Canonical a.text ∧ ∃ value, Denotes given value ∧ Denotes a.text value := by
  obtain ⟨rfl, value, denoted, units⟩ := parse_exact parsed
  have few := (parse_eq_ok_iff.mp parsed).1
  have plain := plain_shown a.raw.toNat a.decimals
  have shown := value_shownPlaces a.raw.toNat a.decimals
  have spelled : a.text.toList = joinPoint (Decimal.digits (a.raw.toNat / 10 ^ a.decimals))
      (shownPlaces a.raw.toNat a.decimals) := by
    rw [text, String.toList_ofList, chars_eq_spell few, spell]
  have denotes := denotes_of_plain spelled plain
  have scaled := scaled_value (Decimal.value (Decimal.digits (a.raw.toNat / 10 ^ a.decimals)))
    (Decimal.value (shownPlaces a.raw.toNat a.decimals)) a.decimals _ shown.1
  rw [Decimal.value_digits, shown.2, Nat.div_add_mod', units] at scaled
  have same := mul_right_cancel₀ (pow_ne_zero a.decimals (by norm_num : (10 : ℚ) ≠ 0)) scaled
  rw [Decimal.value_digits, ← same] at denotes
  exact ⟨⟨_, _, spelled, plain⟩, value, denoted, denotes⟩

/-- Showing and reading amounts are inverse to each other, up to the choice of a spelling: what is
shown is read exactly, and what was read is shown in the one canonical spelling of the number that
the text denotes. -/
theorem text_parse_inverse :
    (∀ (raw : Word) (decimals : Nat), decimals ≤ 77 →
      parse (text ⟨raw, decimals⟩) decimals = .ok ⟨raw, decimals⟩) ∧
    (∀ (given : String) (decimals : Nat) (a : Amount), parse given decimals = .ok a →
      ∃ value, Denotes given value ∧
        ∀ spelling, Canonical spelling ∧ Denotes spelling value ↔ spelling = a.text) ∧
    ∀ (first second : String) (decimals decimals' : Nat) (a b : Amount),
      parse first decimals = .ok a → parse second decimals' = .ok b →
      (a.text = b.text ↔ ∃ value, Denotes first value ∧ Denotes second value) := by
  refine ⟨fun raw decimals few => parse_text raw few, ?_, ?_⟩
  · intro given decimals a parsed
    obtain ⟨canonical, value, denoted, shown⟩ := text_of_parsed parsed
    refine ⟨value, denoted, fun spelling => ⟨fun other => ?_, ?_⟩⟩
    · exact other.1.unique canonical other.2 shown
    · rintro rfl
      exact ⟨canonical, shown⟩
  · intro first second decimals decimals' a b parsed parsed'
    obtain ⟨canonical, value, denoted, shown⟩ := text_of_parsed parsed
    obtain ⟨canonical', value', denoted', shown'⟩ := text_of_parsed parsed'
    constructor
    · intro alike
      rw [alike] at shown
      refine ⟨value, denoted, ?_⟩
      rwa [shown.unique shown']
    · rintro ⟨common, leftValue, rightValue⟩
      rw [leftValue.unique denoted] at rightValue
      rw [denoted'.unique rightValue] at shown'
      exact canonical.unique canonical' shown shown'

/-- The largest word in 77 decimals, and two spellings of seven and a half in different decimals. -/
theorem text_parse_inverse_padded :
    (77 ≤ 77 ∧ parse (text ⟨BitVec.allOnes 256, 77⟩) 77 = .ok ⟨BitVec.allOnes 256, 77⟩) ∧
    (parse " 007.50" 3 = .ok ⟨7500, 3⟩ ∧ ∃ value, Denotes " 007.50" value ∧
      ∀ spelling, Canonical spelling ∧ Denotes spelling value ↔ spelling = text ⟨7500, 3⟩) ∧
    parse "7.5" 1 = .ok ⟨75, 1⟩ ∧ (text ⟨7500, 3⟩ = text ⟨75, 1⟩ ↔
      ∃ value, Denotes " 007.50" value ∧ Denotes "7.5" value) := by
  have padded : parse " 007.50" 3 = .ok ⟨7500, 3⟩ := by decide +kernel
  have short : parse "7.5" 1 = .ok ⟨75, 1⟩ := by decide +kernel
  exact ⟨⟨by decide, text_parse_inverse.1 _ 77 (by decide)⟩,
    ⟨padded, text_parse_inverse.2.1 _ 3 _ padded⟩, short,
    text_parse_inverse.2.2 _ _ 3 1 _ _ padded short⟩

end Amount
end TokenClient
