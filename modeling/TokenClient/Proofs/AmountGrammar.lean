import Mathlib.Algebra.Ring.Nat
import TokenClient.Amount
import TokenClient.Proofs.OrderedChecks

/-! Which texts are amounts. A text is read just where it meets six requirements, and then as the
exact number that its digits spell; any other text is refused for the first one that it misses. -/
namespace TokenClient

namespace Amount

/-- Digits, and perhaps a point behind them and more digits behind the point. -/
structure Spells (cs whole places : List Char) : Prop where
  shape : cs = whole ++ '.' :: places ∨ cs = whole ∧ places = []
  digits : ∀ c ∈ whole ++ places, Decimal.isDigit c = true

/-- The base units that these digits stand for. -/
def units (whole places : List Char) (decimals : Nat) : Nat :=
  Decimal.value whole * 10 ^ decimals + Decimal.value places * 10 ^ (decimals - places.length)

/-- What a text must meet to be read, in the order in which it is looked at, each with the fault
of a text that meets all before it and not this. -/
def requirements (cs : List Char) (decimals : Nat) : List (Prop × AmountFault) :=
  [(decimals ≤ 77, .decimalsOverflow decimals),
    (cs ≠ [] ∧ cs ≠ ['.'], .empty),
    (∃ whole places, Spells cs whole places, .notDecimal (String.ofList cs)),
    (∀ whole places, Spells cs whole places → places.length ≤ decimals,
      .tooManyPlaces (String.ofList cs) decimals),
    (∀ whole places, Spells cs whole places → Decimal.value whole < 2 ^ 256, .wholeOverflow),
    (∀ whole places, Spells cs whole places → units whole places decimals < 2 ^ 256,
      .overflow (String.ofList cs))]

/-- The amount is what the text spells, in these decimals. -/
def Counts (cs : List Char) (decimals : Nat) (a : Amount) : Prop :=
  a.decimals = decimals ∧
    ∀ whole places, Spells cs whole places → a.raw.toNat = units whole places decimals

variable {cs whole places : List Char} {decimals : Nat}

theorem not_mem_of_digits {cs : List Char} (digits : ∀ c ∈ cs, Decimal.isDigit c = true) :
    '.' ∉ cs := by
  intro member
  have digit := digits '.' member
  contradiction

theorem splitPoint_spec (cs : List Char) :
    cs = (splitPoint cs).1 ++ '.' :: (splitPoint cs).2 ∨
      cs = (splitPoint cs).1 ∧ (splitPoint cs).2 = [] := by
  have joined := List.takeWhile_append_dropWhile (p := (· != '.')) (l := cs)
  unfold splitPoint
  cases rest : cs.dropWhile (· != '.') with
  | nil =>
    rw [rest, List.append_nil] at joined
    exact .inr ⟨joined.symm, rfl⟩
  | cons point places =>
    have isPoint : point = '.' := by
      have := List.head_dropWhile_not (· != '.') (l := cs) (by simp [rest])
      simpa [rest] using this
    subst isPoint
    rw [rest] at joined
    exact .inl joined.symm

theorem Counts.unique {a b : Amount} (counts : Counts cs decimals a)
    (again : Counts cs decimals b) (spells : Spells cs whole places) : a = b := by
  have raw : a.raw = b.raw := BitVec.eq_of_toNat_eq
    ((counts.2 _ _ spells).trans (again.2 _ _ spells).symm)
  have decimals : a.decimals = b.decimals := counts.1.trans again.1.symm
  cases a
  cases b
  cases raw
  cases decimals
  rfl

theorem Spells.splitPoint_eq (spells : Spells cs whole places) :
    splitPoint cs = (whole, places) := by
  have plain := not_mem_of_digits (List.forall_mem_append.mp spells.digits).1
  have before : ∀ c ∈ whole, (c != '.') = true := by
    intro c member
    rw [bne_iff_ne]
    rintro rfl
    exact plain member
  rcases spells.shape with rfl | ⟨rfl, rfl⟩
  · rw [splitPoint, List.takeWhile_append_of_pos before, List.dropWhile_append_of_pos before]
    simp
  · rw [splitPoint, List.takeWhile_eq_self_iff.mpr before, List.dropWhile_eq_nil_iff.mpr before]
    rfl

theorem Spells.forall_iff (spells : Spells cs whole places) {holds : List Char → List Char → Prop} :
    (∀ whole places, Spells cs whole places → holds whole places) ↔ holds whole places := by
  refine ⟨fun all => all whole places spells, fun one whole' places' spells' => ?_⟩
  cases spells.splitPoint_eq.symm.trans spells'.splitPoint_eq
  exact one

theorem spells_splitPoint_iff :
    (∃ whole places, Spells cs whole places) ↔
      ∀ c ∈ (splitPoint cs).1 ++ (splitPoint cs).2, Decimal.isDigit c = true := by
  constructor
  · rintro ⟨whole, places, spells⟩
    rw [spells.splitPoint_eq]
    exact spells.digits
  · exact fun digits => ⟨_, _, splitPoint_spec cs, digits⟩

theorem splitPoint_empty_iff :
    (splitPoint cs).1 = [] ∧ (splitPoint cs).2 = [] ↔ ¬ (cs ≠ [] ∧ cs ≠ ['.']) := by
  constructor
  · rintro ⟨before, after⟩ ⟨nonempty, noPoint⟩
    rcases splitPoint_spec cs with whole | ⟨whole, _⟩ <;> rw [before] at whole
    · rw [after] at whole
      exact noPoint whole
    · exact nonempty whole
  · intro neither
    by_cases empty : cs = []
    · rw [empty]
      exact ⟨rfl, rfl⟩
    · have point : cs = ['.'] := by simpa [empty] using neither
      rw [point]
      exact ⟨rfl, rfl⟩

theorem scale_of_le (few : decimals ≤ 77) :
    scale decimals = some (10 ^ decimals) := by
  have room : 10 ^ decimals < Word.count :=
    Nat.lt_of_le_of_lt (Nat.pow_le_pow_right (by decide) few) (by decide)
  exact if_pos room

theorem scale_eq_none (many : 77 < decimals) : scale decimals = none := by
  have grown : 10 ^ 78 ≤ 10 ^ decimals := Nat.pow_le_pow_right (by decide) many
  have count : Word.count < 10 ^ 78 := by decide
  exact if_neg (Nat.not_lt.mpr (Nat.le_trans (Nat.le_of_lt count) grown))

theorem value_le_units (whole places : List Char) (decimals : Nat) :
    Decimal.value whole ≤ units whole places decimals := by
  have grown := Nat.le_mul_of_pos_right (Decimal.value whole)
    (Nat.pow_pos (by decide) : 0 < 10 ^ decimals)
  exact Nat.le_trans grown (Nat.le_add_right _ _)

/-- The requirements together: a number that is spelled, and that fits. -/
theorem requirements_met_iff :
    (∀ entry ∈ requirements cs decimals, entry.1) ↔
      decimals ≤ 77 ∧ ∃ whole places, Spells cs whole places ∧ whole ++ places ≠ [] ∧
        places.length ≤ decimals ∧ units whole places decimals < 2 ^ 256 := by
  have nonempty_iff {whole places : List Char} (spells : Spells cs whole places) :
      (cs ≠ [] ∧ cs ≠ ['.']) ↔ whole ++ places ≠ [] := by
    have empty : (splitPoint cs).1 = [] ∧ (splitPoint cs).2 = [] ↔ ¬ (cs ≠ [] ∧ cs ≠ ['.']) :=
      splitPoint_empty_iff
    rw [spells.splitPoint_eq, ← List.append_eq_nil_iff] at empty
    exact (not_iff_comm.mp empty.symm).symm
  simp only [requirements, List.forall_mem_cons]
  constructor
  · rintro ⟨few, something, ⟨whole, places, spells⟩, short, _, small, _⟩
    exact ⟨few, whole, places, spells, (nonempty_iff spells).mp something,
      spells.forall_iff.mp short, spells.forall_iff.mp small⟩
  · rintro ⟨few, whole, places, spells, nonempty, short, small⟩
    have wholeSmall := Nat.lt_of_le_of_lt (value_le_units whole places decimals) small
    exact ⟨few, (nonempty_iff spells).mpr nonempty, ⟨whole, places, spells⟩,
      spells.forall_iff.mpr short, spells.forall_iff.mpr wholeSmall, spells.forall_iff.mpr small,
      nofun⟩

theorem parse_judged (text : String) (decimals : Nat) :
    Judged (requirements (Text.trimChars text.toList) decimals)
      (Counts (Text.trimChars text.toList) decimals) (parse text decimals) := by
  unfold parse
  generalize Text.trimChars text.toList = cs
  by_cases few : decimals ≤ 77
  · simp only [scale_of_le few]
    refine .met few (.guard splitPoint_empty_iff fun _ => .guard ?_ ?_)
    · rw [spells_splitPoint_iff, List.all_eq_true]
    rintro ⟨whole, places, spells⟩
    have count : Word.count = 2 ^ 256 := rfl
    simp only [spells.splitPoint_eq, ← ite_not (_ < Word.count)]
    refine .guard ?_ fun _ => .guard ?_ fun _ => .guard ?_ fun small => ?_
    · rw [spells.forall_iff, Nat.not_le]
    · rw [spells.forall_iff, Nat.not_lt, count]
    · rw [spells.forall_iff]
      rfl
    · refine ⟨nofun, rfl, spells.forall_iff.mpr ?_⟩
      exact Nat.mod_eq_of_lt (spells.forall_iff.mp small)
  · simp only [scale_eq_none (Nat.lt_of_not_le few)]
    exact FirstUnmet.here few

theorem parse_eq_ok_iff {text : String} {a : Amount} :
    parse text decimals = .ok a ↔ decimals ≤ 77 ∧ ∃ whole places,
      Spells (Text.trimChars text.toList) whole places ∧ whole ++ places ≠ [] ∧
      places.length ≤ decimals ∧ units whole places decimals < 2 ^ 256 ∧
      a.decimals = decimals ∧ a.raw.toNat = units whole places decimals := by
  rw [(parse_judged text decimals).ok_iff fun met b counts again => ?_, requirements_met_iff]
  swap
  · obtain ⟨_, whole, places, spells, _⟩ := requirements_met_iff.mp met
    exact counts.unique again spells
  constructor
  · rintro ⟨⟨few, whole, places, spells, nonempty, short, small⟩, same, counted⟩
    exact ⟨few, whole, places, spells, nonempty, short, small, same, counted _ _ spells⟩
  · rintro ⟨few, whole, places, spells, nonempty, short, small, same, counted⟩
    exact ⟨⟨few, whole, places, spells, nonempty, short, small⟩, same,
      spells.forall_iff.mpr counted⟩

/-- Reading is exact and refuses for cause. With the white space at both ends dropped, the texts
that are read are those of digits, perhaps with a point among them, whose number of base units is
whole and fits a word, and what is read is that number; any other text is refused for the first
requirement that it does not meet. -/
theorem parse_grammar (text : String) (decimals : Nat) :
    ∃ cs, (∀ kept, Text.Trimmed text.toList kept ↔ kept = cs) ∧
      (∀ a, parse text decimals = .ok a ↔ decimals ≤ 77 ∧ ∃ whole places,
        Spells cs whole places ∧ whole ++ places ≠ [] ∧ places.length ≤ decimals ∧
        units whole places decimals < 2 ^ 256 ∧
        a.decimals = decimals ∧ a.raw.toNat = units whole places decimals) ∧
      ∀ fault, parse text decimals = .error fault ↔
        FirstUnmet (requirements cs decimals) fault :=
  ⟨Text.trimChars text.toList, fun _ => Text.trimmed_iff, fun _ => parse_eq_ok_iff,
    fun _ => (parse_judged text decimals).error_iff⟩

/-- The decimals are looked at before the text, and its characters before their number. -/
example : parse " x" 78 = .error (.decimalsOverflow 78) ∧
    parse " 1.x0" 1 = .error (.notDecimal "1.x0") := by decide +kernel

end Amount
end TokenClient
