import Mathlib.Algebra.Ring.Nat
import TokenClient.Credential
import TokenClient.Proofs.FileStorage
import TokenClient.Proofs.OrderedChecks

/-! Hexadecimal digits in texts. What reads them sees bytes; it finds digits just where the text
has the sixteen digits in either case, and the bytes that it gives back spell the same number. -/
namespace TokenClient

namespace Bytes

theorem ofString_chars (cs : List Char) :
    ofString (String.ofList cs) = cs.flatMap String.utf8EncodeChar := by
  rw [ofString, ByteArray.toList, toList_loop]
  simp [List.utf8Encode]

theorem ofString_ofList {cs : List Char} (narrow : ∀ c ∈ cs, c.utf8Size = 1) :
    ofString (String.ofList cs) = cs.map (·.val.toUInt8) := by
  rw [ofString_chars]
  induction cs with
  | nil => rfl
  | cons c rest ih =>
    rw [List.flatMap_cons, String.utf8EncodeChar_eq_singleton (narrow c (.head rest)),
      ih fun c member => narrow c (.tail _ member)]
    rfl

end Bytes

namespace Hex

def alphabet : List Char :=
  ['0', '1', '2', '3', '4', '5', '6', '7', '8', '9', 'a', 'b', 'c', 'd', 'e', 'f']

/-- A digit in either case. -/
def IsDigit (c : Char) : Prop := c.toLower ∈ alphabet

instance : DecidablePred IsDigit := fun c => inferInstanceAs (Decidable (c.toLower ∈ alphabet))

/-- The place of a digit among the sixteen. -/
def worth (c : Char) : Nat := alphabet.idxOf c.toLower

/-- The number that digits spell, the most significant first. -/
def number (digits : List Char) : Nat := digits.foldl (fun n c => 16 * n + worth c) 0

theorem worth_lt {c : Char} (digit : IsDigit c) : worth c < 16 := List.idxOf_lt_length_of_mem digit

theorem number_concat (digits : List Char) (c : Char) :
    number (digits ++ [c]) = 16 * number digits + worth c := by
  rw [number, List.foldl_append]
  rfl

theorem number_lt {digits : List Char} (all : ∀ c ∈ digits, IsDigit c) :
    number digits < 16 ^ digits.length := by
  induction digits using List.reverseRecOn with
  | nil => decide
  | append_singleton digits c ih =>
    rw [List.forall_mem_append, List.forall_mem_singleton] at all
    have front := ih all.1
    have last := worth_lt all.2
    rw [number_concat, List.length_append, List.length_singleton, Nat.pow_succ]
    omega

/-- So many digits, in either case, for this number. -/
structure Spells (digits : List Char) (size n : Nat) : Prop where
  count : digits.length = size
  all : ∀ c ∈ digits, IsDigit c
  value : number digits = n

theorem Spells.recased {digits others : List Char} {size n : Nat} (spells : Spells digits size n)
    (alike : others.map Char.toLower = digits.map Char.toLower) : Spells others size n := by
  have digits_iff (cs : List Char) :
      (∀ c ∈ cs, IsDigit c) ↔ ∀ c ∈ cs.map Char.toLower, c ∈ alphabet := by
    rw [List.forall_mem_map]
    rfl
  have number_eq (cs : List Char) : number cs =
      (cs.map Char.toLower).foldl (fun n c => 16 * n + alphabet.idxOf c) 0 := by
    rw [List.foldl_map]
    rfl
  refine ⟨?_, ?_, ?_⟩
  · rw [← spells.count, ← List.length_map (f := Char.toLower), alike, List.length_map]
  · rw [digits_iff, alike, ← digits_iff]
    exact spells.all
  · rw [number_eq, alike, ← number_eq]
    exact spells.value

section Fixed

variable {size n : Nat} {c : Char}

theorem digit_spec (small : n < 16) : digit n ∈ alphabet ∧ worth (digit n) = n := by
  have all : ∀ n < 16, digit n ∈ alphabet ∧ worth (digit n) = n := by decide
  exact all n small

theorem toLower_of_mem (member : c ∈ alphabet) : c.toLower = c ∧ c.toUpper.toLower = c := by
  have all : alphabet.all (fun c => c.toLower = c ∧ c.toUpper.toLower = c) = true := by decide
  exact of_decide_eq_true (List.all_eq_true.mp all c member)

theorem mem_fixed (member : c ∈ fixed size n) : c ∈ alphabet := by
  induction size generalizing n with
  | zero => contradiction
  | succ size ih =>
    rcases List.mem_append.mp member with front | last
    · exact ih front
    · rw [List.mem_singleton.mp last]
      exact (digit_spec (Nat.mod_lt n (by decide))).1

theorem number_fixed (size n : Nat) : number (fixed size n) = n % 16 ^ size := by
  induction size generalizing n with
  | zero => simp [fixed, number, Nat.mod_one]
  | succ size ih =>
    rw [fixed, number_concat, ih, (digit_spec (Nat.mod_lt n (by decide))).2, Nat.pow_succ',
      Nat.mod_mul]
    omega

theorem spells_fixed (small : n < 16 ^ size) : Spells (fixed size n) size n where
  count := length_fixed size n
  all c member := by
    have lower := mem_fixed member
    rw [IsDigit, (toLower_of_mem lower).1]
    exact lower
  value := by rw [number_fixed, Nat.mod_eq_of_lt small]

end Fixed

/-- A byte as the character of that number. -/
def glyph (byte : UInt8) : Char := Char.ofNat byte.toNat

theorem value?_eq (byte : UInt8) :
    value? byte = if IsDigit (glyph byte) then some (worth (glyph byte)) else none := by
  have all : ∀ n < 256, value? (UInt8.ofNat n) =
      if IsDigit (Char.ofNat n) then some (worth (Char.ofNat n)) else none := by decide +kernel
  have here := all byte.toNat byte.toNat_lt
  rwa [UInt8.ofNat_toNat] at here

theorem value?_eq_some {byte : UInt8} {n : Nat} :
    value? byte = some n ↔ IsDigit (glyph byte) ∧ worth (glyph byte) = n := by
  rw [value?_eq, Option.ite_none_right_eq_some, Option.some.injEq]

theorem value?_eq_none {byte : UInt8} : value? byte = none ↔ ¬ IsDigit (glyph byte) := by
  simp [value?_eq]

/-- Byte for byte a digit is required, each in its place. -/
def digitChecks (position : Nat) (body : Bytes) : List (Prop × Fault) :=
  (body.zipIdx position).map fun (byte, place) => (IsDigit (glyph byte), .notADigit byte place)

theorem digitChecks_cons (position : Nat) (byte : UInt8) (body : Bytes) :
    digitChecks position (byte :: body) =
      (IsDigit (glyph byte), .notADigit byte position) :: digitChecks (position + 1) body := rfl

/-- The bytes behind a number of digits twice as large. -/
structure Paired (body bytes : Bytes) : Prop where
  half : body.length = 2 * bytes.length
  same : ∀ n, bytes.foldl (fun n byte => 256 * n + byte.toNat) n =
    (body.map glyph).foldl (fun n c => 16 * n + worth c) n

theorem Paired.cons {high low : UInt8} {body bytes : Bytes} (paired : Paired body bytes)
    (isHigh : IsDigit (glyph high)) (isLow : IsDigit (glyph low)) :
    Paired (high :: low :: body)
      (UInt8.ofNat (16 * worth (glyph high) + worth (glyph low)) :: bytes) := by
  refine ⟨by simp [paired.half]; omega, fun n => ?_⟩
  have small : 16 * worth (glyph high) + worth (glyph low) < 256 := by
    have := worth_lt isHigh
    have := worth_lt isLow
    omega
  have joined : 256 * n + (UInt8.ofNat (16 * worth (glyph high) + worth (glyph low))).toNat =
      16 * (16 * n + worth (glyph high)) + worth (glyph low) := by
    rw [UInt8.toNat_ofNat', Nat.mod_eq_of_lt small]
    omega
  rw [List.foldl_cons, joined, paired.same]
  rfl

theorem pairs_judged (position : Nat) {body : Bytes} (even : body.length % 2 = 0) :
    Judged (digitChecks position body) (Paired body) (pairs position body) := by
  fun_induction pairs position body with
  | case1 position high low rest a b readLow readHigh ih =>
    obtain ⟨isHigh, rfl⟩ := value?_eq_some.mp readHigh
    obtain ⟨isLow, rfl⟩ := value?_eq_some.mp readLow
    have later := ih (by rw [List.length_cons, List.length_cons] at even; omega)
    rw [digitChecks_cons, digitChecks_cons]
    exact .met isHigh (.met isLow (later.map fun bytes paired => paired.cons isHigh isLow))
  | case2 position high low rest spoilt =>
    rw [digitChecks_cons]
    exact FirstUnmet.here (value?_eq_none.mp spoilt)
  | case3 position high low rest a spoilt readHigh =>
    rw [digitChecks_cons, digitChecks_cons]
    exact .later (value?_eq_some.mp readHigh).1 (.here (value?_eq_none.mp spoilt))
  | case4 | case5 => simp at even
  | case6 => exact ⟨List.forall_mem_nil _, rfl, fun _ => rfl⟩

theorem decode_judged (body : Bytes) :
    Judged ((body.length % 2 = 0, .oddLength) :: digitChecks 0 body) (Paired body)
      (decode body) :=
  .guard Nat.mod_two_ne_zero.symm fun even => pairs_judged 0 even

theorem decodeFixed_judged (size : Nat) (body : Bytes) :
    Judged ((body.length % 2 = 0, .oddLength) :: (body.length = 2 * size, .wrongLength) ::
      digitChecks 0 body) (Paired body) (decodeFixed size body) :=
  .guard Nat.mod_two_ne_zero.symm fun even => .guard Iff.rfl fun _ => pairs_judged 0 even

theorem digitChecks_met_iff (position : Nat) (body : Bytes) :
    (∀ entry ∈ digitChecks position body, entry.1) ↔ ∀ byte ∈ body, IsDigit (glyph byte) := by
  induction body generalizing position with
  | nil => exact iff_of_true nofun nofun
  | cons byte body ih => rw [digitChecks_cons, List.forall_mem_cons, List.forall_mem_cons, ih]

section Characters

variable {c : Char} {cs : List Char}

theorem IsDigit.toNat_lt (digit : IsDigit c) : c.toNat < 128 := by
  have low : ∀ d ∈ alphabet, d.toNat < 128 := by simp [alphabet]
  by_cases capital : c.val ≥ 'A'.val ∧ c.val ≤ 'Z'.val
  · exact Nat.lt_of_le_of_lt (UInt32.le_iff_toNat_le.mp capital.2) (by decide)
  · have same : c.toLower = c := dif_neg capital
    rw [IsDigit, same] at digit
    exact low c digit

theorem toNat_glyph (byte : UInt8) : (glyph byte).toNat = byte.toNat := by
  have valid : byte.toNat.isValidChar := .inl (Nat.lt_trans byte.toNat_lt (by decide))
  rw [glyph, Char.ofNat, dif_pos valid]
  rfl

theorem utf8EncodeChar_of_lt (low : c.toNat < 128) :
    String.utf8EncodeChar c = [c.val.toUInt8] ∧ glyph c.val.toUInt8 = c := by
  have same : c.val.toUInt8.toNat = c.toNat := by
    rw [UInt32.toNat_toUInt8]
    exact Nat.mod_eq_of_lt (Nat.lt_trans low (by decide))
  refine ⟨if_pos (Nat.le_of_lt_succ low), ?_⟩
  rw [glyph, same, Char.ofNat_toNat]

/-- A character beyond the first 128 is spelled in bytes beyond them. -/
theorem le_of_mem_utf8EncodeChar (high : 128 ≤ c.toNat) :
    ∀ byte ∈ String.utf8EncodeChar c, 128 ≤ byte.toNat := by
  have beyond (n : Nat) (small : n < 256) (large : 128 ≤ n) : 128 ≤ (UInt8.ofNat n).toNat := by
    rwa [UInt8.toNat_ofNat', Nat.mod_eq_of_lt small]
  have long : ¬ c.val.toNat ≤ 127 := Nat.not_le.mpr high
  simp only [String.utf8EncodeChar, if_neg long]
  split
  · simp only [List.forall_mem_cons]
    exact ⟨beyond _ (by omega) (by omega), beyond _ (by omega) (by omega), nofun⟩
  · split <;> simp only [List.forall_mem_cons]
    · exact ⟨beyond _ (by omega) (by omega), beyond _ (by omega) (by omega),
        beyond _ (by omega) (by omega), nofun⟩
    · exact ⟨beyond _ (by omega) (by omega), beyond _ (by omega) (by omega),
        beyond _ (by omega) (by omega), beyond _ (by omega) (by omega), nofun⟩

theorem forall_glyph_iff :
    (∀ byte ∈ String.utf8EncodeChar c, IsDigit (glyph byte)) ↔ IsDigit c := by
  by_cases low : c.toNat < 128
  · obtain ⟨single, same⟩ := utf8EncodeChar_of_lt low
    rw [single, List.forall_mem_singleton, same]
  · obtain ⟨byte, member⟩ := List.exists_mem_of_ne_nil _ (String.utf8EncodeChar_ne_nil (c := c))
    have beyond := le_of_mem_utf8EncodeChar (Nat.le_of_not_lt low) byte member
    refine iff_of_false (fun all => ?_) fun digit => low digit.toNat_lt
    have below := (all byte member).toNat_lt
    rw [toNat_glyph] at below
    omega

theorem digits_ofString_iff :
    (∀ byte ∈ Bytes.ofString (String.ofList cs), IsDigit (glyph byte)) ↔ ∀ c ∈ cs, IsDigit c := by
  rw [Bytes.ofString_chars]
  simp only [List.mem_flatMap, forall_exists_index, and_imp]
  constructor
  · exact fun all c member => forall_glyph_iff.mp fun byte => all byte c member
  · exact fun all byte c member => forall_glyph_iff.mpr (all c member) byte

theorem map_glyph_ofString (digits : ∀ c ∈ cs, IsDigit c) :
    (Bytes.ofString (String.ofList cs)).map glyph = cs := by
  rw [Bytes.ofString_chars]
  induction cs with
  | nil => rfl
  | cons c cs ih =>
    rw [List.forall_mem_cons] at digits
    obtain ⟨single, same⟩ := utf8EncodeChar_of_lt digits.1.toNat_lt
    rw [List.flatMap_cons, List.map_append, ih digits.2, single, List.map_singleton, same]
    rfl

theorem spells_ofString_iff {size n : Nat} :
    ((Bytes.ofString (String.ofList cs)).length = size ∧
      (∀ byte ∈ Bytes.ofString (String.ofList cs), IsDigit (glyph byte)) ∧
      number ((Bytes.ofString (String.ofList cs)).map glyph) = n) ↔ Spells cs size n := by
  constructor
  · rintro ⟨count, all, value⟩
    have digits := digits_ofString_iff.mp all
    rw [← List.length_map (f := glyph), map_glyph_ofString digits] at count
    rw [map_glyph_ofString digits] at value
    exact ⟨count, digits, value⟩
  · rintro ⟨count, digits, value⟩
    rw [← List.length_map (f := glyph), map_glyph_ofString digits]
    exact ⟨count, digits_ofString_iff.mpr digits, value⟩

end Characters

/-- What is left of characters without one mark in front. -/
def unmarked : List Char → List Char
  | '0' :: 'x' :: rest => rest
  | '0' :: 'X' :: rest => rest
  | cs => cs

/-- What is left of a text without white space at its ends and then without one mark. -/
inductive Stripped (text : String) : List Char → Prop where
  | marked (trimmed : Text.Trimmed text.toList ('0' :: mark :: digits))
      (isMark : mark = 'x' ∨ mark = 'X') : Stripped text digits
  | bare (trimmed : Text.Trimmed text.toList digits)
      (markless : ∀ mark rest, digits = '0' :: mark :: rest → mark ≠ 'x' ∧ mark ≠ 'X') :
    Stripped text digits

theorem stripped_iff {text : String} {digits : List Char} :
    Stripped text digits ↔ digits = unmarked (Text.trimChars text.toList) := by
  constructor
  · rintro (⟨trimmed, isMark⟩ | ⟨trimmed, markless⟩)
    · rw [← Text.trimmed_iff.mp trimmed]
      rcases isMark with rfl | rfl <;> rfl
    · rw [← Text.trimmed_iff.mp trimmed]
      unfold unmarked
      split
      · exact absurd rfl (markless _ _ rfl).1
      · exact absurd rfl (markless _ _ rfl).2
      · rfl
  · rintro rfl
    have trimmed := Text.trimmed_trimChars text.toList
    generalize Text.trimChars text.toList = cs at trimmed
    fun_cases unmarked cs with
    | case1 => exact .marked trimmed (.inl rfl)
    | case2 => exact .marked trimmed (.inr rfl)
    | case3 _ small capital =>
      refine .bare trimmed fun mark rest shape => ⟨?_, ?_⟩
      · rintro rfl
        exact small rest shape
      · rintro rfl
        exact capital rest shape

theorem stripped_unmarked (text : String) :
    Stripped text (unmarked (Text.trimChars text.toList)) := stripped_iff.mpr rfl

/-- A byte among the first 128 in front of a text is its first character. -/
theorem cons_of_flatMap {cs : List Char} {byte : UInt8} {rest : Bytes} (low : byte.toNat < 128)
    (front : cs.flatMap String.utf8EncodeChar = byte :: rest) :
    ∃ more, cs = glyph byte :: more ∧ more.flatMap String.utf8EncodeChar = rest := by
  cases cs with
  | nil => contradiction
  | cons c more =>
    rw [List.flatMap_cons] at front
    by_cases narrow : c.toNat < 128
    · obtain ⟨single, same⟩ := utf8EncodeChar_of_lt narrow
      rw [single] at front
      obtain ⟨rfl, behind⟩ := List.cons.inj front
      exact ⟨more, by rw [same], behind⟩
    · obtain ⟨first, later, shape⟩ := List.exists_cons_of_ne_nil
        (String.utf8EncodeChar_ne_nil (c := c))
      have beyond := le_of_mem_utf8EncodeChar (Nat.le_of_not_lt narrow) first (by simp [shape])
      rw [shape] at front
      obtain ⟨rfl, _⟩ := List.cons.inj front
      omega

theorem dropMark_chars (cs : List Char) :
    dropMark (cs.flatMap String.utf8EncodeChar) = (unmarked cs).flatMap String.utf8EncodeChar := by
  fun_cases unmarked cs with
  | case1 | case2 => rfl
  | case3 _ small capital =>
    unfold dropMark
    split <;> rename_i front
    · obtain ⟨more, rfl, tail⟩ := cons_of_flatMap (by decide) front
      obtain ⟨more, rfl, _⟩ := cons_of_flatMap (by decide) tail
      exact absurd rfl (small _)
    · obtain ⟨more, rfl, tail⟩ := cons_of_flatMap (by decide) front
      obtain ⟨more, rfl, _⟩ := cons_of_flatMap (by decide) tail
      exact absurd rfl (capital _)
    · rfl

theorem hexBody_eq {text : String} {digits : List Char} (stripped : Stripped text digits) :
    hexBody text = Bytes.ofString (String.ofList digits) := by
  rw [stripped_iff.mp stripped, hexBody, Text.trim, Bytes.ofString_chars, dropMark_chars,
    Bytes.ofString_chars]

theorem length_hexBody {text : String} {digits : List Char} {size n : Nat}
    (stripped : Stripped text digits) (spells : Spells digits size n) :
    (hexBody text).length = size := by
  rw [hexBody_eq stripped]
  exact (spells_ofString_iff.mpr spells).1

end Hex
end TokenClient
