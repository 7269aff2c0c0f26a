import Mathlib.Algebra.Ring.Nat
import Mathlib.Data.List.Induction
import Mathlib.Tactic.Ring
import TokenClient.Decimal

/-! Digits and the numbers that they spell: with a fixed number of digits, or without a leading
zero, every number has exactly one spelling. -/
namespace TokenClient.Decimal

theorem toNat_digit (n : Nat) : (digit n).toNat = 48 + n % 10 := by
  have low : (48 + n % 10).isValidChar := .inl (by omega)
  rw [digit, Char.ofNat, dif_pos low]
  rfl

theorem isDigit_iff (c : Char) : isDigit c = true ↔ 48 ≤ c.toNat ∧ c.toNat ≤ 57 := by
  simp [isDigit]

@[simp] theorem isDigit_digit (n : Nat) : isDigit (digit n) = true := by
  rw [isDigit_iff, toNat_digit]
  omega

theorem digit_of_isDigit {c : Char} (isDigit : isDigit c = true) (n : Nat) :
    digit (10 * n + (c.toNat - 48)) = c := by
  rw [isDigit_iff] at isDigit
  apply Char.toNat_inj.mp
  rw [toNat_digit]
  omega

theorem value_concat (cs : List Char) (c : Char) :
    value (cs ++ [c]) = 10 * value cs + (c.toNat - 48) := by
  simp [value]

theorem value_append (front back : List Char) :
    value (front ++ back) = value front * 10 ^ back.length + value back := by
  induction back using List.reverseRecOn with
  | nil => simp [value]
  | append_singleton back c ih =>
    rw [← List.append_assoc, value_concat, value_concat, ih, List.length_append,
      List.length_singleton, Nat.pow_succ]
    ring

theorem value_digit (n : Nat) : (digit n).toNat - 48 = n % 10 := by
  rw [toNat_digit]
  omega

@[simp] theorem value_digits (n : Nat) : value (digits n) = n := by
  fun_induction digits n with
  | case1 n small =>
    simp only [value, List.foldl_cons, List.foldl_nil, value_digit]
    omega
  | case2 n large ih =>
    rw [value_concat, ih, value_digit]
    omega

theorem value_fixed (size n : Nat) : value (fixed size n) = n % 10 ^ size := by
  induction size generalizing n with
  | zero => simp [fixed, value, Nat.mod_one]
  | succ size ih =>
    rw [fixed, value_concat, ih, value_digit, Nat.pow_succ', Nat.mod_mul]
    omega

theorem isDigit_of_mem_digits {n : Nat} {c : Char} (member : c ∈ digits n) :
    isDigit c = true := by
  fun_induction digits n with
  | case1 n small =>
    rw [List.mem_singleton] at member
    simp [member]
  | case2 n large ih =>
    rcases List.mem_append.mp member with front | last
    · exact ih front
    · rw [List.mem_singleton] at last
      simp [last]

theorem isDigit_of_mem_fixed {size n : Nat} {c : Char} (member : c ∈ fixed size n) :
    isDigit c = true := by
  induction size generalizing n with
  | zero => contradiction
  | succ size ih =>
    rcases List.mem_append.mp member with front | last
    · exact ih front
    · rw [List.mem_singleton] at last
      simp [last]

theorem digits_ne_nil (n : Nat) : digits n ≠ [] := by
  unfold digits
  split <;> simp

/-- Digits that spell a number without a superfluous zero in front. -/
structure Leading (cs : List Char) : Prop where
  digits : ∀ c ∈ cs, isDigit c = true
  nonempty : cs ≠ []
  front : cs.head? = some '0' → cs = ['0']

theorem head_digits {n : Nat} (positive : n ≠ 0) : (digits n).head? ≠ some '0' := by
  fun_induction digits n with
  | case1 n small =>
    intro zero
    have same := congrArg Char.toNat (Option.some.inj zero)
    rw [toNat_digit] at same
    have : '0'.toNat = 48 := rfl
    omega
  | case2 n large ih =>
    obtain ⟨first, rest, spelled⟩ := List.exists_cons_of_ne_nil (digits_ne_nil (n / 10))
    rw [spelled] at ih ⊢
    exact ih (by omega)

theorem leading_digits (n : Nat) : Leading (digits n) where
  digits _ := isDigit_of_mem_digits
  nonempty := digits_ne_nil n
  front zero := by
    by_cases none : n = 0
    · rw [none, digits]
      rfl
    · exact absurd zero (head_digits none)

theorem value_lt {cs : List Char} (digits : ∀ c ∈ cs, isDigit c = true) :
    value cs < 10 ^ cs.length := by
  induction cs using List.reverseRecOn with
  | nil => simp [value]
  | append_singleton cs c ih =>
    have front := ih fun other member => digits other (List.mem_append_left _ member)
    have last := (isDigit_iff c).mp (digits c (by simp))
    rw [value_concat, List.length_append, List.length_singleton, Nat.pow_succ]
    omega

theorem fixed_value {cs : List Char} (digits : ∀ c ∈ cs, isDigit c = true) :
    fixed cs.length (value cs) = cs := by
  induction cs using List.reverseRecOn with
  | nil => rfl
  | append_singleton cs c ih =>
    have last := digits c (by simp)
    have tens : (10 * value cs + (c.toNat - 48)) / 10 = value cs := by
      have bounds := (isDigit_iff c).mp last
      omega
    rw [List.length_append, List.length_singleton, fixed, value_concat, digit_of_isDigit last, tens,
      ih fun other member => digits other (List.mem_append_left _ member)]

theorem eq_zero_of_value {cs : List Char} (digits : ∀ c ∈ cs, isDigit c = true)
    (zero : value cs = 0) : ∀ c ∈ cs, c = '0' := by
  rw [← fixed_value digits, zero]
  generalize cs.length = size
  clear digits zero
  induction size with
  | zero => exact nofun
  | succ size ih =>
    intro c member
    rcases List.mem_append.mp member with front | last
    · exact ih c front
    · rw [List.mem_singleton] at last
      exact last

/-- Without a superfluous zero, digits are the only ones for their value. -/
theorem digits_value {cs : List Char} (leading : Leading cs) : digits (value cs) = cs := by
  induction cs using List.reverseRecOn with
  | nil => exact absurd rfl leading.nonempty
  | append_singleton cs c ih =>
    have last := leading.digits c (by simp)
    have bounds := (isDigit_iff c).mp last
    have tens : (10 * value cs + (c.toNat - 48)) / 10 = value cs := by omega
    by_cases empty : cs = []
    · subst empty
      have single : value [] = 0 := rfl
      rw [value_concat, digits, if_pos (by omega), digit_of_isDigit last]
      rfl
    · have front : cs.head? ≠ some '0' := by
        intro zero
        have alone := leading.front (by rw [List.head?_append, zero, Option.some_or])
        simpa [empty] using congrArg List.length alone
      have shorter : Leading cs :=
        ⟨fun other member => leading.digits other (List.mem_append_left _ member), empty,
          fun zero => absurd zero front⟩
      have positive : value cs ≠ 0 := by
        intro zero
        obtain ⟨first, rest, rfl⟩ := List.exists_cons_of_ne_nil empty
        have isZero := eq_zero_of_value shorter.digits zero first (by simp)
        exact front (by simp [isZero])
      rw [value_concat, digits, if_neg (by omega), digit_of_isDigit last, tens, ih shorter]

end TokenClient.Decimal
