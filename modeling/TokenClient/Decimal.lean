/-! Decimal digits of natural numbers. -/
namespace TokenClient.Decimal

def isDigit (c : Char) : Bool := 48 ≤ c.toNat && c.toNat ≤ 57

def digit (n : Nat) : Char := Char.ofNat (48 + n % 10)

def value (cs : List Char) : Nat := cs.foldl (fun n c => 10 * n + (c.toNat - 48)) 0

/-- The digits of a number without leading zeros; zero has one digit. -/
def digits (n : Nat) : List Char :=
  if n < 10 then [digit n] else digits (n / 10) ++ [digit n]
termination_by n

/-- The last `size` digits of a number. -/
def fixed : (size n : Nat) → List Char
  | 0, _ => []
  | size + 1, n => fixed size (n / 10) ++ [digit n]

def text (n : Nat) : String := String.ofList (digits n)

@[simp] theorem length_fixed (size n : Nat) : (fixed size n).length = size := by
  induction size generalizing n with
  | zero => rfl
  | succ size ih => simp [fixed, ih]

end TokenClient.Decimal
