/-! Byte strings and the numbers they spell, most significant byte first. -/
namespace TokenClient

abbrev Bytes := List UInt8

namespace Bytes

def toNat (bytes : Bytes) : Nat := bytes.foldl (fun n byte => 256 * n + byte.toNat) 0

/-- The last `size` bytes of the number; what does not fit is dropped. -/
def ofNat : (size n : Nat) → Bytes
  | 0, _ => []
  | size + 1, n => ofNat size (n / 256) ++ [UInt8.ofNat n]

/-- The shortest spelling of the number: no leading zero byte, zero itself is empty. -/
def minimal (n : Nat) : Bytes :=
  if n = 0 then [] else minimal (n / 256) ++ [UInt8.ofNat n]
termination_by n

def ofString (text : String) : Bytes := text.toUTF8.toList

def pieces (size : Nat) (bytes : Bytes) : List Bytes :=
  if _h : size = 0 ∨ bytes = [] then [] else
    bytes.take size :: pieces size (bytes.drop size)
termination_by bytes.length
decreasing_by
  have : bytes.length ≠ 0 := fun e => _h (.inr (List.eq_nil_of_length_eq_zero e))
  have : size ≠ 0 := fun e => _h (.inl e)
  simp only [List.length_drop]
  omega

theorem toNat_append_singleton (bytes : Bytes) (byte : UInt8) :
    toNat (bytes ++ [byte]) = 256 * toNat bytes + byte.toNat := by
  simp [toNat]

@[simp] theorem length_ofNat (size n : Nat) : (ofNat size n).length = size := by
  induction size generalizing n with
  | zero => rfl
  | succ size ih => simp [ofNat, ih]

theorem toNat_minimal (n : Nat) : toNat (minimal n) = n := by
  fun_induction minimal n with
  | case1 => rfl
  | case2 n _ ih => rw [toNat_append_singleton, ih, UInt8.toNat_ofNat']; omega

end Bytes
end TokenClient
