import Mathlib.Algebra.Order.Ring.Nat
import Mathlib.Data.List.DropRight
import TokenClient.Address

/-! Words and addresses as bytes. An address is cut from the end of a word, and a word of bytes is
those bytes. -/
namespace TokenClient

namespace Bytes

theorem toNat_ofNat (size n : Nat) : toNat (ofNat size n) = n % 256 ^ size := by
  induction size generalizing n with
  | zero => simp [ofNat, toNat, Nat.mod_one]
  | succ size ih =>
    have grow : 256 ^ (size + 1) = 256 * 256 ^ size := Nat.pow_succ'
    rw [ofNat, toNat_append_singleton, ih, UInt8.toNat_ofNat', grow, Nat.mod_mul, Nat.add_comm]

theorem ofNat_mod (size n : Nat) : ofNat size (n % 256 ^ size) = ofNat size n := by
  induction size generalizing n with
  | zero => rfl
  | succ size ih =>
    have higher : n % 256 ^ (size + 1) / 256 = n / 256 % 256 ^ size := by
      rw [Nat.pow_succ', Nat.mod_mul_right_div_self]
    have lowest : UInt8.ofNat (n % 256 ^ (size + 1)) = UInt8.ofNat n := by
      apply UInt8.toNat_inj.mp
      rw [UInt8.toNat_ofNat', UInt8.toNat_ofNat', Nat.pow_succ', Nat.mod_mul_right_mod]
    rw [ofNat, ofNat, higher, lowest, ih]

/-- The last bytes of a string spell the number's last bytes. The induction takes both from the
end, as numbers are spelled. -/
theorem ofNat_toNat {size : Nat} {bytes : Bytes} (long : size ≤ bytes.length) :
    ofNat size bytes.toNat = bytes.rtake size := by
  induction size generalizing bytes with
  | zero => simp [ofNat]
  | succ size ih =>
    obtain rfl | ⟨front, last, rfl⟩ := bytes.eq_nil_or_concat'
    · contradiction
    · have shorter : size ≤ front.length := by simpa using long
      have higher : (256 * toNat front + last.toNat) / 256 = toNat front := by
        have := last.toNat_lt
        omega
      have lowest : UInt8.ofNat (256 * toNat front + last.toNat) = last := by
        apply UInt8.toNat_inj.mp
        have := last.toNat_lt
        rw [UInt8.toNat_ofNat']
        omega
      rw [toNat_append_singleton, ofNat, higher, lowest, ih shorter, List.rtake_concat_succ]

theorem toNat_lt (bytes : Bytes) : bytes.toNat < 256 ^ bytes.length := by
  have whole := ofNat_toNat (Nat.le_refl bytes.length)
  have value := toNat_ofNat bytes.length bytes.toNat
  rw [whole, List.rtake, Nat.sub_self, List.drop_zero] at value
  rw [value]
  exact Nat.mod_lt _ (Nat.pow_pos (by decide))

end Bytes

theorem Keccak.length_hash (message : Bytes) : (hash message).length = 32 := by
  simp [hash, List.length_flatMap]

theorem Word.ofBytes_toBytes (word : Word) : ofBytes word.toBytes = word := by
  have bounded := word.isLt
  apply BitVec.eq_of_toNat_eq
  rw [ofBytes, toBytes, Bytes.toNat_ofNat, BitVec.toNat_ofNat]
  omega

theorem Word.toBytes_ofBytes {bytes : Bytes} (whole : bytes.length = 32) :
    (ofBytes bytes).toBytes = bytes := by
  have modulus : 2 ^ 256 = 256 ^ 32 := by decide
  rw [toBytes, ofBytes, BitVec.toNat_ofNat, modulus, Bytes.ofNat_mod,
    Bytes.ofNat_toNat (Nat.le_of_eq whole.symm), List.rtake, whole]
  rfl

theorem Word.toBytes_injective : Function.Injective toBytes :=
  Function.LeftInverse.injective ofBytes_toBytes

namespace Address

theorem ofBytes_toBytes (address : Address) : ofBytes address.toBytes = address := by
  have bounded := address.isLt
  apply BitVec.eq_of_toNat_eq
  rw [ofBytes, toBytes, Bytes.toNat_ofNat, BitVec.toNat_ofNat]
  omega

theorem toBytes_injective : Function.Injective toBytes :=
  Function.LeftInverse.injective ofBytes_toBytes

theorem toBytes_setWidth (word : Word) :
    toBytes (word.setWidth 160) = word.toBytes.rtake 20 := by
  have modulus : 2 ^ 160 = 256 ^ 20 := by decide
  have long : 20 ≤ word.toBytes.length := by simp [Word.toBytes]
  have spelled : word.toBytes.toNat = word.toNat := by
    rw [Word.toBytes, Bytes.toNat_ofNat]
    exact Nat.mod_eq_of_lt word.isLt
  rw [toBytes, BitVec.toNat_setWidth, modulus, Bytes.ofNat_mod, ← Bytes.ofNat_toNat long, spelled]

theorem toBytes_digest (message : Bytes) :
    toBytes ((digest message).setWidth 160) = (Keccak.hash message).rtake 20 := by
  rw [toBytes_setWidth, digest, Word.toBytes_ofBytes (Keccak.length_hash message)]

end Address
end TokenClient
