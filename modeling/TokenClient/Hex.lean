import TokenClient.Bytes

/-! Hexadecimal text of bytes and numbers. Reading works on the bytes of a text, so the
position in a fault counts bytes. -/
namespace TokenClient

namespace Hex

def digit (n : Nat) : Char :=
  if n < 10 then Char.ofNat (n + 48) else Char.ofNat (n + 87)

def fixed : (size n : Nat) → List Char
  | 0, _ => []
  | size + 1, n => fixed size (n / 16) ++ [digit (n % 16)]

def natural (n : Nat) : List Char :=
  if n < 16 then [digit n] else natural (n / 16) ++ [digit (n % 16)]
termination_by n

def ofBytes (bytes : Bytes) : List Char := bytes.flatMap fun byte => fixed 2 byte.toNat

def text (bytes : Bytes) : String := String.ofList ('0' :: 'x' :: ofBytes bytes)

def value? (byte : UInt8) : Option Nat :=
  let n := byte.toNat
  if 48 ≤ n ∧ n ≤ 57 then some (n - 48)
  else if 97 ≤ n ∧ n ≤ 102 then some (n - 87)
  else if 65 ≤ n ∧ n ≤ 70 then some (n - 55)
  else none

inductive Fault where
  | oddLength
  | wrongLength
  | notADigit (byte : UInt8) (position : Nat)
  deriving DecidableEq, Repr

/-- Reads pairs of digits. `position` is where the text begins. -/
def pairs (position : Nat) : Bytes → Except Fault Bytes
  | high :: low :: rest =>
    match value? high, value? low with
    | some a, some b => (pairs (position + 2) rest).map (UInt8.ofNat (16 * a + b) :: ·)
    | none, _ => .error (.notADigit high position)
    | some _, none => .error (.notADigit low (position + 1))
  | [single] =>
    match value? single with
    | some _ => .error .oddLength
    | none => .error (.notADigit single position)
  | [] => .ok []

/-- Reads a text of any even length. The length is looked at before the digits. -/
def decode (text : Bytes) : Except Fault Bytes :=
  if text.length % 2 = 1 then .error .oddLength else pairs 0 text

/-- Reads exactly `size` bytes. Both lengths are looked at before the digits. -/
def decodeFixed (size : Nat) (text : Bytes) : Except Fault Bytes :=
  if text.length % 2 = 1 then .error .oddLength
  else if text.length ≠ 2 * size then .error .wrongLength
  else pairs 0 text

def dropMark : Bytes → Bytes
  | 48 :: 120 :: rest => rest
  | 48 :: 88 :: rest => rest
  | text => text

@[simp] theorem length_fixed (size n : Nat) : (fixed size n).length = size := by
  induction size generalizing n with
  | zero => rfl
  | succ size ih => simp [fixed, ih]

end Hex
end TokenClient
