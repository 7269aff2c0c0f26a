import TokenClient.Json.Value
import TokenClient.Decimal
import TokenClient.Address

/-! The JSON spellings of numbers, byte strings, addresses and hashes in a node's answers. -/
namespace TokenClient

namespace Quantity

/-- The spelling a request uses: hexadecimal without leading zeros. -/
def text (n : Nat) : String := String.ofList ('0' :: 'x' :: Hex.natural n)

def digit? (c : Char) : Option Nat :=
  let n := c.toNat
  if 48 ≤ n ∧ n ≤ 57 then some (n - 48)
  else if 97 ≤ n ∧ n ≤ 122 then some (n - 87)
  else if 65 ≤ n ∧ n ≤ 90 then some (n - 55)
  else none

/-- Reads digits of a base; an underscore says nothing, and no digit at all is zero. -/
def digits? (base : Nat) : (sum : Nat) → List Char → Option Nat
  | sum, [] => some sum
  | sum, c :: rest =>
    if c = '_' then digits? base sum rest
    else
      match digit? c with
      | some d => if d < base then digits? base (base * sum + d) rest else none
      | none => none

/-- The two characters in front tell the base; without them it is ten. -/
def read? : List Char → Option Nat
  | '0' :: 'x' :: rest | '0' :: 'X' :: rest => digits? 16 0 rest
  | '0' :: 'o' :: rest | '0' :: 'O' :: rest => digits? 8 0 rest
  | '0' :: 'b' :: rest | '0' :: 'B' :: rest => digits? 2 0 rest
  | cs => digits? 10 0 cs

end Quantity

namespace Json

/-- A number below 2 ^ `bits`, spelled as a string. -/
def quantity? (bits : Nat) : Json → Option Nat
  | .string s => (Quantity.read? s.toList).filter (· < Nat.pow 2 bits)
  | _ => none

def byte? : Json → Option UInt8
  | .number spelling =>
    let cs := spelling.toList
    if cs.all Decimal.isDigit ∧ Decimal.value cs < 256 then some (UInt8.ofNat (Decimal.value cs))
    else none
  | _ => none

/-- Bytes are hexadecimal digits, with or without mark, or an array of numbers. -/
def bytes? : Json → Option Bytes
  | .string s => (Hex.decode (Hex.dropMark (Bytes.ofString s))).toOption
  | .array items => items.mapM byte?
  | _ => none

def fixedBytes? (size : Nat) (value : Json) : Option Bytes :=
  (value.bytes?).filter (·.length = size)

def address? (value : Json) : Option Address := (value.fixedBytes? 20).map Address.ofBytes

def hash? (value : Json) : Option TxHash := (value.fixedBytes? 32).map Word.ofBytes

/-- A member that may be missing or null. -/
def optional? {α : Type} (read : Json → Option α) : Option Json → Option (Option α)
  | none | some .null => some none
  | some value => (read value).map some

end Json
end TokenClient
