import TokenClient.Address
import TokenClient.Text.Lossy

/-! Arguments and results of contract calls: sequences of words, with texts behind an offset. -/
namespace TokenClient

namespace Abi

inductive Fault where
  | overrun
  | notAnOffset (word : Word)
  deriving DecidableEq, Repr

def Fault.message : Fault → String
  | .overrun => "ABI decoding failed: buffer overrun while deserializing"
  | .notAnOffset word =>
    "type check failed for \"offset (usize)\" with data: " ++
      String.ofList (Hex.fixed 64 word.toNat)

def addressWord (address : Address) : Word := address.setWidth 256

def encodeWords (words : List Word) : Bytes := words.flatMap Word.toBytes

def word (data : Bytes) : Except Fault Word :=
  if data.length < 32 then .error .overrun else .ok (Word.ofBytes (data.take 32))

def offset (data : Bytes) : Except Fault Nat :=
  match word data with
  | .error fault => .error fault
  | .ok w => if w.toNat < UInt64.size then .ok w.toNat else .error (.notAnOffset w)

/-- The bytes of a text: the front word tells where they stand, the word there how many they are. -/
def content (data : Bytes) : Except Fault Bytes :=
  match offset data with
  | .error fault => .error fault
  | .ok start =>
    if data.length < start then .error .overrun
    else
      match offset (data.drop start) with
      | .error fault => .error fault
      | .ok size =>
        let rest := data.drop (start + 32)
        if rest.length < size then .error .overrun else .ok (rest.take size)

def text (data : Bytes) : Except Fault String :=
  (content data).map fun bytes => String.ofList (Text.lossy bytes)

def small (data : Bytes) : Except Fault Nat := (word data).map fun w => w.toNat % 256

def flag (data : Bytes) : Except Fault Bool := (word data).map (· ≠ 0)

end Abi
end TokenClient
