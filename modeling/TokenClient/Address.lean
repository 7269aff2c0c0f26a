import TokenClient.Word
import TokenClient.Hex
import TokenClient.Rlp
import TokenClient.Text.Blank
import TokenClient.Text.Quoted

/-! Account addresses and transaction hashes, as the texts that name them. -/
namespace TokenClient

abbrev Address := BitVec 160
abbrev TxHash := BitVec 256

def Hex.Fault.message : Hex.Fault → String
  | .oddLength => "odd number of digits"
  | .wrongLength => "invalid string length"
  | .notADigit byte position =>
    "invalid character " ++ Text.quotedChar (Char.ofNat byte.toNat) ++ " at position " ++
      toString position

namespace Address

def toBytes (a : Address) : Bytes := Bytes.ofNat 20 a.toNat

def ofBytes (bytes : Bytes) : Address := BitVec.ofNat 160 bytes.toNat

/-- The address behind a public key, whose coordinates are given as 64 bytes. -/
def ofPublicKey (key : Bytes) : Address := (digest key).setWidth 160

/-- The address of the contract that an account creates with the transaction of that nonce. -/
def created (sender : Address) (nonce : Nat) : Address :=
  (digest (Rlp.Item.list [.bytes sender.toBytes, .number nonce]).encode).setWidth 160

def digits (a : Address) : List Char := Hex.fixed 40 a.toNat

def text (a : Address) : String := String.ofList ('0' :: 'x' :: a.digits)

/-- A letter is a capital where the digit of the hash of the lower-case digits at its place is 8
or more. -/
def checksumDigits (a : Address) : List Char :=
  let hashed := Hex.fixed 64 (digest (a.digits.map fun c => UInt8.ofNat c.toNat)).toNat
  a.digits.zipWith (fun c d => if '8' ≤ d then c.toUpper else c) hashed

def checksum (a : Address) : String := String.ofList ('0' :: 'x' :: a.checksumDigits)

/-- Reads forty digits of any case, with or without mark. The case is not checked. -/
def read (text : Bytes) : Except Hex.Fault Address :=
  (Hex.decodeFixed 20 (Hex.dropMark text)).map ofBytes

end Address

namespace TxHash

def text (h : TxHash) : String := String.ofList ('0' :: 'x' :: Hex.fixed 64 h.toNat)

def read (text : Bytes) : Except Hex.Fault TxHash :=
  (Hex.decodeFixed 32 (Hex.dropMark text)).map Word.ofBytes

end TxHash
end TokenClient
