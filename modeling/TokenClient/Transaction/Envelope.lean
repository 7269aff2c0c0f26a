import TokenClient.Transaction.Request
import TokenClient.Credential

/-! Complete transactions, signed, in the form in which they are broadcast. -/
namespace TokenClient

structure Transaction where
  nonce : Nat
  gasPrice : Nat
  gas : Nat
  destination : Destination
  value : Word
  input : Bytes
  chainId : Nat
  /-- With an access list, even an empty one, the transaction is of the newer of the two kinds. -/
  accessList : Option (List AccessEntry)
  deriving DecidableEq, Repr

namespace Transaction

open Rlp

def destinationItem : Destination → Item
  | .account address => .bytes address.toBytes
  | .creation => .bytes []

def accessItem (entry : AccessEntry) : Item :=
  .list [.bytes entry.address.toBytes, .list (entry.keys.map fun key => .bytes key.toBytes)]

def items (t : Transaction) : List Item :=
  [.number t.nonce, .number t.gasPrice, .number t.gas, destinationItem t.destination,
    .number t.value.toNat, .bytes t.input]

def signingBytes (t : Transaction) : Bytes :=
  match t.accessList with
  | none => (Item.list (t.items ++ [.number t.chainId, .number 0, .number 0])).encode
  | some entries =>
    0x01 :: (Item.list (.number t.chainId :: t.items ++ [.list (entries.map accessItem)])).encode

def signingHash (t : Transaction) : Word := digest t.signingBytes

/-- The transaction with its signature. The older kind puts chain and parity into one number. -/
def signedBytes (t : Transaction) (signature : Secp256k1.Signature) : Bytes :=
  let parity := signature.parity.toNat
  match t.accessList with
  | none =>
    (Item.list (t.items ++
      [.number (35 + 2 * t.chainId + parity), .number signature.r, .number signature.s])).encode
  | some entries =>
    0x01 :: (Item.list (.number t.chainId :: t.items ++
      [.list (entries.map accessItem), .number parity, .number signature.r,
        .number signature.s])).encode

end Transaction

structure Envelope where
  transaction : Transaction
  signature : Secp256k1.Signature
  signer : Address
  deriving DecidableEq, Repr

namespace Envelope

/-- The number that tells the two kinds apart. -/
def kind (e : Envelope) : Nat := if e.transaction.accessList.isSome then 1 else 0

def raw (e : Envelope) : Bytes := e.transaction.signedBytes e.signature

def hash (e : Envelope) : TxHash := digest e.raw

end Envelope

def Credential.seal (c : Credential) (t : Transaction) : Envelope :=
  ⟨t, c.sign t.signingHash, c.address⟩

end TokenClient
