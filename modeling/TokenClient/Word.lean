import TokenClient.Bytes
import TokenClient.Hash.Keccak

/-! The 256-bit words of the chain, and the hashes that name transactions. -/
namespace TokenClient

abbrev Word := BitVec 256

namespace Word

def count : Nat := Nat.pow 2 256

def ofBytes (bytes : Bytes) : Word := BitVec.ofNat 256 bytes.toNat

def toBytes (word : Word) : Bytes := Bytes.ofNat 32 word.toNat

end Word

/-- The Keccak hash of a byte string as one word. -/
def digest (bytes : Bytes) : Word := Word.ofBytes (Keccak.hash bytes)

end TokenClient
