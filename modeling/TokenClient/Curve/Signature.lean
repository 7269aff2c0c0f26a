import TokenClient.Curve.Secp256k1
import TokenClient.Hash.Sha256

/-! Signatures over the curve: deterministic, with the smaller of the two possible values of `s`. -/
namespace TokenClient.Secp256k1

/-- `parity` tells which of the two points with abscissa `r` was used. -/
structure Signature where
  r : Nat
  s : Nat
  parity : Bool
  deriving DecidableEq, Repr

/-- The state of the generator that turns key and digest into a stream of nonces. -/
structure NonceSource where
  key : Bytes
  value : Bytes

namespace NonceSource

def stir (source : NonceSource) (mark : UInt8) (seed : Bytes) : NonceSource :=
  let key := Sha256.keyed source.key (source.value ++ mark :: seed)
  ⟨key, Sha256.keyed key source.value⟩

def start (secret digest : Nat) : NonceSource :=
  let seed := Bytes.ofNat 32 secret ++ Bytes.ofNat 32 (digest % n)
  let blank : NonceSource := ⟨List.replicate 32 0, List.replicate 32 1⟩
  (blank.stir 0 seed).stir 1 seed

/-- The first candidate from 1 to n - 1; after `tries` misses the next one as it comes. -/
def first : (tries : Nat) → NonceSource → Nat
  | tries, source =>
    let value := Sha256.keyed source.key source.value
    let candidate := Bytes.toNat value
    match tries with
    | 0 => candidate
    | tries + 1 =>
      if 0 < candidate ∧ candidate < n then candidate
      else first tries (stir ⟨source.key, value⟩ 0 [])

end NonceSource

def sign (secret digest : Nat) : Signature :=
  let k := (NonceSource.start secret digest).first 64
  let (x, y) := (generator.times k).affine
  let r := x % n
  let s := inverse n k * ((digest + r * secret) % n) % n
  if n / 2 < s then ⟨r, n - s, y % 2 = 0⟩ else ⟨r, s, y % 2 = 1⟩

end TokenClient.Secp256k1
