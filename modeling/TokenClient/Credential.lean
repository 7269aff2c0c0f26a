import TokenClient.Failure
import TokenClient.Curve.Signature

/-! Private keys, read from text, and the accounts they control. -/
namespace TokenClient

structure Credential where
  secret : Nat
  positive : 0 < secret
  below_order : secret < Secp256k1.n
  deriving DecidableEq, Repr

inductive KeyFault where
  | oddLength
  | notADigit (byte : UInt8) (position : Nat)
  | wrongSize (bytes : Nat)
  | outOfRange
  deriving DecidableEq, Repr

def KeyFault.message : KeyFault → String
  | .oddLength => "Odd number of digits"
  | .notADigit byte position =>
    "Invalid character " ++ Text.quotedChar (Char.ofNat byte.toNat) ++ " at position " ++
      toString position
  | .wrongSize bytes => "expected 32 bytes, got " ++ Decimal.text bytes
  | .outOfRange => "signature error"

def hexBody (text : String) : Bytes := Hex.dropMark (Bytes.ofString (Text.trim text))

namespace Credential

def ofSecret? (secret : Nat) : Option Credential :=
  if h : 0 < secret ∧ secret < Secp256k1.n then some ⟨secret, h.1, h.2⟩ else none

def ofDigits (digits : Bytes) : Except KeyFault Credential :=
  match Hex.decode digits with
  | .error (.notADigit byte position) => .error (.notADigit byte position)
  | .error _ => .error .oddLength
  | .ok bytes =>
    if bytes.length ≠ 32 then .error (.wrongSize bytes.length)
    else
      match ofSecret? bytes.toNat with
      | some credential => .ok credential
      | none => .error .outOfRange

/-- Reads a private key. What was typed does not show in the failure. -/
def read (text : String) : Except Failure Credential :=
  (ofDigits (hexBody text)).mapError fun fault => .invalidKey fault.message

def publicKey (c : Credential) : Bytes :=
  let (x, y) := (Secp256k1.generator.times c.secret).affine
  Bytes.ofNat 32 x ++ Bytes.ofNat 32 y

def address (c : Credential) : Address := .ofPublicKey c.publicKey

def sign (c : Credential) (payload : Word) : Secp256k1.Signature :=
  Secp256k1.sign c.secret payload.toNat

/-- What may be shown of a credential: its address, never the secret. -/
def shown (c : Credential) : String :=
  "SigningCredential \x7b address: " ++ c.address.text ++ ", .. \x7d"

end Credential
end TokenClient
