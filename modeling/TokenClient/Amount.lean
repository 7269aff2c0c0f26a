import TokenClient.Word
import TokenClient.Decimal
import TokenClient.Text.Blank
import TokenClient.Text.Quoted

/-! Token quantities. An amount is a number of base units together with the number of decimals
that the contract shows; ten to the power of the decimals is one whole token. -/
namespace TokenClient

structure Amount where
  raw : Word
  decimals : Nat
  deriving DecidableEq, Repr

inductive AmountFault where
  | decimalsOverflow (decimals : Nat)
  | empty
  | notDecimal (text : String)
  | tooManyPlaces (text : String) (decimals : Nat)
  | wholeOverflow
  | overflow (text : String)
  | wholeTokensOverflow (whole : Nat)
  deriving DecidableEq, Repr

def AmountFault.message : AmountFault → String
  | .decimalsOverflow decimals => Decimal.text decimals ++ " decimals overflow uint256"
  | .empty => "empty amount"
  | .notDecimal text =>
    "invalid amount " ++ Text.quoted text ++ ": only digits and one '.' allowed"
  | .tooManyPlaces text decimals =>
    "amount " ++ Text.quoted text ++ " has more than " ++ Decimal.text decimals ++
      " fractional digits"
  | .wholeOverflow => "the value is too large to fit the target type"
  | .overflow text => "amount " ++ Text.quoted text ++ " overflows uint256"
  | .wholeTokensOverflow whole => Decimal.text whole ++ " tokens overflow uint256"

namespace Amount

/-- The base units of one whole token, if a word can hold them. -/
def scale (decimals : Nat) : Option Nat :=
  if Nat.pow 10 decimals < Word.count then some (Nat.pow 10 decimals) else none

def ofWhole (whole decimals : Nat) : Except AmountFault Amount :=
  match scale decimals with
  | none => .error (.decimalsOverflow decimals)
  | some unit =>
    if unit * whole < Word.count then .ok ⟨BitVec.ofNat 256 (unit * whole), decimals⟩
    else .error (.wholeTokensOverflow whole)

def splitPoint (cs : List Char) : List Char × List Char :=
  (cs.takeWhile (· != '.'), (cs.dropWhile (· != '.')).drop 1)

/-- Reads a decimal text exactly; nothing is rounded. -/
def parse (text : String) (decimals : Nat) : Except AmountFault Amount :=
  let cs := Text.trimChars text.toList
  let shown := String.ofList cs
  match scale decimals with
  | none => .error (.decimalsOverflow decimals)
  | some unit =>
    let (whole, places) := splitPoint cs
    if whole = [] ∧ places = [] then .error .empty
    else if ¬ (whole ++ places).all Decimal.isDigit then .error (.notDecimal shown)
    else if decimals < places.length then .error (.tooManyPlaces shown decimals)
    else if Word.count ≤ Decimal.value whole then .error .wholeOverflow
    else
      let raw := Decimal.value whole * unit +
        Decimal.value places * Nat.pow 10 (decimals - places.length)
      if raw < Word.count then .ok ⟨BitVec.ofNat 256 raw, decimals⟩ else .error (.overflow shown)

def dropTrailingZeros (cs : List Char) : List Char :=
  (cs.reverse.dropWhile (· == '0')).reverse

/-- The amount in whole tokens without superfluous zeros, or in base units where one whole token
is more than a word can hold. -/
def chars (a : Amount) : List Char :=
  match scale a.decimals with
  | none =>
    Decimal.digits a.raw.toNat ++ " (base units, ".toList ++ Decimal.digits a.decimals ++
      " decimals)".toList
  | some unit =>
    let whole := Decimal.digits (a.raw.toNat / unit)
    let rest := a.raw.toNat % unit
    if rest = 0 then whole
    else whole ++ '.' :: dropTrailingZeros (Decimal.fixed a.decimals rest)

def text (a : Amount) : String := String.ofList a.chars

end Amount
end TokenClient
