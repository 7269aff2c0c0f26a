import TokenClient.Decimal
import TokenClient.Hex
import TokenClient.Text.Split

/-! Numeric hosts: four-part and eight-part addresses. -/
namespace TokenClient.Url

namespace Ipv4

def hexValue? (c : Char) : Option Nat :=
  if c.toNat < 128 then Hex.value? (UInt8.ofNat c.toNat) else none

def number? (cs : List Char) : Option Nat :=
  let inBase (base : Nat) (digits : List Char) : Option Nat :=
    digits.foldlM (fun n c => do
      let d ← hexValue? c
      if d < base then some (n * base + d) else none) 0
  match cs with
  | [] => none
  | '0' :: 'x' :: rest | '0' :: 'X' :: rest => inBase 16 rest
  | '0' :: c :: rest => inBase 8 (c :: rest)
  | cs => inBase 10 cs

/-- A host whose last part is a number has to be an address. -/
def endsInNumber (host : List Char) : Bool :=
  let isNumber (part : List Char) : Bool :=
    part != [] && part.all Decimal.isDigit || (number? part).isSome
  match (Text.splitOn (· == '.') host).reverse with
  | [] :: last :: _ => isNumber last
  | last :: _ => isNumber last
  | [] => false

/-- The last part fills the places of the parts that are not there. -/
def read? (host : List Char) : Option Nat := do
  let parts := Text.splitOn (· == '.') host
  let parts := if parts.getLast? = some [] then parts.dropLast else parts
  if 4 < parts.length then failure
  let numbers ← parts.mapM number?
  let last ← numbers.getLast?
  let front := numbers.dropLast
  if Nat.pow 256 (4 - front.length) ≤ last then failure
  if front.any (255 < ·) then failure
  return (front.zipIdx.map fun (n, i) => n * Nat.pow 256 (3 - i)).foldl (· + ·) last

def chars (address : Nat) : List Char :=
  Text.join '.' ((Bytes.ofNat 4 address).map fun byte => Decimal.digits byte.toNat)

end Ipv4

namespace Ipv6

/-- Four decimal parts without superfluous zeros, as the two pieces they fill. -/
def tail? (cs : List Char) : Option (List Nat) := do
  let part? (part : List Char) : Option Nat :=
    if part ≠ [] ∧ part.all Decimal.isDigit ∧ (part.head? ≠ some '0' ∨ part.length = 1) ∧
        Decimal.value part < 256 then some (Decimal.value part)
    else none
  match ← (Text.splitOn (· == '.') cs).mapM part? with
  | [a, b, c, d] => some [a * 256 + b, c * 256 + d]
  | _ => none

def piece? (cs : List Char) : Option Nat :=
  if cs = [] ∨ 4 < cs.length then none
  else cs.foldlM (fun n c => (Ipv4.hexValue? c).map (n * 16 + ·)) 0

/-- Pieces between colons; the last may be a four-part address. -/
def pieces? : List (List Char) → Option (List Nat)
  | [] => some []
  | [last] => if last.contains '.' then tail? last else (piece? last).map ([·])
  | part :: rest => do return (← piece? part) :: (← pieces? rest)

def splitGap : List Char → Option (List Char × List Char)
  | ':' :: ':' :: rest => some ([], rest)
  | c :: rest => (splitGap rest).map fun (before, after) => (c :: before, after)
  | [] => none

def run? (cs : List Char) : Option (List Nat) :=
  if cs = [] then some [] else pieces? (Text.splitOn (· == ':') cs)

/-- Eight pieces; one double colon stands for all pieces that are missing. -/
def read? (cs : List Char) : Option (List Nat) := do
  match splitGap cs with
  | none =>
    let pieces ← run? cs
    if pieces.length = 8 then some pieces else none
  | some (before, after) =>
    if before.contains '.' then failure
    let front ← run? before
    let back ← run? after
    if front.length + back.length < 8 then
      some (front ++ List.replicate (8 - front.length - back.length) 0 ++ back)
    else none

def zeros : List Nat → Nat
  | 0 :: rest => zeros rest + 1
  | _ => 0

/-- Where the first of the longest runs of two or more zero pieces begins, and its length. -/
def gap (pieces : List Nat) : Option (Nat × Nat) :=
  let runs := (List.range 8).map fun i => (i, zeros (pieces.drop i))
  (runs.foldl (fun best run => if best.2 < run.2 then run else best) (0, 1)) |> fun best =>
    if best.2 < 2 then none else some best

def group (pieces : List Nat) : List Char := Text.join ':' (pieces.map Hex.natural)

def chars (pieces : List Nat) : List Char :=
  '[' :: ((match gap pieces with
    | none => group pieces
    | some (start, size) =>
      group (pieces.take start) ++ ':' :: ':' :: group (pieces.drop (start + size))) ++ [']'])

end Ipv6
end TokenClient.Url
