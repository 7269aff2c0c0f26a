import TokenClient.Decimal

/-! Numbers, dates and times: whether a spelling is one, and what an integer's value is. -/
namespace TokenClient.Toml

/-- A number of exactly `size` digits in the given range, and the rest. -/
def clock? (size low high : Nat) (cs : List Char) : Option (Nat × List Char) :=
  let digits := cs.take size
  if digits.length = size ∧ digits.all Decimal.isDigit ∧ low ≤ Decimal.value digits ∧
      Decimal.value digits ≤ high then
    some (Decimal.value digits, cs.drop size)
  else none

def mark? (mark : Char) : List Char → Option (List Char)
  | c :: rest => if c = mark then some rest else none
  | [] => none

def isLeap (year : Nat) : Bool := year % 4 == 0 && (year % 100 != 0 || year % 400 == 0)

def daysIn (year month : Nat) : Nat :=
  if month = 2 then (if isLeap year then 29 else 28)
  else if month ∈ [4, 6, 9, 11] then 30 else 31

def date? (cs : List Char) : Option (List Char) := do
  let (year, cs) ← clock? 4 0 9999 cs
  let (month, cs) ← clock? 2 1 12 (← mark? '-' cs)
  let (_, cs) ← clock? 2 1 (daysIn year month) (← mark? '-' cs)
  return cs

/-- A leap second may be the sixtieth. -/
def time? (cs : List Char) : Option (List Char) := do
  let (_, cs) ← clock? 2 0 23 cs
  let (_, cs) ← clock? 2 0 59 (← mark? ':' cs)
  let (_, cs) ← clock? 2 0 60 (← mark? ':' cs)
  match cs with
  | '.' :: rest =>
    if rest.takeWhile Decimal.isDigit = [] then none else some (rest.dropWhile Decimal.isDigit)
  | cs => some cs

def zone? : List Char → Option (List Char)
  | [] => some []
  | c :: rest =>
    if c = 'Z' ∨ c = 'z' then some rest
    else if c = '+' ∨ c = '-' then do
      let (_, rest) ← clock? 2 0 23 rest
      let (_, rest) ← clock? 2 0 59 (← mark? ':' rest)
      return rest
    else none

def isTimed (cs : List Char) : Bool := (time? cs).bind zone? == some []

def isMoment (cs : List Char) : Bool :=
  match date? cs with
  | some [] => true
  | some (c :: rest) => (c == 'T' || c == 't') && isTimed rest
  | none => time? cs == some []

/-- Digits of a base; a single underscore may stand between two digits. -/
def digitsOf? (isDigit : Char → Bool) : List Char → Option (List Char)
  | [] => none
  | [c] => if isDigit c then some [c] else none
  | c :: '_' :: rest => if isDigit c then (digitsOf? isDigit rest).map (c :: ·) else none
  | c :: rest => if isDigit c then (digitsOf? isDigit rest).map (c :: ·) else none

def digitValue (c : Char) : Nat :=
  let n := c.toNat
  if n < 58 then n - 48 else if n < 91 then n - 55 else n - 87

def isHexDigit (c : Char) : Bool :=
  Decimal.isDigit c || 'a' ≤ c && c ≤ 'f' || 'A' ≤ c && c ≤ 'F'

def radix? (base : Nat) (isDigit : Char → Bool) (cs : List Char) : Option Nat :=
  (digitsOf? isDigit cs).map fun digits => digits.foldl (fun n c => base * n + digitValue c) 0

/-- Without a leading zero, unless it is zero. -/
def decimal? (cs : List Char) : Option (List Char) :=
  match cs with
  | '0' :: _ :: _ => none
  | cs => digitsOf? Decimal.isDigit cs

def signed : List Char → Bool × List Char
  | '-' :: rest => (true, rest)
  | '+' :: rest => (false, rest)
  | cs => (false, cs)

/-- An integer of 64 bits; only decimal ones have a sign. -/
def integer? (cs : List Char) : Option Int64 :=
  let read : Option Int := match cs with
    | '0' :: 'x' :: rest => (radix? 16 isHexDigit rest).map Int.ofNat
    | '0' :: 'o' :: rest => (radix? 8 (fun c => '0' ≤ c && c ≤ '7') rest).map Int.ofNat
    | '0' :: 'b' :: rest => (radix? 2 (fun c => c == '0' || c == '1') rest).map Int.ofNat
    | cs =>
      let (negative, digits) := signed cs
      (decimal? digits).map fun digits =>
        if negative then -(Decimal.value digits : Int) else (Decimal.value digits : Int)
  (read.filter fun i => Int64.minValue.toInt ≤ i ∧ i ≤ Int64.maxValue.toInt).map Int64.ofInt

/-- Is `digits` · 10 ^ `shift` beyond the largest floating-point number? Its 309 digits decide
without much arithmetic unless the number has as many. -/
def isHuge (digits : List Char) (shift : Int) : Bool :=
  let n := Decimal.value digits
  let limit := Nat.pow 2 1024 - Nat.pow 2 970
  let size := shift + (digits.dropWhile (· == '0')).length
  if n = 0 ∨ size < 309 then false
  else if 309 < size then true
  else if 0 ≤ shift then limit ≤ n * Nat.pow 10 shift.toNat
  else limit * Nat.pow 10 (-shift).toNat ≤ n

/-- A number with a fraction, an exponent or both, or one of the words for what is not finite. Unless
`huge` ones may be read, a positive number must be finite. -/
def isFloat (huge : Bool) (cs : List Char) : Bool :=
  let (negative, body) := signed cs
  if body = ['i', 'n', 'f'] ∨ body = ['n', 'a', 'n'] then true
  else
    let isExponentMark (c : Char) : Bool := c == 'e' || c == 'E'
    let front := body.takeWhile fun c => !isExponentMark c
    let whole := front.takeWhile (· != '.')
    let places := (front.dropWhile (· != '.')).drop 1
    let pointed := front.contains '.'
    let exponent : Option Int := match body.dropWhile fun c => !isExponentMark c with
      | [] => if pointed then some 0 else none
      | _ :: power =>
        let (down, digits) := signed power
        (digitsOf? Decimal.isDigit digits).map fun digits =>
          if down then -(Decimal.value digits : Int) else (Decimal.value digits : Int)
    match decimal? whole, exponent, pointed, digitsOf? Decimal.isDigit places with
    | some whole, some exponent, true, some places =>
      huge || negative || !isHuge (whole ++ places) (exponent - places.length)
    | some whole, some exponent, false, _ => huge || negative || !isHuge whole exponent
    | _, _, _, _ => false

end TokenClient.Toml
