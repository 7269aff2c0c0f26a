import TokenClient.Json.Value
import TokenClient.Decimal

/-! Reading JSON texts. A reader takes what it reads off the front of the text and gives back the
rest. Nesting is bounded by the length of the text. -/
namespace TokenClient.Json

def isBlank (c : Char) : Bool := c == ' ' || c == '\t' || c == '\n' || c == '\r'

def skipBlanks (cs : List Char) : List Char := cs.dropWhile isBlank

def word? : (word text : List Char) → Option (List Char)
  | [], rest => some rest
  | w :: word, c :: rest => if w = c then word? word rest else none
  | _ :: _, [] => none

def digits? (cs : List Char) : Option (List Char × List Char) :=
  let run := cs.takeWhile Decimal.isDigit
  if run = [] then none else some (run, cs.dropWhile Decimal.isDigit)

def whole? : List Char → Option (List Char × List Char)
  | '0' :: rest => some (['0'], rest)
  | cs => digits? cs

def fraction? : List Char → Option (List Char × List Char)
  | '.' :: rest => (digits? rest).map fun (run, rest) => ('.' :: run, rest)
  | cs => some ([], cs)

def exponent? : List Char → Option (List Char × List Char)
  | c :: rest =>
    if c = 'e' ∨ c = 'E' then
      match rest with
      | '+' :: more => (digits? more).map fun (run, rest) => (c :: '+' :: run, rest)
      | '-' :: more => (digits? more).map fun (run, rest) => (c :: '-' :: run, rest)
      | more => (digits? more).map fun (run, rest) => (c :: run, rest)
    else some ([], c :: rest)
  | [] => some ([], [])

def number? (cs : List Char) : Option (Json × List Char) := do
  let (sign, cs) := match cs with
    | '-' :: rest => (['-'], rest)
    | cs => ([], cs)
  let (whole, cs) ← whole? cs
  let (fraction, cs) ← fraction? cs
  let (exponent, cs) ← exponent? cs
  return (.number (String.ofList (sign ++ whole ++ fraction ++ exponent)), cs)

def unit? : List Char → Option (Nat × List Char)
  | a :: b :: c :: d :: rest => do
    let digit (c : Char) : Option Nat := if c.toNat < 128 then Hex.value? (UInt8.ofNat c.toNat) else none
    return (((← digit a) * 16 + (← digit b)) * 256 + (← digit c) * 16 + (← digit d), rest)
  | _ => none

def escape? : List Char → Option (Char × List Char)
  | '"' :: rest => some ('"', rest)
  | '\\' :: rest => some ('\\', rest)
  | '/' :: rest => some ('/', rest)
  | 'b' :: rest => some ('\x08', rest)
  | 'f' :: rest => some ('\x0c', rest)
  | 'n' :: rest => some ('\n', rest)
  | 'r' :: rest => some ('\r', rest)
  | 't' :: rest => some ('\t', rest)
  | 'u' :: rest =>
    match unit? rest with
    | some (high, '\\' :: 'u' :: more) =>
      if 0xd800 ≤ high ∧ high < 0xdc00 then
        match unit? more with
        | some (low, rest) =>
          if 0xdc00 ≤ low ∧ low < 0xe000 then
            some (Char.ofNat (0x10000 + (high - 0xd800) * 0x400 + (low - 0xdc00)), rest)
          else none
        | none => none
      else if 0xdc00 ≤ high ∧ high < 0xe000 then none
      else some (Char.ofNat high, '\\' :: 'u' :: more)
    | some (code, rest) =>
      if 0xd800 ≤ code ∧ code < 0xe000 then none else some (Char.ofNat code, rest)
    | none => none
  | _ => none

def string? : (fuel : Nat) → List Char → Option (List Char × List Char)
  | 0, _ => none
  | _, [] => none
  | fuel + 1, c :: rest =>
    if c = '"' then some ([], rest)
    else if c = '\\' then do
      let (d, rest) ← escape? rest
      let (ds, rest) ← string? fuel rest
      return (d :: ds, rest)
    else if c.toNat < 32 then none
    else do
      let (ds, rest) ← string? fuel rest
      return (c :: ds, rest)

mutual

def value? : (fuel : Nat) → List Char → Option (Json × List Char)
  | 0, _ => none
  | fuel + 1, cs =>
    match skipBlanks cs with
    | 'n' :: rest => (word? ['u', 'l', 'l'] rest).map (.null, ·)
    | 't' :: rest => (word? ['r', 'u', 'e'] rest).map (.boolean true, ·)
    | 'f' :: rest => (word? ['a', 'l', 's', 'e'] rest).map (.boolean false, ·)
    | '"' :: rest => (string? fuel rest).map fun (s, rest) => (.string (String.ofList s), rest)
    | '[' :: rest =>
      match skipBlanks rest with
      | ']' :: rest => some (.array [], rest)
      | rest => (items? fuel rest).map fun (items, rest) => (.array items, rest)
    | '{' :: rest =>
      match skipBlanks rest with
      | '}' :: rest => some (.object [], rest)
      | rest => (members? fuel rest).map fun (members, rest) => (.object members, rest)
    | cs => number? cs

def items? : (fuel : Nat) → List Char → Option (List Json × List Char)
  | 0, _ => none
  | fuel + 1, cs => do
    let (item, rest) ← value? fuel cs
    match skipBlanks rest with
    | ',' :: rest =>
      let (items, rest) ← items? fuel rest
      return (item :: items, rest)
    | ']' :: rest => return ([item], rest)
    | _ => none

def members? : (fuel : Nat) → List Char → Option (List (String × Json) × List Char)
  | 0, _ => none
  | fuel + 1, cs =>
    match skipBlanks cs with
    | '"' :: rest => do
      let (key, rest) ← string? fuel rest
      match skipBlanks rest with
      | ':' :: rest =>
        let (value, rest) ← value? fuel rest
        let member := (String.ofList key, value)
        match skipBlanks rest with
        | ',' :: rest =>
          let (members, rest) ← members? fuel rest
          return (member :: members, rest)
        | '}' :: rest => return ([member], rest)
        | _ => none
      | _ => none
    | _ => none

end

def parse? (text : String) : Option Json :=
  match value? (text.length + 1) text.toList with
  | some (value, rest) => if skipBlanks rest = [] then some value else none
  | none => none

/-- The members of an object, each with its value as it was spelled. -/
def spelledMembers? : (fuel : Nat) → List Char → Option (List (String × String) × List Char)
  | 0, _ => none
  | fuel + 1, cs =>
    match skipBlanks cs with
    | '"' :: rest => do
      let (key, rest) ← string? fuel rest
      match skipBlanks rest with
      | ':' :: rest =>
        let start := skipBlanks rest
        let (_, rest) ← value? fuel start
        let member := (String.ofList key, String.ofList (start.take (start.length - rest.length)))
        match skipBlanks rest with
        | ',' :: rest =>
          let (members, rest) ← spelledMembers? fuel rest
          return (member :: members, rest)
        | '}' :: rest => return ([member], rest)
        | _ => none
      | _ => none
    | _ => none

def spelledObject? (text : String) : Option (List (String × String)) :=
  match skipBlanks text.toList with
  | '{' :: rest =>
    match skipBlanks rest with
    | '}' :: rest => if skipBlanks rest = [] then some [] else none
    | rest =>
      match spelledMembers? (text.length + 1) rest with
      | some (members, rest) => if skipBlanks rest = [] then some members else none
      | none => none
  | _ => none

end TokenClient.Json
