import TokenClient.Toml.Value
import TokenClient.Toml.Moment

/-! Reading TOML documents. A reader takes what it reads off the front of the text and gives back
the rest; `fuel` bounds the steps by the length of the text. -/
namespace TokenClient.Toml

def isBlank (c : Char) : Bool := c == ' ' || c == '\t'

def skipBlanks (cs : List Char) : List Char := cs.dropWhile isBlank

def newline? : List Char → Option (List Char)
  | '\n' :: rest => some rest
  | '\r' :: '\n' :: rest => some rest
  | _ => none

/-- Tab, and everything that is no control character. -/
def isPlain (c : Char) : Bool := c == '\t' || 32 ≤ c.toNat && c.toNat != 127

def skipComment : List Char → List Char
  | '#' :: rest => rest.dropWhile isPlain
  | cs => cs

def skipLines : (fuel : Nat) → List Char → List Char
  | 0, cs => cs
  | fuel + 1, cs =>
    let cs := skipBlanks cs
    let after := skipComment cs
    match newline? after with
    | some rest => skipLines fuel rest
    | none => if after.length < cs.length then after else cs

def scalar? (size : Nat) (cs : List Char) : Option (Char × List Char) :=
  let digits := cs.take size
  let code := digits.foldl (fun n c => 16 * n + digitValue c) 0
  if digits.length = size ∧ digits.all isHexDigit ∧ code.isValidChar then
    some (Char.ofNat code, cs.drop size)
  else none

def escape? : List Char → Option (Char × List Char)
  | 'b' :: rest => some ('\x08', rest)
  | 't' :: rest => some ('\t', rest)
  | 'n' :: rest => some ('\n', rest)
  | 'f' :: rest => some ('\x0c', rest)
  | 'r' :: rest => some ('\r', rest)
  | '"' :: rest => some ('"', rest)
  | '\\' :: rest => some ('\\', rest)
  | 'u' :: rest => scalar? 4 rest
  | 'U' :: rest => scalar? 8 rest
  | _ => none

def basicBody? : (fuel : Nat) → List Char → Option (List Char × List Char)
  | 0, _ => none
  | _, [] => none
  | fuel + 1, c :: rest =>
    if c = '"' then some ([], rest)
    else if c = '\\' then do
      let (d, rest) ← escape? rest
      let (ds, rest) ← basicBody? fuel rest
      return (d :: ds, rest)
    else if isPlain c then do
      let (ds, rest) ← basicBody? fuel rest
      return (c :: ds, rest)
    else none

def literalBody? : List Char → Option (List Char × List Char)
  | [] => none
  | c :: rest =>
    if c = '\'' then some ([], rest)
    else if isPlain c then do
      let (ds, rest) ← literalBody? rest
      return (c :: ds, rest)
    else none

/-- At a run of quotes in a long string: up to two belong to the string, three end it, and of up to
five the last three end it. Gives the quotes that belong to the string, whether it ends, and the
rest. -/
def quoteRun? (quote : Char) (cs : List Char) : Option (List Char × Bool × List Char) :=
  let run := cs.takeWhile (· == quote)
  let rest := cs.dropWhile (· == quote)
  if run.length < 3 then some (run, false, rest)
  else if run.length < 6 then some (run.drop 3, true, rest)
  else none

def skipSpace : List Char → List Char
  | '\r' :: '\n' :: rest => skipSpace rest
  | c :: rest => if isBlank c ∨ c = '\n' then skipSpace rest else c :: rest
  | [] => []

/-- After a backslash at the end of a line: the text from the next character that is neither blank
nor newline. -/
def joinLine? (cs : List Char) : Option (List Char) := (newline? (skipBlanks cs)).map skipSpace

def longBasicBody? : (fuel : Nat) → List Char → Option (List Char × List Char)
  | 0, _ => none
  | _, [] => none
  | fuel + 1, c :: rest =>
    if c = '"' then
      match quoteRun? '"' (c :: rest) with
      | none => none
      | some (quotes, true, rest) => some (quotes, rest)
      | some (quotes, false, rest) => do
        let (ds, rest) ← longBasicBody? fuel rest
        return (quotes ++ ds, rest)
    else if c = '\\' then
      match joinLine? rest with
      | some rest => longBasicBody? fuel rest
      | none => do
        let (d, rest) ← escape? rest
        let (ds, rest) ← longBasicBody? fuel rest
        return (d :: ds, rest)
    else
      match newline? (c :: rest) with
      | some rest => do
        let (ds, rest) ← longBasicBody? fuel rest
        return ('\n' :: ds, rest)
      | none =>
        if isPlain c then do
          let (ds, rest) ← longBasicBody? fuel rest
          return (c :: ds, rest)
        else none

def longLiteralBody? : (fuel : Nat) → List Char → Option (List Char × List Char)
  | 0, _ => none
  | _, [] => none
  | fuel + 1, c :: rest =>
    if c = '\'' then
      match quoteRun? '\'' (c :: rest) with
      | none => none
      | some (quotes, true, rest) => some (quotes, rest)
      | some (quotes, false, rest) => do
        let (ds, rest) ← longLiteralBody? fuel rest
        return (quotes ++ ds, rest)
    else
      match newline? (c :: rest) with
      | some rest => do
        let (ds, rest) ← longLiteralBody? fuel rest
        return ('\n' :: ds, rest)
      | none =>
        if isPlain c then do
          let (ds, rest) ← longLiteralBody? fuel rest
          return (c :: ds, rest)
        else none

/-- A newline right after the opening quotes does not count. -/
def dropOpening (cs : List Char) : List Char := (newline? cs).getD cs

def string? (fuel : Nat) : List Char → Option (List Char × List Char)
  | '"' :: '"' :: '"' :: rest => longBasicBody? fuel (dropOpening rest)
  | '"' :: rest => basicBody? fuel rest
  | '\'' :: '\'' :: '\'' :: rest => longLiteralBody? fuel (dropOpening rest)
  | '\'' :: rest => literalBody? rest
  | _ => none

def isBare (c : Char) : Bool :=
  Decimal.isDigit c || 'a' ≤ c && c ≤ 'z' || 'A' ≤ c && c ≤ 'Z' || c == '_' || c == '-'

/-- One part of a key. Quoted parts stay on one line. -/
def keyPart? (fuel : Nat) : List Char → Option (String × List Char)
  | '"' :: rest => (basicBody? fuel rest).map fun (part, rest) => (String.ofList part, rest)
  | '\'' :: rest => (literalBody? rest).map fun (part, rest) => (String.ofList part, rest)
  | cs =>
    let part := cs.takeWhile isBare
    if part = [] then none else some (String.ofList part, cs.dropWhile isBare)

/-- What a reader takes of all that is well-formed: how deep values nest, how many parts a key has,
and whether numbers may be too large for a machine. -/
structure Limits where
  depth : Nat
  huge : Bool
  deriving DecidableEq, Repr

/-- Those of the reader that is used. -/
def Limits.strict : Limits := ⟨79, false⟩

def keyParts? : (fuel : Nat) → List Char → Option (List String × String × List Char)
  | 0, _ => none
  | fuel + 1, cs => do
    let (part, rest) ← keyPart? (fuel + 1) (skipBlanks cs)
    match skipBlanks rest with
    | '.' :: rest =>
      let (path, last, rest) ← keyParts? fuel rest
      return (part :: path, last, rest)
    | rest => return ([], part, rest)

/-- A dotted key: the parts before the last, the last, and what follows the blanks after it. -/
def key? (limits : Limits) (fuel : Nat) (cs : List Char) :
    Option (List String × String × List Char) :=
  (keyParts? fuel cs).filter fun (path, _, _) => path.length < limits.depth

def isWordChar (c : Char) : Bool := isBare c || c == '+' || c == '.' || c == ':'

/-- A number, a date or a word. A date may be followed by a blank and a time. -/
def word? (limits : Limits) (cs : List Char) : Option (Toml × List Char) :=
  let word := cs.takeWhile isWordChar
  let rest := cs.dropWhile isWordChar
  if word = "true".toList then some (.boolean true, rest)
  else if word = "false".toList then some (.boolean false, rest)
  else if isMoment word then
    match rest with
    | ' ' :: more =>
      let time := more.takeWhile isWordChar
      if date? word = some [] ∧ isTimed time then
        some (.moment (String.ofList (word ++ ' ' :: time)), more.dropWhile isWordChar)
      else some (.moment (String.ofList word), rest)
    | _ => some (.moment (String.ofList word), rest)
  else
    match integer? word with
    | some i => some (.integer i, rest)
    | none => if isFloat limits.huge word then some (.float (String.ofList word), rest) else none

mutual

/-- A value. `depth` is how many arrays and tables may still be entered. -/
def value? (limits : Limits) : (fuel depth : Nat) → List Char → Option (Toml × List Char)
  | 0, _, _ => none
  | fuel + 1, depth, cs =>
    match cs with
    | '"' :: _ | '\'' :: _ =>
      (string? fuel cs).map fun (chars, rest) => (.text (String.ofList chars), rest)
    | '[' :: rest =>
      match depth with
      | 0 => none
      | depth + 1 => (items? limits fuel depth rest).map fun (items, rest) => (.array items, rest)
    | '{' :: rest =>
      match depth with
      | 0 => none
      | depth + 1 =>
        match skipBlanks rest with
        | '}' :: rest => some (.table [], rest)
        | rest => do
          let (members, rest) ← pairs? limits fuel depth [] rest
          return (.table (Entry.finishMembers members), rest)
    | cs => word? limits cs

/-- The items of an array up to its closing bracket. A comma may follow the last one. -/
def items? (limits : Limits) : (fuel depth : Nat) → List Char → Option (List Toml × List Char)
  | 0, _, _ => none
  | fuel + 1, depth, cs =>
    match skipLines cs.length cs with
    | ']' :: rest => some ([], rest)
    | cs => do
      let (item, rest) ← value? limits fuel depth cs
      match skipLines rest.length rest with
      | ',' :: rest =>
        let (items, rest) ← items? limits fuel depth rest
        return (item :: items, rest)
      | ']' :: rest => return ([item], rest)
      | _ => none

def pairs? (limits : Limits) : (fuel depth : Nat) → Members → List Char →
    Option (Members × List Char)
  | 0, _, _, _ => none
  | fuel + 1, depth, members, cs => do
    let (path, key, rest) ← key? limits cs.length cs
    let rest ← mark? '=' rest
    let (content, rest) ← value? limits fuel depth (skipBlanks rest)
    let members ← members.assign true path key content
    match skipBlanks rest with
    | ',' :: rest => pairs? limits fuel depth members rest
    | '}' :: rest => return (members, rest)
    | _ => none

end

def endOfLine? (cs : List Char) : Option (List Char) :=
  match skipComment (skipBlanks cs) with
  | [] => some []
  | cs => newline? cs

/-- The line at the front of a text that does not begin with a blank, a comment or a newline. -/
def statement? (limits : Limits) (fuel : Nat) : List Char → Option (Statement × List Char)
  | '[' :: '[' :: rest => do
    let (path, key, rest) ← key? limits fuel rest
    let rest ← endOfLine? (← mark? ']' (← mark? ']' rest))
    return (.itemHeader path key, rest)
  | '[' :: rest => do
    let (path, key, rest) ← key? limits fuel rest
    let rest ← endOfLine? (← mark? ']' rest)
    return (.header path key, rest)
  | cs => do
    let (path, key, rest) ← key? limits fuel cs
    let (content, rest) ← value? limits fuel limits.depth (skipBlanks (← mark? '=' rest))
    let rest ← endOfLine? rest
    return (.assign path key content, rest)

def statements? (limits : Limits) : (fuel : Nat) → List Char → Option (List Statement)
  | 0, _ => none
  | fuel + 1, cs =>
    match skipLines cs.length cs with
    | [] => some []
    | cs => do
      let (statement, rest) ← statement? limits (cs.length + 1) cs
      return statement :: (← statements? limits fuel rest)

/-- The members of the table that a document stands for. A byte order mark may open it. -/
def read? (limits : Limits) (text : String) : Option (List (String × Toml)) := do
  let cs := match text.toList with
    | '\ufeff' :: rest => rest
    | cs => cs
  ofStatements? (← statements? limits (cs.length + 1) cs)

def parse? (text : String) : Option (List (String × Toml)) := read? .strict text

end TokenClient.Toml
