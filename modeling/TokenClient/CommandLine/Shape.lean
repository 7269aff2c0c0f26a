import TokenClient.CommandLine.Basic
import TokenClient.Decimal

/-! The grammar of arguments: each level of commands has positional values, options and flags, or
further commands. A value is checked only when the next argument shows that it is complete, so a
fault in a later command comes first. -/
namespace TokenClient.CommandLine

inductive ValueKind where
  | text
  | number
  /-- A text that must not be empty. -/
  | path
  deriving DecidableEq, Repr

inductive Shape where
  | mk (positionals : Nat) (options : List (String × ValueKind)) (flags : List String)
    (hasVersion : Bool) (branches : List (String × Shape))

namespace Shape

def positionals : Shape → Nat
  | mk n _ _ _ _ => n

def options : Shape → List (String × ValueKind)
  | mk _ options _ _ _ => options

def flags : Shape → List String
  | mk _ _ flags _ _ => flags

def hasVersion : Shape → Bool
  | mk _ _ _ version _ => version

def branches : Shape → List (String × Shape)
  | mk _ _ _ _ branches => branches

/-- The level behind a word. The word `help` is one where there are commands to ask about. -/
def branch? (shape : Shape) (word : String) : Option Shape := shape.branches.lookup word

def hasBranch (shape : Shape) (word : String) : Bool :=
  (shape.branch? word).isSome || word == "help" && !shape.branches.isEmpty

end Shape

/-- Digits of a number of 64 bits, perhaps behind a plus sign. -/
def number? (text : String) : Option Nat :=
  let digits := match text.toList with
    | '+' :: rest => rest
    | cs => cs
  if digits ≠ [] ∧ digits.all Decimal.isDigit ∧ Decimal.value digits < UInt64.size then
    some (Decimal.value digits)
  else none

def ValueKind.check (kind : ValueKind) (value : String) : Except UsageFault Unit :=
  match kind with
  | .text => .ok ()
  | .number => if (number? value).isSome then .ok () else .error .badValue
  | .path => if value = "" then .error .noValue else .ok ()

structure Given where
  values : List String
  options : List (String × String)
  flags : List String
  deriving DecidableEq, Repr

/-- What all levels have been given, and the words that lead from each to the next. -/
inductive Matches where
  | leaf (given : Given)
  | node (given : Given) (word : String) (inner : Matches)

/-- The state of one level: an option may still wait for its value, or for being checked. -/
structure Scan where
  given : Given
  pending : Option (String × Option String)
  trailing : Bool

namespace Scan

def start : Scan := ⟨⟨[], [], []⟩, none, false⟩

def accept (given : Given) (shape : Shape) (name value : String) : Except UsageFault Given := do
  if (given.options.lookup name).isSome then throw .repeated
  ((shape.options.lookup name).getD .text).check value
  return { given with options := given.options ++ [(name, value)] }

def settle (scan : Scan) (shape : Shape) : Except UsageFault Scan :=
  match scan.pending with
  | none => .ok scan
  | some (_, none) => .error .noValue
  | some (name, some value) =>
    (accept scan.given shape name value).map fun given => { scan with given, pending := none }

/-- Is the next argument the value of an option? -/
def expectsValue (scan : Scan) : Bool :=
  match scan.pending with
  | some (_, none) => true
  | _ => false

def positional (scan : Scan) (shape : Shape) (arg : String) : Except UsageFault Scan :=
  if scan.given.values.length < shape.positionals then do
    let scan ← scan.settle shape
    return { scan with given := { scan.given with values := scan.given.values ++ [arg] } }
  else if scan.trailing ∧ shape.hasBranch arg then .error .unknownArgument
  else if shape.branches.isEmpty then .error .unknownArgument
  else .error .unknownSubcommand

def splitEquals (cs : List Char) : List Char × Option (List Char) :=
  match cs.dropWhile (· != '=') with
  | _ :: value => (cs.takeWhile (· != '='), some value)
  | [] => (cs, none)

/-- An argument that begins with two dashes and has more behind them. -/
def long (scan : Scan) (shape : Shape) (body : List Char) : Except UsageFault Scan :=
  let (name, value) := splitEquals body
  let name := String.ofList name
  if (shape.options.lookup name).isSome then
    match value with
    | some value => do
      let scan ← scan.settle shape
      return { scan with given := ← accept scan.given shape name (String.ofList value) }
    | none => do
      let scan ← scan.settle shape
      return { scan with pending := some (name, none) }
  else
    let isHelp := name = "help"
    let isVersion := name = "version" ∧ shape.hasVersion
    if isHelp ∨ isVersion ∨ name ∈ shape.flags then
      if value.isSome then .error .unwantedValue
      else do
        let scan ← scan.settle shape
        if isHelp then throw .help
        if isVersion then throw .version
        if name ∈ scan.given.flags then throw .repeated
        return { scan with given := { scan.given with flags := scan.given.flags ++ [name] } }
    else .error .unknownArgument

def short (scan : Scan) (shape : Shape) (first : Char) : Except UsageFault Scan :=
  if first = 'h' then do
    let _ ← scan.settle shape
    throw .help
  else if first = 'V' ∧ shape.hasVersion then do
    let _ ← scan.settle shape
    throw .version
  else .error .unknownArgument

def step (scan : Scan) (shape : Shape) (arg : String) : Except UsageFault Scan :=
  if scan.trailing then scan.positional shape arg
  else
    match arg.toList with
    | ['-', '-'] => .ok { scan with trailing := true }
    | '-' :: '-' :: body => scan.long shape body
    | '-' :: first :: _ => scan.short shape first
    | _ =>
      match scan.pending with
      | some (name, none) => .ok { scan with pending := some (name, some arg) }
      | _ => scan.positional shape arg

def finish (scan : Scan) (shape : Shape) (inner : Option (String × Matches)) :
    Except UsageFault Matches := do
  let scan ← scan.settle shape
  match inner with
  | some (word, inner) => return .node scan.given word inner
  | none =>
    if !shape.branches.isEmpty then
      let nothing := scan.given.options.isEmpty && scan.given.flags.isEmpty
      throw (if nothing then .nothingGiven else .missingSubcommand)
    if scan.given.values.length < shape.positionals then throw .missingArgument
    return .leaf scan.given

end Scan

/-- Help on a command: each further word must lead on. -/
def explain : Shape → List String → UsageFault
  | _, [] => .help
  | shape, word :: rest =>
    match shape.branch? word with
    | some inner => explain inner rest
    | none =>
      if word = "help" ∧ !shape.branches.isEmpty then
        if rest.isEmpty then .help else .unknownSubcommand
      else .unknownSubcommand

def scan (shape : Shape) (state : Scan) : List String → Except UsageFault Matches
  | [] => state.finish shape none
  | arg :: rest =>
    if !state.trailing && !state.expectsValue && shape.hasBranch arg then
      match shape.branch? arg with
      | none => .error (explain shape rest)
      | some inner => do
        let found ← scan inner .start rest
        state.finish shape (some (arg, found))
    else do
      let state ← state.step shape arg
      scan shape state rest

end TokenClient.CommandLine
