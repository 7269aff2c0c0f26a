import TokenClient.Hex

/-! Written forms of strings. Each string gets the first form that can hold it as it is; only where
none can, characters are escaped. -/
namespace TokenClient.Toml

/-- Control characters that no form holds unescaped. Tab and newline are not among them. -/
def isControl (c : Char) : Bool := c.toNat < 32 && c != '\t' && c != '\n' || c.toNat == 127

def longestRun (mark : Char) (cs : List Char) : Nat :=
  (cs.foldl (fun (run, best) c =>
    let run := if c = mark then run + 1 else 0
    (run, max run best)) (0, 0)).2

def unicodeEscape (c : Char) : List Char :=
  '\\' :: 'u' :: (Hex.fixed 4 c.toNat).map Char.toUpper

def escapePlain (c : Char) : List Char :=
  if c = '\\' then ['\\', '\\']
  else if c = '\x08' then ['\\', 'b']
  else if c = '\t' then ['\\', 't']
  else if c = '\x0c' then ['\\', 'f']
  else if c = '\r' then ['\\', 'r']
  else if isControl c then unicodeEscape c
  else [c]

def escapeLine : List Char → List Char
  | [] => []
  | c :: rest =>
    (if c = '"' then ['\\', '"'] else if c = '\n' then ['\\', 'n'] else escapePlain c) ++
      escapeLine rest

/-- Every third quote in a row is escaped. `run` counts the quotes just before. -/
def escapeLines (run : Nat) : List Char → List Char
  | [] => []
  | c :: rest =>
    if c = '"' then
      if run = 2 then '\\' :: '"' :: escapeLines 0 rest else '"' :: escapeLines (run + 1) rest
    else if c = '\n' then '\n' :: escapeLines 0 rest
    else escapePlain c ++ escapeLines 0 rest

def basic (cs : List Char) : List Char := '"' :: (escapeLine cs ++ ['"'])

def literal (cs : List Char) : List Char := '\'' :: (cs ++ ['\''])

/-- A newline right after the opening quotes does not count, so one is put there where the string
has newlines. -/
def opening (cs : List Char) : List Char := if cs.contains '\n' then ['\n'] else []

def longBasic (cs : List Char) : List Char :=
  ['"', '"', '"'] ++ opening cs ++ escapeLines 0 cs ++ ['"', '"', '"']

def longLiteral (cs : List Char) : List Char :=
  ['\'', '\'', '\''] ++ opening cs ++ cs ++ ['\'', '\'', '\'']

def quoted (cs : List Char) : List Char :=
  let control := cs.any isControl
  let newline := cs.contains '\n'
  if !control && !cs.contains '\\' && !cs.contains '"' && !newline then basic cs
  else if !control && !cs.contains '\'' && !newline then literal cs
  else if !control && !cs.contains '\\' && longestRun '"' cs < 3 then longBasic cs
  else if !control && longestRun '\'' cs < 3 then longLiteral cs
  else if newline then longBasic cs
  else basic cs

end TokenClient.Toml
