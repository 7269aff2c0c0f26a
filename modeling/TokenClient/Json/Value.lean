import TokenClient.Hex

/-! JSON values and their compact text. -/
namespace TokenClient

/-- Numbers keep the spelling they came with. -/
inductive Json where
  | null
  | boolean (value : Bool)
  | number (spelling : String)
  | string (value : String)
  | array (items : List Json)
  | object (members : List (String × Json))
  deriving Inhabited

namespace Json

def hex4 (c : Char) : List Char := Hex.fixed 4 c.toNat

def escaped (c : Char) : List Char :=
  if c = '"' ∨ c = '\\' then ['\\', c]
  else if c = '\x08' then ['\\', 'b']
  else if c = '\t' then ['\\', 't']
  else if c = '\n' then ['\\', 'n']
  else if c = '\x0c' then ['\\', 'f']
  else if c = '\r' then ['\\', 'r']
  else if c.toNat < 32 then '\\' :: 'u' :: hex4 c
  else [c]

def quoted (s : String) : List Char := '"' :: (s.toList.flatMap escaped ++ ['"'])

mutual

def chars : Json → List Char
  | .null => "null".toList
  | .boolean true => "true".toList
  | .boolean false => "false".toList
  | .number spelling => spelling.toList
  | .string value => quoted value
  | .array items => '[' :: (itemChars items ++ [']'])
  | .object members => '{' :: (memberChars members ++ ['}'])

def itemChars : List Json → List Char
  | [] => []
  | [item] => item.chars
  | item :: rest => item.chars ++ ',' :: itemChars rest

def memberChars : List (String × Json) → List Char
  | [] => []
  | [(key, value)] => quoted key ++ ':' :: value.chars
  | (key, value) :: rest => quoted key ++ ':' :: (value.chars ++ ',' :: memberChars rest)

end

def compact (value : Json) : String := String.ofList value.chars

/-- The members of an object in which none of the given keys stands twice, as a look-up. -/
def record? (known : List String) : Json → Option (String → Option Json)
  | .object members =>
    if known.all fun key => members.countP (·.1 == key) ≤ 1 then some fun key => members.lookup key
    else none
  | _ => none

end Json
end TokenClient
