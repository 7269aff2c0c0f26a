import TokenClient.Hex

/-! Percent-encoding of the characters that a part of a URL must not hold. -/
namespace TokenClient.Url

def isControl (c : Char) : Bool := c.toNat < 32 || 126 < c.toNat

def inFragmentSet (c : Char) : Bool := isControl c || [' ', '"', '<', '>', '\x60'].contains c

def inQuerySet (c : Char) : Bool := isControl c || [' ', '"', '#', '<', '>'].contains c

def inSpecialQuerySet (c : Char) : Bool := inQuerySet c || c == '\''

def inPathSet (c : Char) : Bool := inFragmentSet c || ['#', '?', '{', '}'].contains c

def inUserSet (c : Char) : Bool :=
  inPathSet c || ['/', ':', ';', '=', '@', '[', '\\', ']', '^', '|'].contains c

def encodeByte (byte : UInt8) : List Char :=
  '%' :: (Hex.fixed 2 byte.toNat).map Char.toUpper

def encodeChar (escape : Char → Bool) (c : Char) : List Char :=
  if escape c then (Bytes.ofString (String.singleton c)).flatMap encodeByte else [c]

def encode (escape : Char → Bool) (cs : List Char) : List Char := cs.flatMap (encodeChar escape)

/-- Undoes the encoding; a percent sign without two digits stands for itself. -/
def decode : Bytes → Bytes
  | 0x25 :: high :: low :: rest =>
    match Hex.value? high, Hex.value? low with
    | some a, some b => UInt8.ofNat (16 * a + b) :: decode rest
    | _, _ => 0x25 :: decode (high :: low :: rest)
  | byte :: rest => byte :: decode rest
  | [] => []

end TokenClient.Url
