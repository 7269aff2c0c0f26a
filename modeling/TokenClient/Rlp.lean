import TokenClient.Bytes

/-! The recursive length encoding of transactions: byte strings and lists of items. -/
namespace TokenClient.Rlp

inductive Item where
  | bytes (content : Bytes)
  | list (items : List Item)

/-- The mark in front of `size` bytes of content. `base` is `0x80` for bytes and `0xc0` for lists. -/
def mark (base : UInt8) (size : Nat) : Bytes :=
  if size < 56 then [base + UInt8.ofNat size]
  else
    let digits := Bytes.minimal size
    (base + 55 + UInt8.ofNat digits.length) :: digits

mutual

def Item.encode : Item → Bytes
  | .bytes content =>
    match content with
    | [byte] => if byte < 0x80 then [byte] else [0x81, byte]
    | _ => mark 0x80 content.length ++ content
  | .list items =>
    let content := encodeAll items
    mark 0xc0 content.length ++ content

def encodeAll : List Item → Bytes
  | [] => []
  | item :: rest => item.encode ++ encodeAll rest

end

/-- A number is its shortest spelling, so zero is the empty string. -/
def Item.number (n : Nat) : Item := .bytes (Bytes.minimal n)

end TokenClient.Rlp
