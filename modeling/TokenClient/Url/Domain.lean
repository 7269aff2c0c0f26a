import TokenClient.Idna.Label

/-! Domain names in the form that goes over the wire. -/
namespace TokenClient.Url.Domain

def isForbidden (c : Char) : Bool :=
  c.toNat < 33 || c.toNat == 127 ||
    ['%', '#', '/', ':', '<', '>', '?', '@', '[', '\\', ']', '^', '|'].contains c

def ascii? (bytes : Bytes) : Option (List Char) := do
  let text ← String.fromUTF8? (ByteArray.mk bytes.toArray)
  (Idna.ascii? text.toList).filter fun cs => !cs.any isForbidden

end TokenClient.Url.Domain
