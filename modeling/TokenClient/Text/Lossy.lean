import TokenClient.Bytes

/-! UTF-8 read from bytes that need not be valid: each longest run that begins a character and
does not complete it becomes one replacement character. -/
namespace TokenClient.Text

def isContinuation (byte : UInt8) : Bool := 0x80 ≤ byte && byte ≤ 0xbf

/-- May the byte follow the first byte of a character of three bytes? -/
def isSecondOfThree (first byte : UInt8) : Bool :=
  if first = 0xe0 then 0xa0 ≤ byte && byte ≤ 0xbf
  else if first = 0xed then 0x80 ≤ byte && byte ≤ 0x9f
  else isContinuation byte

/-- May the byte follow the first byte of a character of four bytes? -/
def isSecondOfFour (first byte : UInt8) : Bool :=
  if first = 0xf0 then 0x90 ≤ byte && byte ≤ 0xbf
  else if first = 0xf4 then 0x80 ≤ byte && byte ≤ 0x8f
  else isContinuation byte

def replacement : Char := '\ufffd'

def assemble (first : UInt8) (more : List UInt8) : Char :=
  let lead := if first < 0xe0 then first.toNat - 0xc0
    else if first < 0xf0 then first.toNat - 0xe0 else first.toNat - 0xf0
  Char.ofNat (more.foldl (fun n byte => n * 64 + (byte.toNat - 0x80)) lead)

def lossy : Bytes → List Char
  | [] => []
  | a :: afterA =>
    if a < 0x80 then Char.ofNat a.toNat :: lossy afterA
    else if 0xc2 ≤ a ∧ a ≤ 0xdf then
      match afterA with
      | [] => [replacement]
      | b :: afterB =>
        if isContinuation b then assemble a [b] :: lossy afterB
        else replacement :: lossy (b :: afterB)
    else if 0xe0 ≤ a ∧ a ≤ 0xef then
      match afterA with
      | [] => [replacement]
      | b :: afterB =>
        if isSecondOfThree a b then
          match afterB with
          | [] => [replacement]
          | c :: afterC =>
            if isContinuation c then assemble a [b, c] :: lossy afterC
            else replacement :: lossy (c :: afterC)
        else replacement :: lossy (b :: afterB)
    else if 0xf0 ≤ a ∧ a ≤ 0xf4 then
      match afterA with
      | [] => [replacement]
      | b :: afterB =>
        if isSecondOfFour a b then
          match afterB with
          | [] => [replacement]
          | c :: afterC =>
            if isContinuation c then
              match afterC with
              | [] => [replacement]
              | d :: afterD =>
                if isContinuation d then assemble a [b, c, d] :: lossy afterD
                else replacement :: lossy (d :: afterD)
            else replacement :: lossy (c :: afterC)
        else replacement :: lossy (b :: afterB)
    else replacement :: lossy afterA

end TokenClient.Text
