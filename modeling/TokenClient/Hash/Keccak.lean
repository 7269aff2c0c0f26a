import TokenClient.Bytes

/-! The Keccak hash with 256 bits of output, as the chain uses it: a sponge of rate 136 bytes
whose padding opens with `0x01`. -/
namespace TokenClient.Keccak

/-- Lane (x, y) of the sponge stands at place x + 5 y. -/
abbrev State := Vector UInt64 25

/-- Where the lane at a place is taken from, and by how much it is turned to the left. -/
def source : List (Nat × UInt64) :=
  [(0, 0), (6, 44), (12, 43), (18, 21), (24, 14),
   (3, 28), (9, 20), (10, 3), (16, 45), (22, 61),
   (1, 1), (7, 6), (13, 25), (19, 8), (20, 18),
   (4, 27), (5, 36), (11, 10), (17, 15), (23, 56),
   (2, 62), (8, 55), (14, 39), (15, 41), (21, 2)]

def roundConstants : List UInt64 :=
  [0x0000000000000001, 0x0000000000008082, 0x800000000000808a, 0x8000000080008000,
   0x000000000000808b, 0x0000000080000001, 0x8000000080008081, 0x8000000000008009,
   0x000000000000008a, 0x0000000000000088, 0x0000000080008009, 0x000000008000000a,
   0x000000008000808b, 0x800000000000008b, 0x8000000000008089, 0x8000000000008003,
   0x8000000000008002, 0x8000000000000080, 0x000000000000800a, 0x800000008000000a,
   0x8000000080008081, 0x8000000000008080, 0x0000000080000001, 0x8000000080008008]

def turn (lane amount : UInt64) : UInt64 :=
  if amount = 0 then lane else lane <<< amount ||| lane >>> (64 - amount)

/-- Each lane takes in the parity of its two neighbour columns. -/
def theta (s : State) : State :=
  let parity : Vector UInt64 5 := Vector.ofFn fun x =>
    s[x.val] ^^^ s[x.val + 5] ^^^ s[x.val + 10] ^^^ s[x.val + 15] ^^^ s[x.val + 20]
  Vector.ofFn fun i =>
    s[i.val] ^^^ parity[(i.val + 4) % 5] ^^^ turn parity[(i.val + 1) % 5] 1

def shuffle (s : State) : State :=
  Vector.ofFn fun i =>
    let (place, amount) := source[i.val]?.getD (0, 0)
    turn (s[place]?.getD 0) amount

/-- Each lane mixes with the two lanes after it in its row. -/
def chi (s : State) : State :=
  Vector.ofFn fun i =>
    let row := i.val / 5 * 5
    s[i.val] ^^^ (~~~ s[row + (i.val + 1) % 5] &&& s[row + (i.val + 2) % 5])

def round (s : State) (constant : UInt64) : State :=
  let mixed := chi (shuffle (theta s))
  mixed.set 0 (mixed[0] ^^^ constant)

def permute (s : State) : State := roundConstants.foldl round s

/-- Lanes are spelled with the least significant byte first. -/
def laneOf (bytes : Bytes) : UInt64 := UInt64.ofNat (Bytes.toNat bytes.reverse)

def absorb (s : State) (block : Bytes) : State :=
  let lanes := (block.pieces 8).map laneOf
  permute (Vector.ofFn fun i => s[i.val] ^^^ (lanes[i.val]?.getD 0))

/-- Fills up to a whole number of blocks: a one bit, zeros, and a one bit at the very end. -/
def pad (message : Bytes) : Bytes :=
  let missing := 136 - message.length % 136
  if missing = 1 then message ++ [0x81]
  else message ++ 0x01 :: (List.replicate (missing - 2) 0 ++ [0x80])

def hash (message : Bytes) : Bytes :=
  let final := ((pad message).pieces 136).foldl absorb (Vector.replicate 25 0)
  (final.toList.take 4).flatMap fun lane => (Bytes.ofNat 8 lane.toNat).reverse

end TokenClient.Keccak
