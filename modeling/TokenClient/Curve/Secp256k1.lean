/-! The curve y² = x³ + 7 over the field of `p` elements, and its group of prime order `n`.
Points are held in Jacobian coordinates, so only the last step divides. -/
namespace TokenClient.Secp256k1

def p : Nat := 0xfffffffffffffffffffffffffffffffffffffffffffffffffffffffefffffc2f

def n : Nat := 0xfffffffffffffffffffffffffffffffebaaedce6af48a03bbfd25e8cd0364141

/-- The bits of a number below 2 ^ 256, folded from the most significant to the least. -/
def foldBits {α : Type} (k : Nat) (start : α) (step : α → Bool → α) : α :=
  (List.range 256).foldr (fun i acc => step acc (k.testBit i)) start

def power (m base exponent : Nat) : Nat :=
  foldBits exponent 1 fun acc bit =>
    let square := acc * acc % m
    if bit then square * base % m else square

/-- The inverse modulo a prime, after Fermat. -/
def inverse (m a : Nat) : Nat := power m a (m - 2)

def subtract (a b : Nat) : Nat := (a + p - b) % p

/-- (x : y : z) stands for the affine point (x / z², y / z³), and for infinity where z is 0. -/
structure Point where
  x : Nat
  y : Nat
  z : Nat
  deriving DecidableEq, Repr

def infinity : Point := ⟨1, 1, 0⟩

def generator : Point :=
  ⟨0x79be667ef9dcbbac55a06295ce870b07029bfcdb2dce28d959f2815b16f81798,
   0x483ada7726a3c4655da4fbfc0e1108a8fd17b448a68554199c47d08ffb10d4b8, 1⟩

def Point.double (q : Point) : Point :=
  let y2 := q.y * q.y % p
  let s := 4 * q.x * y2 % p
  let m := 3 * q.x * q.x % p
  let x := subtract (m * m % p) (2 * s % p)
  ⟨x, subtract (m * subtract s x % p) (8 * y2 * y2 % p), 2 * q.y * q.z % p⟩

def Point.add (q r : Point) : Point :=
  if q.z = 0 then r
  else if r.z = 0 then q
  else
    let qz2 := q.z * q.z % p
    let rz2 := r.z * r.z % p
    let u := q.x * rz2 % p
    let s := q.y * rz2 * r.z % p
    let h := subtract (r.x * qz2 % p) u
    let t := subtract (r.y * qz2 * q.z % p) s
    if h = 0 then
      if t = 0 then q.double else infinity
    else
      let h2 := h * h % p
      let h3 := h2 * h % p
      let v := u * h2 % p
      let x := subtract (t * t % p) ((h3 + 2 * v) % p)
      ⟨x, subtract (t * subtract v x % p) (s * h3 % p), q.z * r.z * h % p⟩

/-- The point added to itself `k` times, for `k` below 2 ^ 256. -/
def Point.times (k : Nat) (q : Point) : Point :=
  foldBits k infinity fun acc bit => if bit then acc.double.add q else acc.double

def Point.affine (q : Point) : Nat × Nat :=
  let i := inverse p q.z
  let i2 := i * i % p
  (q.x * i2 % p, q.y * i2 * i % p)

end TokenClient.Secp256k1
