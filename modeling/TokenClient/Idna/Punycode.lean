/-! Spelling any characters in letters and digits. The ASCII characters stand in front; behind the
last dash a sequence of numbers tells where the others are put in. -/
namespace TokenClient.Idna.Punycode

def digit (n : Nat) : Char := Char.ofNat (if n < 26 then 97 + n else 22 + n)

def digit? (c : Char) : Option Nat :=
  let n := c.toNat
  if 97 ≤ n ∧ n ≤ 122 then some (n - 97)
  else if 48 ≤ n ∧ n ≤ 57 then some (n - 22)
  else none

/-- A digit below its threshold ends a number. `k` counts by 36 from the first digit on. -/
def threshold (bias k : Nat) : Nat := max 1 (min 26 (k - bias))

/-- How many times a step is divided until it is small, in steps of 36, and what remains. -/
def settle (k step : Nat) : Nat × Nat :=
  if 455 < step then settle (k + 36) (step / 35) else (k, step)
termination_by step

/-- The bias for the next number, after a number that put in one character to make `size`. -/
def adapt (isFirst : Bool) (step size : Nat) : Nat :=
  let step := if isFirst then step / 700 else step / 2
  let (k, step) := settle 0 (step + step / size)
  k + 36 * step / (step + 38)

/-! ### Writing -/

def numberFrom (bias k q : Nat) : List Char :=
  let t := threshold bias k
  if _h : q < t then [digit q]
  else digit (t + (q - t) % (36 - t)) :: numberFrom bias (k + 36) ((q - t) / (36 - t))
termination_by q
decreasing_by
  have : 1 ≤ t := Nat.le_max_left _ _
  exact Nat.lt_of_le_of_lt (Nat.div_le_self _ _) (by omega)

/-- The numbers written so far, and what the next one depends on. -/
structure Writer where
  written : List Char
  step : Nat
  bias : Nat
  handled : Nat

def Writer.put (basic : Nat) (n : Nat) (w : Writer) : List Nat → Writer
  | [] => w
  | c :: rest =>
    if c < n then put basic n { w with step := w.step + 1 } rest
    else if c = n then
      put basic n
        { written := w.written ++ numberFrom w.bias 36 w.step
          step := 0
          bias := adapt (w.handled == basic) w.step (w.handled + 1)
          handled := w.handled + 1 } rest
    else put basic n w rest

def foreign (cs : List Nat) : List Nat :=
  ((cs.filter (128 ≤ ·)).mergeSort (· ≤ ·)).eraseReps

def encodeFrom (cs : List Nat) (basic : Nat) (w : Writer) (next : Nat) : List Nat → List Char
  | [] => w.written
  | n :: rest =>
    let w := { w with step := w.step + (n - next) * (w.handled + 1) }
    let w := w.put basic n cs
    encodeFrom cs basic { w with step := w.step + 1 } (n + 1) rest

def encode (cs : List Nat) : List Char :=
  let basic := cs.filter (· < 128)
  let front := basic.map Char.ofNat ++ if basic = [] then [] else ['-']
  front ++ encodeFrom cs basic.length ⟨[], 0, 72, basic.length⟩ 128 (foreign cs)

/-! ### Reading -/

/-- The characters put in so far, the next one and its place, and the number being read. -/
structure Reader where
  found : List Nat
  next : Nat
  place : Nat
  bias : Nat
  sum : Nat
  weight : Nat
  k : Nat

def Reader.take (r : Reader) (d : Nat) : Option Reader :=
  let sum := r.sum + d * r.weight
  let t := threshold r.bias r.k
  if d < t then
    let size := r.found.length + 1
    let next := r.next + sum / size
    let place := sum % size
    if next.isValidChar then
      some
        { found := r.found.insertIdx place next
          next
          place := place + 1
          bias := adapt (r.next == 128 && r.place == 0) (sum - r.place) size
          sum := place + 1
          weight := 1
          k := 36 }
    else none
  else some { r with sum, weight := r.weight * (36 - t), k := r.k + 36 }

def splitFront (cs : List Char) : List Char × List Char :=
  let behind := (cs.reverse.takeWhile (· != '-')).reverse
  (cs.take (cs.length - behind.length - 1), behind)

def decode? (cs : List Char) : Option (List Nat) := do
  let (front, behind) := splitFront cs
  if front.any (128 ≤ ·.toNat) then none
  else
    let digits ← behind.mapM digit?
    let r ← digits.foldlM Reader.take ⟨front.map Char.toNat, 128, 0, 72, 0, 1, 36⟩
    if r.k = 36 then some r.found else none

end TokenClient.Idna.Punycode
