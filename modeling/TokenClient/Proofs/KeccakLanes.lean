import Mathlib.Algebra.Ring.Nat
import Mathlib.Data.List.OfFn
import TokenClient.Hash.Keccak

/-! The hash over lists of numbers. The sponge's lanes are taken as plain numbers and each step of
the permutation as one pattern; the hash is the same, and a closed one is quick to compute. -/
namespace TokenClient.Keccak

/-- The lanes of a sponge as numbers, row by row. -/
def lanes (s : State) : List Nat := s.toList.map UInt64.toNat

def turnLane (lane amount : Nat) : Nat :=
  (lane <<< amount) % 2 ^ 64 ||| lane >>> (64 - amount)

def thetaLanes : List Nat → List Nat
  | [a₀, b₀, c₀, d₀, e₀, a₁, b₁, c₁, d₁, e₁, a₂, b₂, c₂, d₂, e₂, a₃, b₃, c₃, d₃, e₃,
      a₄, b₄, c₄, d₄, e₄] =>
    let a := a₀ ^^^ a₁ ^^^ a₂ ^^^ a₃ ^^^ a₄
    let b := b₀ ^^^ b₁ ^^^ b₂ ^^^ b₃ ^^^ b₄
    let c := c₀ ^^^ c₁ ^^^ c₂ ^^^ c₃ ^^^ c₄
    let d := d₀ ^^^ d₁ ^^^ d₂ ^^^ d₃ ^^^ d₄
    let e := e₀ ^^^ e₁ ^^^ e₂ ^^^ e₃ ^^^ e₄
    let row (a₀ b₀ c₀ d₀ e₀ : Nat) : List Nat :=
      [a₀ ^^^ e ^^^ turnLane b 1, b₀ ^^^ a ^^^ turnLane c 1, c₀ ^^^ b ^^^ turnLane d 1,
        d₀ ^^^ c ^^^ turnLane e 1, e₀ ^^^ d ^^^ turnLane a 1]
    row a₀ b₀ c₀ d₀ e₀ ++ row a₁ b₁ c₁ d₁ e₁ ++ row a₂ b₂ c₂ d₂ e₂ ++ row a₃ b₃ c₃ d₃ e₃ ++
      row a₄ b₄ c₄ d₄ e₄
  | s => s

def shuffleLanes : List Nat → List Nat
  | [a₀, b₀, c₀, d₀, e₀, a₁, b₁, c₁, d₁, e₁, a₂, b₂, c₂, d₂, e₂, a₃, b₃, c₃, d₃, e₃,
      a₄, b₄, c₄, d₄, e₄] =>
    [a₀, turnLane b₁ 44, turnLane c₂ 43, turnLane d₃ 21, turnLane e₄ 14,
      turnLane d₀ 28, turnLane e₁ 20, turnLane a₂ 3, turnLane b₃ 45, turnLane c₄ 61,
      turnLane b₀ 1, turnLane c₁ 6, turnLane d₂ 25, turnLane e₃ 8, turnLane a₄ 18,
      turnLane e₀ 27, turnLane a₁ 36, turnLane b₂ 10, turnLane c₃ 15, turnLane d₄ 56,
      turnLane c₀ 62, turnLane d₁ 55, turnLane e₂ 39, turnLane a₃ 41, turnLane b₄ 2]
  | s => s

def chiLanes : List Nat → List Nat
  | a :: b :: c :: d :: e :: rest =>
    let mix (x y z : Nat) : Nat := x ^^^ ((2 ^ 64 - 1 - y) &&& z)
    mix a b c :: mix b c d :: mix c d e :: mix d e a :: mix e a b :: chiLanes rest
  | s => s

/-- The numbers mixed into the front of the lanes. -/
def mixFront : List Nat → List Nat → List Nat
  | lane :: rest, n :: more => (lane ^^^ n) :: mixFront rest more
  | s, _ => s

def roundLanes (s : List Nat) (constant : UInt64) : List Nat :=
  mixFront (chiLanes (shuffleLanes (thetaLanes s))) [constant.toNat]

def absorbLanes (s : List Nat) (block : Bytes) : List Nat :=
  let numbers := (block.pieces 8).map fun bytes => (laneOf bytes).toNat
  roundConstants.foldl roundLanes (mixFront s numbers)

def hashLanes (message : Bytes) : Bytes :=
  ((((pad message).pieces 136).foldl absorbLanes (List.replicate 25 0)).take 4).flatMap
    fun lane => (Bytes.ofNat 8 lane).reverse

theorem toNat_turn (lane : UInt64) {amount : UInt64} (positive : amount ≠ 0)
    (small : amount.toNat < 64) : (turn lane amount).toNat = turnLane lane.toNat amount.toNat := by
  have left : (64 - amount).toNat = 64 - amount.toNat := by
    rw [UInt64.toNat_sub_of_le _ _ (UInt64.le_iff_toNat_le.mpr (Nat.le_of_lt small))]
    rfl
  have nonzero : amount.toNat ≠ 0 := fun zero => positive (UInt64.toNat_inj.mp zero)
  rw [turn, if_neg positive, UInt64.toNat_or, UInt64.toNat_shiftLeft, UInt64.toNat_shiftRight, left,
    Nat.mod_eq_of_lt small, Nat.mod_eq_of_lt (by omega : 64 - amount.toNat < 64), turnLane]

theorem toList_eq (s : State) : s.toList = List.ofFn fun i : Fin 25 => getElem s i.val i.isLt := by
  rw [← Vector.toList_ofFn, Vector.ofFn_getElem]

theorem lanes_theta (s : State) : lanes (theta s) = thetaLanes (lanes s) := by
  rw [lanes, lanes, toList_eq s, theta, Vector.toList_ofFn]
  simp [List.ofFn_succ, thetaLanes, toNat_turn]

theorem lanes_shuffle (s : State) : lanes (shuffle s) = shuffleLanes (lanes s) := by
  rw [lanes, lanes, toList_eq s, shuffle, Vector.toList_ofFn]
  simp [List.ofFn_succ, shuffleLanes, source, turn, turnLane]

theorem lanes_chi (s : State) : lanes (chi s) = chiLanes (lanes s) := by
  rw [lanes, lanes, toList_eq s, chi, Vector.toList_ofFn]
  simp [List.ofFn_succ, chiLanes]

theorem mixFront_eq (s more : List Nat) :
    mixFront s more = s.mapIdx fun i lane => lane ^^^ more[i]?.getD 0 := by
  fun_induction mixFront s more with
  | case1 lane rest n more ih => simp [ih, List.mapIdx_cons]
  | case2 s more none =>
    cases more with
    | nil => exact List.ext_getElem (by simp) (by simp)
    | cons n more =>
      cases s with
      | nil => rfl
      | cons lane rest => exact absurd rfl (none lane rest n more rfl)

theorem lanes_ofFn_mix (s : State) (more : List UInt64) :
    lanes (Vector.ofFn fun i => getElem s i.val i.isLt ^^^ (more[i.val]?.getD 0)) =
      mixFront (lanes s) (more.map UInt64.toNat) := by
  rw [mixFront_eq]
  apply List.ext_getElem (by simp [lanes])
  intro i left right
  have mapped : (more[i]?.getD 0).toNat = (more[i]?.map UInt64.toNat).getD 0 := by
    cases more[i]? <;> rfl
  simp [lanes, mapped]

theorem lanes_round (s : State) (constant : UInt64) :
    lanes (round s constant) = roundLanes (lanes s) constant := by
  have mixed (s : State) : s.set 0 (s[0] ^^^ constant) =
      Vector.ofFn fun i => s[i.val] ^^^ (([constant] : List UInt64)[i.val]?.getD 0) := by
    apply Vector.ext
    intro i bound
    cases i <;> simp
  simp only [round, mixed]
  rw [lanes_ofFn_mix, lanes_chi, lanes_shuffle, lanes_theta]
  rfl

theorem lanes_absorb (s : State) (block : Bytes) :
    lanes (absorb s block) = absorbLanes (lanes s) block := by
  have rounds (constants : List UInt64) (s : State) :
      lanes (constants.foldl round s) = constants.foldl roundLanes (lanes s) := by
    induction constants generalizing s with
    | nil => rfl
    | cons constant rest ih => rw [List.foldl_cons, ih, lanes_round, List.foldl_cons]
  rw [absorb, permute, rounds, lanes_ofFn_mix, List.map_map]
  rfl

theorem hash_eq_hashLanes (message : Bytes) : hash message = hashLanes message := by
  have blocks (pieces : List Bytes) (s : State) :
      lanes (pieces.foldl absorb s) = pieces.foldl absorbLanes (lanes s) := by
    induction pieces generalizing s with
    | nil => rfl
    | cons piece rest ih => rw [List.foldl_cons, ih, lanes_absorb, List.foldl_cons]
  have empty : lanes (Vector.replicate 25 0) = List.replicate 25 0 := by decide
  rw [hashLanes, ← empty, ← blocks, lanes, ← List.map_take, List.flatMap_map]
  rfl

end TokenClient.Keccak
