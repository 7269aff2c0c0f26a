import TokenClient.Hex
import TokenClient.Text.Split

/-! Tables of characters in a compact notation. All numbers are hexadecimal code points. -/
namespace TokenClient.Idna

def number (cs : List Char) : Nat :=
  cs.foldl (fun n c =>
    match Hex.value? (UInt8.ofNat c.toNat) with
    | some d => 16 * n + d
    | none => n) 0

def words (text : String) : List (List Char) :=
  (Text.splitOn (fun c => c == ' ' || c == '\n') text.toList).filter (· ≠ [])

/-- A set of characters: the first and the last of each run. -/
abbrev Runs := List (Nat × Nat)

namespace Runs

/-- A word names one character, or the first and the last of a run with a dash between them. -/
def read (text : String) : Runs :=
  (words text).map fun word =>
    match Text.splitOn (· == '-') word with
    | [first, last] => (number first, number last)
    | _ => (number word, number word)

def has (runs : Runs) (n : Nat) : Bool := runs.any fun (first, last) => first ≤ n && n ≤ last

end Runs

/-- Where `first`, `first + stride` and so on go, `more` characters besides the first.
The image of the first is given, and its last character moves along with the others. -/
structure Fold where
  first : Nat
  stride : Nat
  more : Nat
  image : List Nat
  deriving DecidableEq, Repr

namespace Fold

def image? (f : Fold) (n : Nat) : Option (List Nat) :=
  let far := n - f.first
  if f.first ≤ n ∧ far % f.stride = 0 ∧ far / f.stride ≤ f.more then
    match f.image.getLast? with
    | some last => some (f.image.dropLast ++ [last + far])
    | none => some []
  else none

/-- One word of a table: `41:` says where the next images belong; an image is its characters with
points between them; with `+3` it is the first of four in a row, with `/3` the first of four that
are two apart. -/
def step : Nat × List Fold → List Char → Nat × List Fold
  | (place, folds), word =>
    match Text.splitOn (· == '+') word, Text.splitOn (· == '/') word with
    | [image, more], _ =>
      (place + number more + 1, ⟨place, 1, number more, [number image]⟩ :: folds)
    | _, [image, more] =>
      (place + 2 * number more + 1, ⟨place, 2, number more, [number image]⟩ :: folds)
    | _, _ =>
      if word.getLast? = some ':' then (number word, folds)
      else (place + 1, ⟨place, 1, 0, (Text.splitOn (· == '.') word).map number⟩ :: folds)

def read (text : String) : List Fold := ((words text).foldl step (0, [])).2.reverse

end Fold
end TokenClient.Idna
