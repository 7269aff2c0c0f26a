import TokenClient.Idna.Mapping
import TokenClient.Idna.Normal
import TokenClient.Idna.Punycode

/-! Domain names that hold more than ASCII, and their ASCII form: each label by itself is spelled in
letters and digits behind `xn--`. -/
namespace TokenClient.Idna

/-- The parts of a domain name between its points, as code points. -/
abbrev Label := List Nat

namespace Label

def mark : List Nat := "xn--".toList.map Char.toNat

/-- The two zero-width joiners stand only where a script needs them. `before` is what stands in
front, last first. -/
def joinersFit (before : List Nat) : Label → Bool
  | [] => true
  | n :: rest =>
    let afterKiller := before.head?.any (classOf · == 9)
    let fits :=
      if n = 0x200d then afterKiller
      else if n = 0x200c then
        afterKiller ||
          (before.find? (!isTransparent ·)).any (fun m => joinsAfter.has m || joinsBoth.has m) &&
          (rest.find? (!isTransparent ·)).any fun m => joinsBefore.has m || joinsBoth.has m
      else true
    fits && joinersFit (n :: before) rest

/-- Does the character make its whole domain name one of mixed direction? No ASCII does. -/
def turns (n : Nat) : Bool := 128 ≤ n && (rightToLeft.has n || arabicDigits.has n)

def isNeutral (n : Nat) : Bool := separators.has n || neutral.has n || isSilent n

/-- In a domain name of mixed direction each label has a direction of its own, that of its first
letter, and its last character says so too. -/
def directionFits (label : Label) : Bool :=
  let last := label.reverse.find? fun n => !isSilent n
  match label.head? with
  | none => true
  | some first =>
    if rightToLeft.has first then
      (label.all fun n => turns n || europeanDigits.has n || isNeutral n) &&
      (last.any fun n => turns n || europeanDigits.has n) &&
      !(label.any europeanDigits.has && label.any arabicDigits.has)
    else if turns first || europeanDigits.has first || isNeutral first then false
    else !label.any turns && last.any fun n => !isNeutral n

def fits (label : Label) : Bool :=
  !label.head?.any isMark && joinersFit [] label

/-- Is the label as it would come out of mapping and composing? -/
def isSettled (label : Label) : Bool :=
  normal label == label && label.all fun n => map? (Char.ofNat n) == some [Char.ofNat n]

def read? (label : Label) : Option Label :=
  if mark.isPrefixOf label then do
    let label ← Punycode.decode? ((label.drop mark.length).map Char.ofNat)
    if label.all (· < 128) ∨ mark.isPrefixOf label ∨ !isSettled label ∨ !fits label then none
    else some label
  else if fits label then some label
  else none

def ascii (label : Label) : List Char :=
  if label.all (· < 128) then label.map Char.ofNat
  else "xn--".toList ++ Punycode.encode label

end Label

def ascii? (name : List Char) : Option (List Char) := do
  let mapped ← name.mapM map?
  let labels ← (Text.splitOn (· == '.'.toNat) (normal (mapped.flatten.map Char.toNat))).mapM
    Label.read?
  if labels.any (·.any Label.turns) ∧ !labels.all Label.directionFits then none
  else some (Text.join '.' (labels.map Label.ascii))

end TokenClient.Idna
