import Mathlib.Data.List.DropRight
import Mathlib.Logic.Basic
import TokenClient.Text.Blank

/-! Readers that trim a text and then check one requirement after the other. What is trimmed off is
the same for all of them; what they refuse, they refuse for the first requirement that is missed. -/
namespace TokenClient

namespace Text

/-- What is left of the characters without the white space at both ends. -/
structure Trimmed (cs kept : List Char) : Prop where
  around : ∃ front back, cs = front ++ kept ++ back ∧ ∀ c ∈ front ++ back, isBlank c = true
  first : ∀ c, kept.head? = some c → isBlank c = false
  last : ∀ c, kept.getLast? = some c → isBlank c = false

theorem dropWhile_blank {front kept : List Char} (blank : ∀ c ∈ front, isBlank c = true)
    (first : ∀ c, kept.head? = some c → isBlank c = false) :
    (front ++ kept).dropWhile isBlank = kept := by
  rw [List.dropWhile_append_of_pos blank]
  cases kept with
  | nil => rfl
  | cons c rest => exact List.dropWhile_cons_of_neg (by simp [first c rfl])

theorem trimChars_eq (cs : List Char) :
    trimChars cs = (cs.dropWhile isBlank).rdropWhile isBlank := rfl

theorem trimmed_trimChars (cs : List Char) : Trimmed cs (trimChars cs) where
  around := by
    refine ⟨cs.takeWhile isBlank, (cs.dropWhile isBlank).rtakeWhile isBlank, ?_, ?_⟩
    · rw [trimChars_eq, List.append_assoc, List.rdropWhile_append_rtakeWhile,
        List.takeWhile_append_dropWhile]
    · rw [List.forall_mem_append]
      exact ⟨fun _ => List.mem_takeWhile_imp, fun _ => List.mem_rtakeWhile_imp⟩
  first c found := by
    have front := List.head?_dropWhile_not isBlank cs
    obtain ⟨back, whole⟩ := List.rdropWhile_prefix isBlank (cs.dropWhile isBlank)
    rw [← trimChars_eq] at whole
    rw [← whole, List.head?_append, found] at front
    exact front
  last c found := by
    have nonempty : trimChars cs ≠ [] := by
      intro empty
      simp [empty] at found
    have back := List.rdropWhile_last_not isBlank (cs.dropWhile isBlank) nonempty
    rw [List.getLast?_eq_some_getLast nonempty, Option.some.injEq] at found
    rw [← found]
    exact Bool.eq_false_iff.mpr back

theorem trimmed_iff {cs kept : List Char} : Trimmed cs kept ↔ kept = trimChars cs := by
  constructor
  · rintro ⟨⟨front, back, rfl, blank⟩, first, last⟩
    rw [List.forall_mem_append] at blank
    cases kept with
    | nil =>
      have all : ∀ c ∈ front ++ [] ++ back, isBlank c = true := by
        rw [List.append_nil, List.forall_mem_append]
        exact blank
      rw [trimChars_eq, List.dropWhile_eq_nil_iff.mpr all]
      rfl
    | cons c rest =>
      have backwards : ∀ c ∈ back.reverse, isBlank c = true := fun c member =>
        blank.2 c (List.mem_reverse.mp member)
      have shown : ∀ other, (c :: rest ++ back).head? = some other → isBlank other = false := first
      have ending : ∀ other, (c :: rest).reverse.head? = some other → isBlank other = false := by
        rw [List.head?_reverse]
        exact last
      rw [trimChars, List.append_assoc, dropWhile_blank blank.1 shown, List.reverse_append,
        dropWhile_blank backwards ending, List.reverse_reverse]
  · rintro rfl
    exact trimmed_trimChars cs

end Text

/-- The fault of the first requirement that is not met. -/
inductive FirstUnmet {ε : Type} : List (Prop × ε) → ε → Prop where
  | here : ¬ requirement → FirstUnmet ((requirement, fault) :: rest) fault
  | later : requirement → FirstUnmet rest fault → FirstUnmet ((requirement, other) :: rest) fault

/-- There is a good result where all requirements are met, and else the first fault. -/
def Judged {ε α : Type} (requirements : List (Prop × ε)) (good : α → Prop) : Except ε α → Prop
  | .ok a => (∀ entry ∈ requirements, entry.1) ∧ good a
  | .error fault => FirstUnmet requirements fault

section Judging

variable {δ ε α β : Type} {requirement : Prop} {requirements : List (Prop × ε)} {fault other : ε}
  {good : α → Prop} {outcome : Except ε α}

theorem FirstUnmet.not_all (unmet : FirstUnmet requirements fault) :
    ¬ ∀ entry ∈ requirements, entry.1 := by
  intro all
  induction unmet with
  | here missed => exact missed (all _ (.head _))
  | later _ _ ih => exact ih fun entry member => all entry (.tail _ member)

theorem FirstUnmet.unique (unmet : FirstUnmet requirements fault)
    (again : FirstUnmet requirements other) : fault = other := by
  induction unmet with
  | here missed =>
    cases again with
    | here => rfl
    | later met => exact absurd met missed
  | later met _ ih =>
    cases again with
    | here missed => exact absurd met missed
    | later _ again => exact ih again

theorem FirstUnmet.exists_iff {requirements : List (Prop × ε)} :
    (∃ fault, FirstUnmet requirements fault) ↔ ¬ ∀ entry ∈ requirements, entry.1 := by
  refine ⟨fun ⟨_, unmet⟩ => unmet.not_all, fun missed => ?_⟩
  induction requirements with
  | nil => exact absurd (List.forall_mem_nil _) missed
  | cons entry rest ih =>
    rw [List.forall_mem_cons] at missed
    by_cases met : entry.1
    · obtain ⟨fault, unmet⟩ := ih fun all => missed ⟨met, all⟩
      exact ⟨fault, .later met unmet⟩
    · exact ⟨entry.2, .here met⟩

theorem Judged.met (met : requirement) (next : Judged requirements good outcome) :
    Judged ((requirement, fault) :: requirements) good outcome := by
  cases outcome with
  | error other => exact FirstUnmet.later met next
  | ok a => exact ⟨List.forall_mem_cons.mpr ⟨met, next.1⟩, next.2⟩

/-- A check that comes first stands for the first requirement. -/
theorem Judged.guard {missed : Prop} [Decidable missed] (meant : missed ↔ ¬ requirement)
    (next : requirement → Judged requirements good outcome) :
    Judged ((requirement, fault) :: requirements) good
      (if missed then .error fault else outcome) := by
  split
  · exact FirstUnmet.here (meant.mp ‹_›)
  · have met : requirement := not_not.mp (mt meant.mpr ‹_›)
    exact (next met).met met

/-- A reader may go on from what another one has read. Its own requirements come second. -/
theorem Judged.bind {first : List (Prop × δ)} {read : Except δ β} {fine : β → Prop}
    (judged : Judged first fine read) (rename : δ → ε) {next : β → Except ε α}
    (goesOn : ∀ b, fine b → Judged requirements good (next b)) :
    Judged (first.map (Prod.map id rename) ++ requirements) good
      ((read.mapError rename).bind next) := by
  cases read with
  | error fault =>
    induction judged with
    | here missed => exact FirstUnmet.here missed
    | later met _ ih => exact FirstUnmet.later met ih
  | ok b =>
    obtain ⟨met, isFine⟩ := judged
    have onward := goesOn b isFine
    clear goesOn
    induction first with
    | nil => exact onward
    | cons entry first ih =>
      rw [List.forall_mem_cons] at met
      exact (ih met.2).met met.1

theorem mapError_eq_ok {read : Except δ α} {rename : δ → ε} {a : α} :
    read.mapError rename = .ok a ↔ read = .ok a := by
  cases read <;> simp [Except.mapError]

theorem mapError_eq_error {read : Except δ α} {rename : δ → ε} :
    read.mapError rename = .error fault ↔ ∃ cause, read = .error cause ∧ fault = rename cause := by
  cases read <;> simp [Except.mapError, eq_comm]

theorem Judged.map {fine : β → Prop} {read : Except ε β} (judged : Judged requirements fine read)
    {change : β → α} (changed : ∀ b, fine b → good (change b)) :
    Judged requirements good (read.map change) := by
  cases read with
  | error fault => exact judged
  | ok b => exact ⟨judged.1, changed b judged.2⟩

theorem Judged.ok_iff (judged : Judged requirements good outcome) {a : α}
    (only : (∀ entry ∈ requirements, entry.1) → ∀ b, good a → good b → a = b) :
    outcome = .ok a ↔ (∀ entry ∈ requirements, entry.1) ∧ good a := by
  cases outcome with
  | error fault => exact iff_of_false nofun fun holds => FirstUnmet.not_all judged holds.1
  | ok b =>
    constructor
    · rintro ⟨⟩
      exact judged
    · rintro ⟨met, isGood⟩
      rw [only met b isGood judged.2]

theorem Judged.exists_ok (judged : Judged requirements good outcome)
    (met : ∀ entry ∈ requirements, entry.1) : ∃ a, outcome = .ok a ∧ good a := by
  cases outcome with
  | error fault => exact absurd met (FirstUnmet.not_all judged)
  | ok a => exact ⟨a, rfl, judged.2⟩

theorem Judged.error_iff (judged : Judged requirements good outcome) :
    outcome = .error fault ↔ FirstUnmet requirements fault := by
  cases outcome with
  | error other =>
    constructor
    · rintro ⟨⟩
      exact judged
    · intro unmet
      rw [FirstUnmet.unique judged unmet]
  | ok a => exact iff_of_false nofun fun unmet => unmet.not_all judged.1

end Judging

end TokenClient
