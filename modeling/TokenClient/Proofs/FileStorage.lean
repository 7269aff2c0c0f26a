import Mathlib.Data.List.Induction
import Mathlib.Tactic.SplitIfs
import TokenClient.Storage

/-! What writing changes in a working directory: the file at the place that a path leads to, and
directories on the way there. Every other file stays as it is. -/
namespace TokenClient

namespace Bytes

theorem toList_loop (bytes : ByteArray) (i : Nat) (front : List UInt8) :
    ByteArray.toList.loop bytes i front = front.reverse ++ bytes.data.toList.drop i := by
  fun_induction ByteArray.toList.loop bytes i front with
  | case1 i front below ih =>
    have inside : i < bytes.data.toList.length := below
    have here : bytes.get! i = bytes.data.toList[i] :=
      (getElem!_pos bytes.data i below).trans (Array.getElem_toList below).symm
    rw [ih, List.drop_eq_getElem_cons inside, here]
    simp
  | case2 i front above =>
    have outside : bytes.data.toList.length ≤ i := Nat.le_of_not_lt above
    simp [List.drop_eq_nil_of_le outside]

theorem fromUTF8?_ofString (text : String) :
    String.fromUTF8? (ByteArray.mk (ofString text).toArray) = some text := by
  have bytes : ByteArray.mk (ofString text).toArray = text.toUTF8 := by
    rw [ofString, ByteArray.toList, toList_loop]
    simp
  rw [bytes]
  exact dif_pos text.isValidUTF8

end Bytes

namespace Storage

section Put

variable {place other : Place} {content : Bytes}

theorem lookup_put (files : List (Place × Bytes)) :
    (put place content files).lookup place = some content := by
  induction files with
  | nil => simp [put]
  | cons file files ih =>
    obtain ⟨here, old⟩ := file
    rw [put]
    split_ifs with same
    · simp
    · have other : (place == here) = false := beq_false_of_ne (Ne.symm same)
      rw [List.lookup_cons, other, ih]

theorem lookup_put_of_ne (apart : other ≠ place) (files : List (Place × Bytes)) :
    (put place content files).lookup other = files.lookup other := by
  have unequal : (other == place) = false := beq_false_of_ne apart
  induction files with
  | nil => simp [put, List.lookup_cons, unequal]
  | cons file files ih =>
    obtain ⟨here, old⟩ := file
    rw [put]
    split_ifs with same
    · subst same
      simp [List.lookup_cons, unequal]
    · simp [List.lookup_cons, ih]

theorem put_put (old : Bytes) (files : List (Place × Bytes)) :
    put place content (put place old files) = put place content files := by
  induction files with
  | nil => simp [put]
  | cons file files ih =>
    obtain ⟨here, old⟩ := file
    rw [put]
    split_ifs with same
    · simp [put, same]
    · simp [put, same, ih]

end Put

variable {s s' : Storage} {path : String} {way : List String} {content : Bytes}

theorem follow_stay {here : Place} {part : String} (rest : List String)
    (stay : part = "" ∨ part = ".") : s.follow here (part :: rest) = s.follow here rest := by
  rw [follow, if_pos stay]

theorem follow_up (here : Place) (rest : List String) :
    s.follow here (".." :: rest) = s.follow here.dropLast rest := by
  rw [follow, if_neg (by decide), if_pos rfl]

theorem follow_enter {here : Place} {part : String} (rest : List String)
    (stay : ¬ (part = "" ∨ part = ".")) (up : part ≠ "..")
    (directory : here ++ [part] ∈ s.directories) :
    s.follow here (part :: rest) = s.follow (here ++ [part]) rest := by
  rw [follow, if_neg stay, if_neg up]
  exact if_pos directory

theorem follow_file {here : Place} {part : String} (stay : ¬ (part = "" ∨ part = "."))
    (up : part ≠ "..") (directory : here ++ [part] ∉ s.directories)
    (there : (s.files.lookup (here ++ [part])).isSome) :
    s.follow here [part] = .ok (.file (here ++ [part])) := by
  rw [follow, if_neg stay, if_neg up]
  dsimp only
  rw [if_neg directory, if_pos there, if_pos rfl]

theorem follow_slashes {here : Place} {rest : List String}
    (slashes : rest.all (· = "") = true) : s.follow here rest = .ok (.directory here) := by
  induction rest with
  | nil => rfl
  | cons part rest ih =>
    simp only [List.all_cons, Bool.and_eq_true, decide_eq_true_eq] at slashes
    rw [follow_stay rest (.inl slashes.1), ih slashes.2]

/-- The way to a directory leads through directories only, and those are still there. -/
theorem follow_directory {here place : Place} {parts : List String}
    (kept : s.directories ⊆ s'.directories)
    (found : s.follow here parts = .ok (.directory place)) :
    s'.follow here parts = .ok (.directory place) := by
  fun_induction follow s here parts with
  | case1 here => exact found
  | case2 here part rest stay ih => rw [follow_stay rest stay, ih found]
  | case3 here rest stay ih => rw [follow_up, ih found]
  | case4 here part rest stay up next directory ih =>
    rw [follow_enter rest stay up (kept directory), ih found]
  | case5 | case6 | case7 | case8 => simp at found

/-- The place of a file on the way of a path is the last one. -/
theorem follow_put {here place : Place} {parts : List String}
    (kept : s'.directories = s.directories) (wrote : s'.files = put place content s.files)
    (found : s.follow here parts = .ok (.file place) ∨
      s.follow here parts = .ok (.vacant place false)) :
    s'.follow here parts = .ok (.file place) := by
  fun_induction follow s here parts with
  | case1 here => simp at found
  | case2 here part rest stay ih => rw [follow_stay rest stay, ih found]
  | case3 here rest stay ih => rw [follow_up, ih found]
  | case4 here part rest stay up next directory ih =>
    rw [follow_enter rest stay up (kept ▸ directory), ih found]
  | case5 here part stay up next directory there =>
    obtain rfl : next = place := by simpa using found
    exact follow_file stay up (kept ▸ directory) (by simp [wrote, next, lookup_put])
  | case7 here part rest stay up next directory free slashes =>
    simp only [Except.ok.injEq, reduceCtorEq, Target.vacant.injEq, false_or] at found
    obtain ⟨rfl, last⟩ := found
    obtain rfl : rest = [] := by simpa using last
    exact follow_file stay up (kept ▸ directory) (by simp [wrote, next, lookup_put])
  | case6 | case8 => simp at found

theorem follow_made {here place : Place} {parts : List String} {asDirectory : Bool}
    (found : s.follow here parts = .ok (.vacant place asDirectory)) :
    Storage.follow { s with directories := s.directories ++ [place] } here parts =
      .ok (.directory place) := by
  fun_induction follow s here parts with
  | case1 here => simp at found
  | case2 here part rest stay ih => rw [follow_stay rest stay, ih found]
  | case3 here rest stay ih => rw [follow_up, ih found]
  | case4 here part rest stay up next directory ih =>
    rw [follow_enter rest stay up (List.mem_append_left _ directory), ih found]
  | case7 here part rest stay up next directory free slashes =>
    simp only [Except.ok.injEq, Target.vacant.injEq] at found
    obtain ⟨rfl, _⟩ := found
    rw [follow_enter rest stay up (by simp [next]), follow_slashes slashes]
  | case5 | case6 | case8 => simp at found

theorem locate_put {place : Place} (kept : s'.directories = s.directories)
    (wrote : s'.files = put place content s.files)
    (found : s.locate path = .ok (.file place) ∨ s.locate path = .ok (.vacant place false)) :
    s'.locate path = .ok (.file place) := by
  unfold locate at found ⊢
  split_ifs at found ⊢ with empty
  · simp at found
  · exact follow_put kept wrote found

/-- Writing puts the content at the place that the path leads to from then on. -/
theorem write_ok (written : s.write path content = .ok s') : ∃ place,
    s'.locate path = .ok (.file place) ∧ s' = { s with files := put place content s.files } := by
  unfold write at written
  split at written
  case h_1 | h_2 | h_3 => contradiction
  case h_4 place located =>
    obtain rfl := Except.ok.inj written
    exact ⟨place, locate_put (s := s) rfl rfl (.inl located), rfl⟩
  case h_5 place located =>
    obtain rfl := Except.ok.inj written
    exact ⟨place, locate_put (s := s) rfl rfl (.inr located), rfl⟩

theorem read_write {text : String} (written : s.write path (Bytes.ofString text) = .ok s') :
    s'.read path = .ok text := by
  obtain ⟨place, located, rfl⟩ := write_ok written
  simp [read, located, lookup_put, Bytes.fromUTF8?_ofString]

theorem isThere_write (written : s.write path content = .ok s') : s'.isThere path = true := by
  obtain ⟨place, located, -⟩ := write_ok written
  simp [isThere, located]

theorem write_write (written : s.write path content = .ok s') : s'.write path content = .ok s' := by
  obtain ⟨place, located, rfl⟩ := write_ok written
  simp [write, located, put_put]

/-- Whether a file can be written does not depend on what is written. -/
theorem write_any (written : s.write path content = .ok s') (other : Bytes) :
    ∃ s'', s.write path other = .ok s'' := by
  unfold write at written ⊢
  split at written
  case h_1 | h_2 | h_3 => contradiction
  case h_4 | h_5 => exact ⟨_, rfl⟩

theorem isDirectory_iff :
    s.isDirectory way = true ↔ ∃ place, s.follow [] way = .ok (.directory place) := by
  unfold isDirectory
  split
  · rename_i place found
    simp [found]
  · rename_i other
    simp only [Bool.false_eq_true, false_iff, not_exists]
    exact other

/-- Directories stay where none is taken away, whatever becomes of the files. -/
theorem isDirectory_of_subset (kept : s.directories ⊆ s'.directories)
    (there : s.isDirectory way = true) : s'.isDirectory way = true := by
  rw [isDirectory_iff] at there ⊢
  obtain ⟨place, found⟩ := there
  exact ⟨place, follow_directory kept found⟩

theorem makeDirectory_ok (made : s.makeDirectory way = .ok s') :
    s'.files = s.files ∧ s'.isDirectory way = true := by
  unfold makeDirectory at made
  split at made
  case h_1 | h_2 | h_3 => contradiction
  case h_4 place asDirectory found =>
    obtain rfl := Except.ok.inj made
    exact ⟨rfl, isDirectory_iff.mpr ⟨place, follow_made found⟩⟩

theorem ensureDirectory_ok (made : s.ensureDirectory way = .ok s') :
    s'.files = s.files ∧ s'.isDirectory way = true := by
  unfold ensureDirectory at made
  split at made
  · rename_i first
    obtain rfl := Except.ok.inj made
    exact makeDirectory_ok first
  · split_ifs at made with there
    obtain rfl := Except.ok.inj made
    exact ⟨rfl, there⟩

theorem ensureDirectory_of_isDirectory (there : s.isDirectory way = true) :
    s.ensureDirectory way = .ok s := by
  obtain ⟨place, found⟩ := isDirectory_iff.mp there
  simp [ensureDirectory, makeDirectory, found, there]

/-- The files stay as they are, also where not all directories can be made. -/
theorem makeDirectories_files (s : Storage) (way : List String) :
    (s.makeDirectories way).2.files = s.files := by
  fun_induction makeDirectories s way with
  | case1 | case6 => rfl
  | case2 way some_ s' made => exact (ensureDirectory_ok made).1
  | case3 way some_ missing fault s' above ih => rw [above] at ih; exact ih
  | case4 way some_ missing s' above s'' made ih =>
    rw [above] at ih
    exact (ensureDirectory_ok made).1.trans ih
  | case5 way some_ missing s' above fault failed ih => rw [above] at ih; exact ih

theorem makeDirectories_ok (some_ : way ≠ []) (made : s.makeDirectories way = (.ok (), s')) :
    s'.isDirectory way = true := by
  rw [makeDirectories, dif_neg some_] at made
  split at made
  case h_1 first =>
    cases made
    exact (ensureDirectory_ok first).2
  case h_2 =>
    split at made
    · cases made
    · split at made
      · rename_i last
        cases made
        exact (ensureDirectory_ok last).2
      · cases made
  case h_3 => cases made

theorem makeDirectories_of_isDirectory (there : way ≠ [] → s.isDirectory way = true) :
    s.makeDirectories way = (.ok (), s) := by
  rw [makeDirectories]
  split_ifs with none
  · rfl
  · rw [ensureDirectory_of_isDirectory (there none)]

/-- A file can be written at the path once the directories above it are made. -/
def Writable (s : Storage) (path : String) : Prop :=
  ∃ made content written, s.makeDirectories (names path).dropLast = (.ok (), made) ∧
    made.write path content = .ok written

section Names

def IsName (part : String) : Prop := part ≠ "" ∧ part ≠ "." ∧ part ≠ ".."

/-- No file stands where a path needs a directory. -/
def Free (s : Storage) (here : Place) (way : List String) : Prop :=
  ∀ start, start ≠ [] → start <+: way →
    here ++ start ∈ s.directories ∨ s.files.lookup (here ++ start) = none

variable {here : Place} {front : List String} {last : String}

theorem IsName.not_stay {part : String} (name : IsName part) : ¬ (part = "" ∨ part = ".") :=
  not_or.mpr ⟨name.1, name.2.1⟩

theorem follow_names (rest : List String) (plain : ∀ part ∈ front, IsName part)
    (above : ∀ start, start ≠ [] → start <+: front → here ++ start ∈ s.directories) :
    s.follow here (front ++ rest) = s.follow (here ++ front) rest := by
  induction front generalizing here with
  | nil => simp
  | cons part front ih =>
    have name := plain part (.head front)
    have first : here ++ [part] ∈ s.directories := above [part] (by simp) (by simp)
    rw [List.cons_append, follow_enter _ name.not_stay name.2.2 first,
      ih (fun other member => plain other (.tail _ member)) ?_, List.append_assoc]
    · rfl
    · intro start some_ isStart
      have more := above (part :: start) (by simp) (List.cons_prefix_cons.mpr ⟨rfl, isStart⟩)
      simpa using more

theorem follow_missing (plain : ∀ part ∈ front, IsName part) (name : IsName last)
    (free : s.Free here front)
    (missing : ∃ start, start ≠ [] ∧ start <+: front ∧ here ++ start ∉ s.directories) :
    s.follow here (front ++ [last]) = .error .notFound := by
  induction front generalizing here with
  | nil =>
    obtain ⟨start, some_, isStart, -⟩ := missing
    exact absurd (List.prefix_nil.mp isStart) some_
  | cons part front ih =>
    have first := plain part (.head front)
    by_cases directory : here ++ [part] ∈ s.directories
    · rw [List.cons_append, follow_enter _ first.not_stay first.2.2 directory]
      apply ih fun other member => plain other (.tail _ member)
      · intro start some_ isStart
        have more := free (part :: start) (by simp) (List.cons_prefix_cons.mpr ⟨rfl, isStart⟩)
        simpa using more
      · obtain ⟨start, some_, isStart, missing⟩ := missing
        obtain ⟨other, start, rfl⟩ := List.exists_cons_of_ne_nil some_
        obtain ⟨rfl, later⟩ := List.cons_prefix_cons.mp isStart
        refine ⟨start, ?_, later, by simpa using missing⟩
        rintro rfl
        exact missing directory
    · have none := (free [part] (by simp) (by simp)).resolve_left directory
      rw [List.cons_append, follow, if_neg first.not_stay, if_neg first.2.2]
      simp [directory, none, name.1]

/-- What is changed where directories are made: those on the way are there. -/
structure Opened (s s' : Storage) (way : Place) : Prop where
  files : s'.files = s.files
  kept : s.directories ⊆ s'.directories
  there : ∀ start, start ≠ [] → start <+: way → start ∈ s'.directories
  only : ∀ place ∈ s'.directories, place ∈ s.directories ∨ place <+: way

theorem follow_last (here : Place) (name : IsName last) : s.follow here [last] =
    if here ++ [last] ∈ s.directories then .ok (.directory (here ++ [last]))
    else if (s.files.lookup (here ++ [last])).isSome then .ok (.file (here ++ [last]))
    else .ok (.vacant (here ++ [last]) false) := by
  simp [follow, name.1, name.2.1, name.2.2]

theorem ensureDirectory_names (plain : ∀ part ∈ front, IsName part) (name : IsName last)
    (free : s.Free [] (front ++ [last]))
    (above : ∀ start, start ≠ [] → start <+: front → start ∈ s.directories) :
    ∃ s', s.ensureDirectory (front ++ [last]) = .ok s' ∧ s.Opened s' (front ++ [last]) := by
  have followed : s.follow [] (front ++ [last]) = s.follow front [last] :=
    follow_names [last] plain above
  rw [follow_last front name] at followed
  by_cases there : front ++ [last] ∈ s.directories
  · rw [if_pos there] at followed
    refine ⟨s, ensureDirectory_of_isDirectory (isDirectory_iff.mpr ⟨_, followed⟩), rfl,
      List.Subset.refl _, fun start some_ isStart => ?_, fun _ => .inl⟩
    rcases List.prefix_concat_iff.mp isStart with rfl | isStart
    · exact there
    · exact above start some_ isStart
  · have none := (free (front ++ [last]) (by simp) (List.prefix_refl _)).resolve_left there
    rw [List.nil_append] at none
    rw [if_neg there, none] at followed
    refine ⟨{ s with directories := s.directories ++ [front ++ [last]] },
      by simp [ensureDirectory, makeDirectory, followed], rfl, List.subset_append_left _ _,
      fun start some_ isStart => ?_, fun place member => ?_⟩
    · rcases List.prefix_concat_iff.mp isStart with rfl | isStart
      · simp
      · exact List.mem_append_left _ (above start some_ isStart)
    · rcases List.mem_append.mp member with old | new
      · exact .inl old
      · rw [List.mem_singleton.mp new]
        exact .inr (List.prefix_refl _)

theorem Opened.trans {s'' : Storage} {way way' : Place} (first : s.Opened s' way)
    (second : s'.Opened s'' way') (longer : way <+: way') : s.Opened s'' way' where
  files := second.files.trans first.files
  kept := List.Subset.trans first.kept second.kept
  there := second.there
  only place member := by
    rcases second.only place member with old | new
    · rcases first.only place old with older | new
      · exact .inl older
      · exact .inr (new.trans longer)
    · exact .inr new

theorem makeDirectories_names {way : Place} (plain : ∀ part ∈ way, IsName part)
    (free : s.Free [] way) : ∃ s', s.makeDirectories way = (.ok (), s') ∧ s.Opened s' way := by
  induction way using List.reverseRecOn with
  | nil =>
    refine ⟨s, by rw [makeDirectories, dif_pos rfl], rfl, List.Subset.refl _, ?_, fun _ => .inl⟩
    exact fun start some_ isStart => absurd (List.prefix_nil.mp isStart) some_
  | append_singleton front last ih =>
    have frontPlain : ∀ part ∈ front, IsName part := fun part member =>
      plain part (List.mem_append_left _ member)
    have name : IsName last := plain last (by simp)
    have frontFree : s.Free [] front := fun start some_ isStart =>
      free start some_ (isStart.trans (List.prefix_append _ _))
    rw [makeDirectories, dif_neg (by simp)]
    by_cases above : ∀ start, start ≠ [] → start <+: front → start ∈ s.directories
    · obtain ⟨s', made, opened⟩ := ensureDirectory_names frontPlain name free above
      exact ⟨s', by rw [made], opened⟩
    · push Not at above
      have missing : s.ensureDirectory (front ++ [last]) = .error .notFound := by
        have followed : s.follow [] (front ++ [last]) = .error .notFound :=
          follow_missing frontPlain name frontFree above
        simp [ensureDirectory, makeDirectory, isDirectory, followed]
      obtain ⟨s₁, made, opened⟩ := ih frontPlain frontFree
      have stillFree : s₁.Free [] (front ++ [last]) := fun start some_ isStart => by
        rw [opened.files]
        exact (free start some_ isStart).imp_left fun directory => opened.kept directory
      obtain ⟨s', ensured, lastOpened⟩ :=
        ensureDirectory_names frontPlain name stillFree opened.there
      rw [missing, List.dropLast_concat, made]
      dsimp only
      exact ⟨s', by rw [ensured], opened.trans lastOpened (List.prefix_append _ _)⟩

/-- A path of names leads to a file that can be written, unless there is a directory or a file is
in the way. -/
theorem writable_of_names (split : parts path = front ++ [last])
    (plain : ∀ part ∈ front ++ [last], IsName part) (free : s.Free [] front)
    (noDirectory : front ++ [last] ∉ s.directories) : s.Writable path := by
  have frontPlain : ∀ part ∈ front, IsName part := fun part member =>
    plain part (List.mem_append_left _ member)
  have name : IsName last := plain last (by simp)
  have allNames : names path = front ++ [last] := by
    unfold names
    split
    · rename_i rest dot
      exact absurd rfl (plain "." (by rw [← split, dot]; exact .head rest)).2.1
    · rw [split]
      exact List.filter_eq_self.mpr fun part member => by
        simp [(plain part member).1, (plain part member).2.1]
  obtain ⟨made, directories, opened⟩ := makeDirectories_names frontPlain free
  have stillNone : front ++ [last] ∉ made.directories := by
    intro member
    rcases opened.only _ member with old | new
    · exact noDirectory old
    · have longer := new.length_le
      rw [List.length_append] at longer
      exact Nat.not_succ_le_self _ longer
  have some_ : path ≠ "" := by
    rintro rfl
    have empty : parts "" = [""] := by decide
    exact absurd rfl (plain "" (by rw [← split, empty]; simp)).1
  have followed : made.locate path = made.follow front [last] := by
    rw [locate, if_neg some_, split]
    exact follow_names [last] frontPlain opened.there
  rw [follow_last front name, if_neg stillNone] at followed
  have written : ∃ written, made.write path [] = .ok written := by
    unfold write
    rw [followed]
    split_ifs
    · exact ⟨_, rfl⟩
    · exact ⟨_, rfl⟩
  obtain ⟨written, write⟩ := written
  refine ⟨made, [], written, ?_, write⟩
  rw [allNames, List.dropLast_concat, directories]

end Names

section Bare

/-- A working directory without what its files hold. -/
def bare (s : Storage) : Storage := { s with files := s.files.map fun file => (file.1, []) }

theorem isSome_lookup_bare (s : Storage) (place : Place) :
    (s.bare.files.lookup place).isSome = (s.files.lookup place).isSome := by
  unfold bare
  induction s.files with
  | nil => rfl
  | cons file files ih =>
    rw [List.map_cons, List.lookup_cons, List.lookup_cons]
    cases place == file.1
    · exact ih
    · rfl

/-- Where a path leads does not depend on what the files hold. -/
@[simp] theorem follow_bare (s : Storage) (here : Place) (way : List String) :
    s.bare.follow here way = s.follow here way := by
  induction way generalizing here with
  | nil => rfl
  | cons part rest ih =>
    have directories : s.bare.directories = s.directories := rfl
    simp only [follow, ih, isSome_lookup_bare, directories]

@[simp] theorem locate_bare (s : Storage) (path : String) : s.bare.locate path = s.locate path := by
  simp only [locate, follow_bare]

@[simp] theorem isThere_bare (s : Storage) (path : String) :
    s.bare.isThere path = s.isThere path := by
  simp only [isThere, locate_bare]

theorem makeDirectory_bare (s : Storage) (way : List String) :
    s.bare.makeDirectory way = (s.makeDirectory way).map bare := by
  unfold makeDirectory
  rw [follow_bare]
  rcases s.follow [] way with _ | _ | _ | _ <;> rfl

theorem ensureDirectory_bare (s : Storage) (way : List String) :
    s.bare.ensureDirectory way = (s.ensureDirectory way).map bare := by
  have there : s.bare.isDirectory way = s.isDirectory way := by
    simp only [isDirectory, follow_bare]
  unfold ensureDirectory
  rw [makeDirectory_bare, there]
  cases s.makeDirectory way with
  | error fault => cases s.isDirectory way <;> rfl
  | ok s' => rfl

theorem makeDirectories_bare (s : Storage) (way : List String) :
    s.bare.makeDirectories way = ((s.makeDirectories way).1, (s.makeDirectories way).2.bare) := by
  fun_induction makeDirectories s way with
  | case1 => rw [makeDirectories, dif_pos rfl]
  | case2 way some_ s' made =>
    rw [makeDirectories, dif_neg some_, ensureDirectory_bare, made]
    rfl
  | case3 way some_ missing fault s' above ih =>
    rw [makeDirectories, dif_neg some_, ensureDirectory_bare, missing]
    simp only [Except.map, ih, above]
  | case4 way some_ missing s' above s'' made ih =>
    rw [makeDirectories, dif_neg some_, ensureDirectory_bare, missing]
    simp only [Except.map, ih, above, ensureDirectory_bare, made]
  | case5 way some_ missing s' above fault failed ih =>
    rw [makeDirectories, dif_neg some_, ensureDirectory_bare, missing]
    simp only [Except.map, ih, above, ensureDirectory_bare, failed]
  | case6 way some_ fault other failed =>
    rw [makeDirectories, dif_neg some_, ensureDirectory_bare, failed]
    simp only [Except.map]

/-- Whether a file can be written does not depend on what the files hold. -/
theorem write_bare (s : Storage) (path : String) (content : Bytes) :
    (s.bare.write path content).map (fun _ => ()) = (s.write path content).map fun _ => () := by
  unfold write
  rw [locate_bare]
  rcases s.locate path with _ | _ | _ | ⟨_, _ | _⟩ <;> rfl

end Bare

end Storage
end TokenClient
