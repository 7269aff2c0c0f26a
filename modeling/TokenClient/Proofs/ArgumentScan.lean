import Mathlib.Data.List.TakeWhile
import TokenClient.CommandLine.Grammar
import TokenClient.Proofs.Entries

/-! What the scan makes of arguments that are in order: options in both of their forms, flags and
values of one level, and the words that lead from level to level. -/
namespace TokenClient.CommandLine

/-- It begins as an option does. -/
def Dashed (arg : String) : Prop := arg.toList.head? = some '-'

instance : DecidablePred Dashed := fun _ => inferInstanceAs (Decidable (_ = _))

/-- An option with its value, as one argument with an equals sign or as two. -/
structure Setting where
  name : String
  value : String
  joined : Bool
  deriving DecidableEq, Repr

namespace Setting

def entry (setting : Setting) : String × String := (setting.name, setting.value)

def args (setting : Setting) : List String :=
  if setting.joined then ["--" ++ setting.name ++ "=" ++ setting.value]
  else ["--" ++ setting.name, setting.value]

/-- It is one of these options, with a value that can be read. -/
def Fits (setting : Setting) (options : List (String × ValueKind)) : Prop :=
  ∃ kind, options.lookup setting.name = some kind ∧ kind.check setting.value = .ok () ∧
    (setting.joined = false → ¬ Dashed setting.value)

end Setting

inductive Item where
  | value (value : String)
  | setting (setting : Setting)
  | flag (name : String)
  deriving DecidableEq, Repr

namespace Item

def args : Item → List String
  | value v => [v]
  | setting s => s.args
  | flag name => ["--" ++ name]

def value? : Item → Option String
  | value v => some v
  | _ => none

def setting? : Item → Option Setting
  | setting s => some s
  | _ => none

def flag? : Item → Option String
  | flag name => some name
  | _ => none

end Item

def Given.take (given : Given) : Item → Given
  | .value v => { given with values := given.values ++ [v] }
  | .setting s => { given with options := given.options ++ [s.entry] }
  | .flag name => { given with flags := given.flags ++ [name] }

theorem Given.takes_eq (given : Given) (items : List Item) :
    items.foldl take given =
      ⟨given.values ++ items.filterMap Item.value?,
        given.options ++ (items.filterMap Item.setting?).map Setting.entry,
        given.flags ++ items.filterMap Item.flag?⟩ := by
  induction items generalizing given with
  | nil => simp
  | cons item rest ih =>
    rw [List.foldl_cons, ih]
    cases item <;> simp [take, List.filterMap_cons, Item.value?, Item.setting?, Item.flag?]

section Names

theorem Scan.splitEquals_plain {cs : List Char} (plain : '=' ∉ cs) :
    splitEquals cs = (cs, none) := by
  have through : ∀ c ∈ cs, (c != '=') = true := fun c member => by
    simpa using ne_of_mem_of_not_mem member plain
  simp only [splitEquals, List.dropWhile_eq_nil_iff.mpr through]

theorem Scan.splitEquals_joined {cs : List Char} (plain : '=' ∉ cs) (value : List Char) :
    splitEquals (cs ++ '=' :: value) = (cs, some value) := by
  have through : ∀ c ∈ cs, (c != '=') = true := fun c member => by
    simpa using ne_of_mem_of_not_mem member plain
  have rest : (cs ++ '=' :: value).dropWhile (· != '=') = '=' :: value := by
    rw [List.dropWhile_append_of_pos through, List.dropWhile_cons_of_neg (by decide)]
  have name : (cs ++ '=' :: value).takeWhile (· != '=') = cs := by
    rw [List.takeWhile_append_of_pos through, List.takeWhile_cons_of_neg (by decide),
      List.append_nil]
  simp only [splitEquals, rest, name]

/-- The names of a level are not mistaken for one another, and every level has the common options.
Values and further words do not come together. -/
structure Shape.Legible (shape : Shape) : Prop where
  words : ∀ branch ∈ shape.branches, ¬ Dashed branch.1
  shared : everywhere <+: shape.options
  options : ∀ option ∈ shape.options, option.1 ≠ "" ∧ '=' ∉ option.1.toList
  flags : ∀ name ∈ shape.flags, name ≠ "" ∧ '=' ∉ name.toList ∧ shape.options.lookup name = none ∧
    name ≠ "help" ∧ (name = "version" → shape.hasVersion = false)
  values : shape.positionals = 0 ∨ shape.branches = []

variable {shape : Shape}

theorem Shape.Legible.fits_shared (legible : shape.Legible) {setting : Setting}
    (fits : setting.Fits everywhere) : setting.Fits shape.options := by
  obtain ⟨kind, found, fine⟩ := fits
  obtain ⟨own, same⟩ := legible.shared
  refine ⟨kind, ?_, fine⟩
  rw [← same, List.lookup_append, found, Option.some_or]

theorem Shape.Legible.not_branch (legible : shape.Legible) {arg : String} (dashed : Dashed arg) :
    shape.hasBranch arg = false := by
  have word : shape.branch? arg = none := by
    rw [Option.eq_none_iff_forall_not_mem]
    intro inner found
    exact legible.words _ (mem_of_lookup found) dashed
  have help : arg ≠ "help" := by
    rintro rfl
    exact absurd dashed (by decide)
  simp [Shape.hasBranch, word, help]

theorem Shape.not_branch_of_leaf (leaf : shape.branches = []) (arg : String) :
    shape.hasBranch arg = false := by
  simp [hasBranch, branch?, leaf]

end Names

namespace Scan

variable {state : Scan} {shape : Shape} {given final : Given} {arg name value : String}
  {kind : ValueKind}

/-- Nothing waits for its value, and with what waits to be checked the level has been given this. -/
def Holds (state : Scan) (shape : Shape) (given : Given) : Prop :=
  state.settle shape = .ok ⟨given, none, false⟩

theorem Holds.settled (holds : state.Holds shape given) :
    state.settle shape = .ok ⟨given, none, false⟩ := holds

theorem holds_start (shape : Shape) : start.Holds shape ⟨[], [], []⟩ := rfl

theorem accept_eq (known : shape.options.lookup name = some kind)
    (checked : kind.check value = .ok ()) (fresh : given.options.lookup name = none) :
    accept given shape name value =
      .ok { given with options := given.options ++ [(name, value)] } := by
  simp only [accept, fresh, known, Option.isSome_none, Bool.false_eq_true, ↓reduceIte,
    Option.getD_some, checked]
  rfl

theorem accept_values {later : Given} (accepted : accept given shape name value = .ok later) :
    later.values = given.values := by
  unfold accept at accepted
  split at accepted
  · cases accepted
  · cases checked : ((shape.options.lookup name).getD .text).check value with
    | error fault =>
      rw [checked] at accepted
      cases accepted
    | ok =>
      rw [checked] at accepted
      cases accepted
      rfl

theorem Holds.still (holds : state.Holds shape given) :
    state.trailing = false ∧ state.expectsValue = false ∧ state.given.values = given.values := by
  obtain ⟨before, pending, trailing⟩ := state
  unfold Holds settle at holds
  match pending with
  | none =>
    cases holds
    exact ⟨rfl, rfl, rfl⟩
  | some (name, none) => cases holds
  | some (name, some value) =>
    cases accepted : accept before shape name value with
    | error fault =>
      simp only [accepted] at holds
      cases holds
    | ok later =>
      simp only [accepted] at holds
      cases holds
      exact ⟨rfl, rfl, (accept_values accepted).symm⟩

theorem scan_cons (stays : state.expectsValue = true ∨ shape.hasBranch arg = false)
    (rest : List String) :
    scan shape state (arg :: rest) = state.step shape arg >>= (scan shape · rest) := by
  rw [scan, if_neg]
  rcases stays with waits | none
  · simp [waits]
  · simp [none]

theorem step_plain (inOrder : state.trailing = false) (plain : ¬ Dashed arg) :
    state.step shape arg = match state.pending with
      | some (name, none) => .ok { state with pending := some (name, some arg) }
      | _ => state.positional shape arg := by
  rw [step, if_neg (by simp [inOrder])]
  unfold Dashed at plain
  split
  · simp_all
  · simp_all
  · simp_all
  · rfl

theorem Holds.step_value (holds : state.Holds shape given) (plain : ¬ Dashed value) :
    state.step shape value = state.positional shape value := by
  obtain ⟨inOrder, still, _⟩ := holds.still
  rw [step_plain inOrder plain]
  split
  · next waits => simp [expectsValue, waits] at still
  · rfl

theorem step_long {body : List Char} (inOrder : state.trailing = false)
    (spelled : arg.toList = '-' :: '-' :: body) (more : body ≠ []) :
    state.step shape arg = state.long shape body := by
  rw [step, if_neg (by simp [inOrder]), spelled]
  cases body with
  | nil => contradiction
  | cons c rest => rfl

/-- From this state the arguments bring the level to hold what is said, whatever follows them. -/
def Reads (state : Scan) (shape : Shape) (args : List String) (final : Given) : Prop :=
  ∃ later : Scan, later.Holds shape final ∧
    ∀ rest, scan shape state (args ++ rest) = scan shape later rest

theorem Reads.append {args more : List String} (reads : state.Reads shape args given)
    (goes : ∀ later : Scan, later.Holds shape given → later.Reads shape more final) :
    state.Reads shape (args ++ more) final := by
  obtain ⟨middle, holds, first⟩ := reads
  obtain ⟨later, held, second⟩ := goes middle holds
  refine ⟨later, held, fun rest => ?_⟩
  rw [List.append_assoc, first, second]

theorem reads_of_step {later : Scan} (stays : shape.hasBranch arg = false)
    (steps : state.step shape arg = .ok later) (held : later.Holds shape final) :
    state.Reads shape [arg] final := by
  refine ⟨later, held, fun rest => ?_⟩
  rw [List.singleton_append, scan_cons (.inr stays), steps]
  rfl

theorem reads_value (legible : shape.Legible) (holds : state.Holds shape given)
    (plain : ¬ Dashed value) (room : given.values.length < shape.positionals) :
    state.Reads shape [value] (given.take (.value value)) := by
  have leaf : shape.branches = [] := legible.values.resolve_left (by omega)
  have steps : state.step shape value = .ok ⟨given.take (.value value), none, false⟩ := by
    rw [holds.step_value plain, positional, if_pos (by rwa [holds.still.2.2]), holds.settled]
    rfl
  exact reads_of_step (Shape.not_branch_of_leaf leaf value) steps rfl

theorem dashed_option (name rest : String) : Dashed ("--" ++ name ++ rest) := by
  simp [Dashed]

theorem reads_setting {setting : Setting} (legible : shape.Legible)
    (holds : state.Holds shape given) (fits : setting.Fits shape.options)
    (fresh : given.options.lookup setting.name = none) :
    state.Reads shape setting.args (given.take (.setting setting)) := by
  obtain ⟨kind, known, checked, apart⟩ := fits
  obtain ⟨name, value, joined⟩ := setting
  obtain ⟨named, plain⟩ := legible.options _ (mem_of_lookup known)
  have accepted := accept_eq known checked fresh
  have inOrder := holds.still.1
  cases joined with
  | true =>
    have spelled : ("--" ++ name ++ "=" ++ value).toList =
        '-' :: '-' :: (name.toList ++ '=' :: value.toList) := by
      simp
    have steps : state.step shape ("--" ++ name ++ "=" ++ value) =
        .ok ⟨given.take (.setting ⟨name, value, true⟩), none, false⟩ := by
      rw [step_long inOrder spelled (by simp), long, splitEquals_joined plain]
      simp only [String.ofList_toList, known, Option.isSome_some, ↓reduceIte, holds.settled]
      exact congrArg (Except.map fun given => (⟨given, none, false⟩ : Scan)) accepted
    have dashed : Dashed ("--" ++ name ++ "=" ++ value) := by
      rw [String.append_assoc]
      exact dashed_option name _
    exact reads_of_step (legible.not_branch dashed) steps rfl
  | false =>
    have spelled : ("--" ++ name).toList = '-' :: '-' :: name.toList := by simp
    have first : state.step shape ("--" ++ name) = .ok ⟨given, some (name, none), false⟩ := by
      rw [step_long inOrder spelled (by simpa using named), long, splitEquals_plain plain]
      simp only [String.ofList_toList, known, Option.isSome_some, ↓reduceIte, holds.settled]
      rfl
    have dashed : Dashed ("--" ++ name) := by simp [Dashed]
    refine ⟨⟨given, some (name, some value), false⟩, ?_, fun rest => ?_⟩
    · exact congrArg (Except.map fun given => (⟨given, none, false⟩ : Scan)) accepted
    · calc scan shape state (("--" ++ name) :: value :: rest)
          = scan shape ⟨given, some (name, none), false⟩ (value :: rest) := by
            rw [scan_cons (.inr (legible.not_branch dashed)), first]
            rfl
        _ = scan shape ⟨given, some (name, some value), false⟩ rest := by
            rw [scan_cons (.inl rfl), step_plain rfl (apart rfl)]
            rfl

theorem reads_flag (legible : shape.Legible) (holds : state.Holds shape given)
    (known : name ∈ shape.flags) (fresh : name ∉ given.flags) :
    state.Reads shape ["--" ++ name] (given.take (.flag name)) := by
  obtain ⟨named, plain, free, help, version⟩ := legible.flags name known
  have spelled : ("--" ++ name).toList = '-' :: '-' :: name.toList := by simp
  have tells : ¬ (name = "version" ∧ shape.hasVersion = true) := by
    rintro ⟨same, has⟩
    rw [version same] at has
    cases has
  have steps : state.step shape ("--" ++ name) =
      .ok ⟨given.take (.flag name), none, false⟩ := by
    rw [step_long holds.still.1 spelled (by simpa using named), long, splitEquals_plain plain]
    simp only [String.ofList_toList, free, Option.isSome_none, Bool.false_eq_true, ↓reduceIte,
      help, tells, known, or_true, holds.settled]
    simp only [bind, Except.bind, pure, Except.pure, fresh, ↓reduceIte]
    rfl
  exact reads_of_step (legible.not_branch (by simp [Dashed])) steps rfl

theorem scan_word {inner : Shape} (holds : state.Holds shape given)
    (leads : shape.branch? arg = some inner) (rest : List String) :
    scan shape state (arg :: rest) = (scan inner .start rest).map (.node given arg) := by
  have branch : shape.hasBranch arg = true := by simp [Shape.hasBranch, leads]
  rw [scan, if_pos (by simp [holds.still.1, holds.still.2.1, branch]), leads]
  simp only [finish, holds.settled]
  cases scan inner .start rest <;> rfl

section Ends

variable (holds : state.Holds shape given) (leaf : shape.branches = [])
include holds leaf

theorem scan_end : scan shape state [] =
    if given.values.length < shape.positionals then .error .missingArgument
    else .ok (.leaf given) := by
  simp only [scan, finish, holds.settled, leaf, bind, Except.bind, List.isEmpty_nil, Bool.not_true,
    Bool.false_eq_true, ↓reduceIte]
  split <;> rfl

theorem scan_end_value (enough : given.values.length = shape.positionals)
    (plain : ¬ Dashed value) : scan shape state [value] = .error .unknownArgument := by
  obtain ⟨inOrder, _, values⟩ := holds.still
  rw [scan_cons (.inr (Shape.not_branch_of_leaf leaf value)), holds.step_value plain, positional,
    values, if_neg (by omega), if_neg (by simp [inOrder]), if_pos (by simp [leaf])]
  rfl

end Ends
end Scan

/-- A level can be given these items in their order. -/
structure Shape.Takes (shape : Shape) (given : Given) (items : List Item) : Prop where
  room : given.values.length + (items.filterMap Item.value?).length ≤ shape.positionals
  plain : ∀ v ∈ items.filterMap Item.value?, ¬ Dashed v
  known : ∀ s ∈ items.filterMap Item.setting?, s.Fits shape.options
  once : ((given.options ++ (items.filterMap Item.setting?).map Setting.entry).map Prod.fst).Nodup
  flags : ∀ name ∈ items.filterMap Item.flag?, name ∈ shape.flags
  flagged : (given.flags ++ items.filterMap Item.flag?).Nodup

namespace Shape.Takes

variable {shape : Shape} {given : Given} {item : Item} {items fewer : List Item}

theorem sublist (takes : shape.Takes given items) (part : fewer.Sublist items) :
    shape.Takes given fewer where
  room := by
    have shorter := (part.filterMap Item.value?).length_le
    have room := takes.room
    omega
  plain v member := takes.plain v ((part.filterMap _).subset member)
  known s member := takes.known s ((part.filterMap _).subset member)
  once := takes.once.sublist
    ((((part.filterMap _).map _).append_left _).map _)
  flags name member := takes.flags name ((part.filterMap _).subset member)
  flagged := takes.flagged.sublist ((part.filterMap _).append_left _)

theorem tail (takes : shape.Takes given (item :: items)) : shape.Takes (given.take item) items where
  room := by
    have room := takes.room
    cases item <;> simp [Given.take, List.filterMap_cons, Item.value?] at room ⊢ <;> omega
  plain := (takes.sublist (List.sublist_cons_self _ _)).plain
  known := (takes.sublist (List.sublist_cons_self _ _)).known
  once := by
    have once := takes.once
    cases item <;> simpa [Given.take, List.filterMap_cons, Item.setting?] using once
  flags := (takes.sublist (List.sublist_cons_self _ _)).flags
  flagged := by
    have flagged := takes.flagged
    cases item <;> simpa [Given.take, List.filterMap_cons, Item.flag?] using flagged

theorem reads_item (takes : shape.Takes given (item :: items)) (legible : shape.Legible)
    {state : Scan} (holds : state.Holds shape given) :
    state.Reads shape item.args (given.take item) := by
  cases item with
  | value v =>
    have room := takes.room
    rw [List.filterMap_cons_some (show Item.value? (.value v) = some v from rfl),
      List.length_cons] at room
    exact Scan.reads_value legible holds (takes.plain v (by simp [Item.value?])) (by omega)
  | setting s =>
    have once := takes.once
    rw [List.filterMap_cons_some (show Item.setting? (.setting s) = some s from rfl), List.map_cons,
      List.map_append, List.nodup_append] at once
    have fresh : given.options.lookup s.name = none := by
      rw [List.lookup_eq_none_iff]
      intro entry member
      have other := once.2.2 entry.1 (List.mem_map_of_mem member) s.name (by simp [Setting.entry])
      simpa using other.symm
    exact Scan.reads_setting legible holds (takes.known s (by simp [Item.setting?])) fresh
  | flag name =>
    have flagged := takes.flagged
    rw [List.filterMap_cons_some (show Item.flag? (.flag name) = some name from rfl),
      List.nodup_append] at flagged
    refine Scan.reads_flag legible holds (takes.flags name (by simp [Item.flag?])) ?_
    intro member
    exact flagged.2.2 name member name (by simp) rfl

theorem reads (takes : shape.Takes given items) (legible : shape.Legible) {state : Scan}
    (holds : state.Holds shape given) :
    state.Reads shape (items.flatMap Item.args) (items.foldl Given.take given) := by
  induction items generalizing given state with
  | nil => exact ⟨state, holds, fun _ => rfl⟩
  | cons item rest ih =>
    rw [List.flatMap_cons]
    exact (takes.reads_item legible holds).append fun _ held => ih takes.tail held

end Shape.Takes

/-- The words lead from level to level. -/
inductive Leads : Shape → List String → Shape → Prop where
  | here (shape : Shape) : Leads shape [] shape
  | down {shape inner leaf : Shape} {word : String} {rest : List String}
      (legible : shape.Legible) (branch : shape.branch? word = some inner)
      (leads : Leads inner rest leaf) : Leads shape (word :: rest) leaf

/-- The options that stand before a word, and the word. -/
abbrev Stretch := List Setting × String

def Stretch.args (stretch : Stretch) : List String :=
  stretch.1.flatMap Setting.args ++ [stretch.2]

def Stretch.given (stretch : Stretch) : Given := ⟨[], stretch.1.map Setting.entry, []⟩

/-- What the levels on the way have been given, around what the last ones have. -/
def enclose (way : List Stretch) (found : Matches) : Matches :=
  way.foldr (fun stretch => .node stretch.given stretch.2) found

theorem Stretch.reads {shape : Shape} (stretch : Stretch) (legible : shape.Legible)
    (shared : ∀ s ∈ stretch.1, s.Fits everywhere)
    (once : (stretch.1.map Setting.name).Nodup) :
    Scan.start.Reads shape (stretch.1.flatMap Setting.args) stretch.given := by
  have settings : (stretch.1.map Item.setting).filterMap Item.setting? = stretch.1 := by
    simp [List.filterMap_map, Item.setting?, Function.comp_def]
  have values : (stretch.1.map Item.setting).filterMap Item.value? = [] := by
    simp [List.filterMap_map, Item.value?, Function.comp_def]
  have flags : (stretch.1.map Item.setting).filterMap Item.flag? = [] := by
    simp [List.filterMap_map, Item.flag?, Function.comp_def]
  have takes : shape.Takes ⟨[], [], []⟩ (stretch.1.map Item.setting) :=
    { room := by simp [values]
      plain := by simp [values]
      known := by
        rw [settings]
        exact fun s member => legible.fits_shared (shared s member)
      once := by
        rw [settings, List.nil_append, List.map_map]
        exact once
      flags := by simp [flags]
      flagged := by simp [flags] }
  have reads := takes.reads legible (Scan.holds_start shape)
  rw [Given.takes_eq, settings, values, flags, List.flatMap_map] at reads
  exact reads

theorem Leads.scan_way {shape leaf : Shape} {way : List Stretch}
    (leads : Leads shape (way.map Prod.snd) leaf)
    (shared : ∀ s ∈ way.flatMap Prod.fst, s.Fits everywhere)
    (once : ((way.flatMap Prod.fst).map Setting.name).Nodup) (rest : List String) :
    scan shape .start (way.flatMap Stretch.args ++ rest) =
      (scan leaf .start rest).map (enclose way) := by
  induction way generalizing shape with
  | nil =>
    cases leads
    exact (Except.map_id.symm ▸ rfl)
  | cons stretch way ih =>
    cases leads with
    | down legible branch leads =>
      rw [List.flatMap_cons] at shared once
      rw [List.map_append, List.nodup_append] at once
      obtain ⟨later, held, goes⟩ := stretch.reads legible
        (fun s member => shared s (List.mem_append_left _ member)) once.1
      rw [List.flatMap_cons, Stretch.args, List.append_assoc, List.append_assoc, goes,
        List.singleton_append, Scan.scan_word held branch,
        ih leads (fun s member => shared s (List.mem_append_right _ member)) once.2.1]
      cases scan leaf .start rest <;> rfl

end TokenClient.CommandLine
