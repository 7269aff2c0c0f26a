import TokenClient.Proofs.DocumentLimits
import TokenClient.Proofs.Entries

/-! Tables in documents. However a table is written, on one line, under a header, by dotted keys or
by all of these, no two of its members stand under the same key. -/
namespace TokenClient.Toml

/-- No table in this value has two members under one key. -/
inductive Distinct : Toml → Prop where
  | text : Distinct (.text value)
  | integer : Distinct (.integer value)
  | float : Distinct (.float spelling)
  | boolean : Distinct (.boolean value)
  | moment : Distinct (.moment spelling)
  | array : (∀ item ∈ items, Distinct item) → Distinct (.array items)
  | table : (members.map Prod.fst).Nodup → (∀ member ∈ members, Distinct member.2) →
      Distinct (.table members)

namespace Entry

inductive Distinct : Entry → Prop where
  | value : content.Distinct → Distinct (.value content)
  | table : (members.map Prod.fst).Nodup → (∀ member ∈ members, Distinct member.2) →
      Distinct (.table origin members)
  | tables : (∀ members ∈ items, (members.map Prod.fst).Nodup) →
      (∀ members ∈ items, ∀ member ∈ members, Distinct member.2) → Distinct (.tables items)

theorem finishMembers_eq (members : List (String × Entry)) :
    finishMembers members = members.map fun (key, entry) => (key, entry.finish) := by
  induction members with
  | nil => rfl
  | cons member rest ih => rw [finishMembers, ih, List.map_cons]

theorem finishTables_eq (items : List (List (String × Entry))) :
    finishTables items = items.map fun members => .table (finishMembers members) := by
  induction items with
  | nil => rfl
  | cons members rest ih => rw [finishTables, ih, List.map_cons]

theorem keys_finishMembers (members : List (String × Entry)) :
    (finishMembers members).map Prod.fst = members.map Prod.fst := by
  rw [finishMembers_eq, List.map_map]
  rfl

theorem Distinct.finish {entry : Entry} (distinct : entry.Distinct) : entry.finish.Distinct := by
  have members_table {members : List (String × Entry)} (keys : (members.map Prod.fst).Nodup)
      (inner : ∀ member ∈ members, member.2.finish.Distinct) :
      Toml.Distinct (.table (finishMembers members)) := by
    refine .table ((keys_finishMembers members).symm ▸ keys) ?_
    rw [finishMembers_eq, List.forall_mem_map]
    exact inner
  induction distinct with
  | value content =>
    rw [Entry.finish]
    exact content
  | table keys _ inner =>
    rw [Entry.finish]
    exact members_table keys inner
  | tables keys _ inner =>
    rw [Entry.finish, finishTables_eq]
    refine .array (List.forall_mem_map.mpr fun members member => ?_)
    exact members_table (keys members member) (inner members member)

end Entry

namespace Members

/-- Members under keys of their own, at every depth. -/
structure Distinct (members : Members) : Prop where
  keys : (members.map Prod.fst).Nodup
  inner : ∀ member ∈ members, member.2.Distinct

variable {members changed : Members} {key : String} {entry : Entry} {content : Toml}

theorem distinct_nil : Distinct [] := ⟨List.nodup_nil, nofun⟩

theorem mem_put {member : String × Entry} (placed : member ∈ members.put key entry) :
    member = (key, entry) ∨ member ∈ members := by
  fun_induction put members key entry with
  | case1 => exact .inl (List.mem_singleton.mp placed)
  | case2 old rest =>
    rcases List.mem_cons.mp placed with rfl | later
    · exact .inl rfl
    · exact .inr (.tail _ later)
  | case3 other old rest apart ih =>
    rcases List.mem_cons.mp placed with rfl | later
    · exact .inr (.head rest)
    · exact (ih later).imp_right (.tail _)

theorem Distinct.put (distinct : members.Distinct) (fresh : entry.Distinct) (key : String) :
    (members.put key entry).Distinct := by
  refine ⟨?_, fun member placed => ?_⟩
  · have keys := distinct.keys
    clear distinct
    fun_induction Members.put members key entry with
    | case1 => exact List.nodup_singleton key
    | case2 old rest => exact keys
    | case3 other old rest apart ih =>
      obtain ⟨alone, others⟩ := List.nodup_cons.mp keys
      refine List.nodup_cons.mpr ⟨fun again => ?_, ih others⟩
      obtain ⟨member, placed, same⟩ := List.mem_map.mp again
      rcases mem_put placed with rfl | old
      · exact apart same.symm
      · exact alone (same ▸ List.mem_map_of_mem old)
  · rcases mem_put placed with rfl | old
    · exact fresh
    · exact distinct.inner member old

theorem Distinct.find (distinct : members.Distinct) (found : members.find? key = some entry) :
    entry.Distinct := distinct.inner (key, entry) (mem_of_lookup found)

theorem Distinct.table {origin : Origin} (distinct : members.Distinct) :
    Entry.Distinct (.table origin members) := .table distinct.keys distinct.inner

theorem distinct_of_table {origin : Origin} (distinct : Entry.Distinct (.table origin members)) :
    members.Distinct := by
  cases distinct with
  | table keys inner => exact ⟨keys, inner⟩

theorem tables_iff {items : List Members} :
    Entry.Distinct (.tables items) ↔ ∀ members ∈ items, members.Distinct := by
  constructor
  · intro distinct
    cases distinct with
    | tables keys inner => exact fun members item => ⟨keys members item, inner members item⟩
  · exact fun all => .tables (fun members item => (all members item).keys)
      fun members item => (all members item).inner

theorem Distinct.last {items : List Members} (distinct : Entry.Distinct (.tables items)) :
    Members.Distinct (items.getLast?.getD []) := by
  cases last : items.getLast? with
  | none => exact distinct_nil
  | some members => exact tables_iff.mp distinct members (List.mem_of_getLast? last)

theorem Distinct.replaceLast {items : List Members} (distinct : Entry.Distinct (.tables items))
    (fresh : changed.Distinct) : Entry.Distinct (.tables (items.dropLast ++ [changed])) := by
  rw [tables_iff] at distinct ⊢
  intro members item
  rcases List.mem_append.mp item with old | new
  · exact distinct members (List.dropLast_subset items old)
  · rwa [List.mem_singleton.mp new]

theorem Distinct.assign {inDotted : Bool} {path : List String} (distinct : members.Distinct)
    (value : content.Distinct)
    (assigned : members.assign inDotted path key content = some changed) : changed.Distinct := by
  fun_induction Members.assign inDotted members path key content generalizing changed with
  | case1 =>
    cases assigned
    exact distinct.put (.value value) _
  | case3 inDotted members first path key content missing ih =>
    obtain ⟨inner, made, ⟨⟩⟩ := Option.bind_eq_some_iff.mp assigned
    exact distinct.put (ih distinct_nil value made).table first
  | case6 inDotted members first path key content origin inner _ found ih =>
    obtain ⟨inner, made, ⟨⟩⟩ := Option.bind_eq_some_iff.mp assigned
    exact distinct.put (ih (distinct_of_table (distinct.find found)) value made).table first
  | case7 inDotted members first path key content items found ih =>
    obtain ⟨inner, made, ⟨⟩⟩ := Option.bind_eq_some_iff.mp assigned
    have tables := distinct.find found
    exact distinct.put (Distinct.replaceLast tables (ih (Distinct.last tables) value made)) first
  | case2 | case4 | case5 => contradiction

theorem Distinct.update {change : Members → Option Members} {path : List String}
    (keeps : ∀ old new, Distinct old → change old = some new → Distinct new)
    (distinct : members.Distinct) (updated : members.update change path = some changed) :
    changed.Distinct := by
  fun_induction Members.update change members path generalizing changed with
  | case1 => exact keeps _ _ distinct updated
  | case2 members first path missing ih =>
    obtain ⟨inner, made, ⟨⟩⟩ := Option.bind_eq_some_iff.mp updated
    exact distinct.put (ih distinct_nil made).table first
  | case3 => contradiction
  | case4 members first path origin inner found ih =>
    obtain ⟨inner, made, ⟨⟩⟩ := Option.bind_eq_some_iff.mp updated
    exact distinct.put (ih (distinct_of_table (distinct.find found)) made).table first
  | case5 members first path items found ih =>
    obtain ⟨inner, made, ⟨⟩⟩ := Option.bind_eq_some_iff.mp updated
    have tables := distinct.find found
    exact distinct.put (Distinct.replaceLast tables (ih (Distinct.last tables) made)) first

theorem Distinct.finish (distinct : members.Distinct) :
    Toml.Distinct (.table (Entry.finishMembers members)) := by
  have finished : (Entry.table .header members).finish.Distinct := distinct.table.finish
  rwa [Entry.finish] at finished

theorem Distinct.openTable (distinct : members.Distinct)
    (opened : members.openTable key = some changed) : changed.Distinct := by
  unfold Members.openTable at opened
  split at opened
  · cases opened
    exact distinct.put distinct_nil.table key
  · next found =>
    cases opened
    exact distinct.put (distinct_of_table (distinct.find found)).table key
  · contradiction

theorem Distinct.openItem (distinct : members.Distinct)
    (opened : members.openItem key = some changed) : changed.Distinct := by
  unfold Members.openItem at opened
  split at opened
  · cases opened
    exact distinct.put (tables_iff.mpr (by simp [distinct_nil])) key
  · next found =>
    cases opened
    have tables := tables_iff.mp (distinct.find found)
    refine distinct.put (tables_iff.mpr fun members item => ?_) key
    rcases List.mem_append.mp item with old | new
    · exact tables members old
    · rw [List.mem_singleton.mp new]
      exact distinct_nil
  · contradiction

end Members

section Reading

variable {limits : Limits}

theorem distinct_of_word {cs rest : List Char} {value : Toml}
    (read : word? limits cs = some (value, rest)) : value.Distinct := by
  unfold word? at read
  dsimp only at read
  repeat' split at read
  all_goals cases read
  all_goals constructor

/-- What the three readers of values give has distinct keys; the members that are there already
must have them too. -/
theorem distinct_of_readers (limits : Limits) (fuel : Nat) :
    (∀ depth cs value rest, value? limits fuel depth cs = some (value, rest) → value.Distinct) ∧
    (∀ depth cs items rest, items? limits fuel depth cs = some (items, rest) →
      ∀ item ∈ items, item.Distinct) ∧
    ∀ depth members cs more rest, pairs? limits fuel depth members cs = some (more, rest) →
      members.Distinct → more.Distinct := by
  induction fuel with
  | zero => exact ⟨nofun, nofun, nofun⟩
  | succ fuel ih =>
    obtain ⟨values, arrays, tables⟩ := ih
    refine ⟨?_, ?_, ?_⟩
    · intro depth cs value rest read
      unfold value? at read
      split at read
      · obtain ⟨_, _, ⟨⟩⟩ := Option.map_eq_some_iff.mp read
        exact .text
      · obtain ⟨_, _, ⟨⟩⟩ := Option.map_eq_some_iff.mp read
        exact .text
      · split at read
        · contradiction
        · obtain ⟨_, inner, ⟨⟩⟩ := Option.map_eq_some_iff.mp read
          exact .array (arrays _ _ _ _ inner)
      · split at read
        · contradiction
        · split at read
          · cases read
            exact .table List.nodup_nil (List.forall_mem_nil _)
          · obtain ⟨⟨members, _⟩, inner, ⟨⟩⟩ := Option.bind_eq_some_iff.mp read
            exact (tables _ _ _ _ _ inner Members.distinct_nil).finish
      · exact distinct_of_word read
    · intro depth cs items rest read
      unfold items? at read
      split at read
      · cases read
        exact List.forall_mem_nil _
      · obtain ⟨⟨first, _⟩, here, read⟩ := Option.bind_eq_some_iff.mp read
        dsimp only at read
        split at read
        · obtain ⟨⟨others, _⟩, later, ⟨⟩⟩ := Option.bind_eq_some_iff.mp read
          exact List.forall_mem_cons.mpr ⟨values _ _ _ _ here, arrays _ _ _ _ later⟩
        · cases read
          exact List.forall_mem_singleton.mpr (values _ _ _ _ here)
        · contradiction
    · intro depth members cs more rest read distinct
      unfold pairs? at read
      obtain ⟨⟨path, key, _⟩, _, read⟩ := Option.bind_eq_some_iff.mp read
      obtain ⟨_, _, read⟩ := Option.bind_eq_some_iff.mp read
      obtain ⟨⟨content, _⟩, value, read⟩ := Option.bind_eq_some_iff.mp read
      obtain ⟨changed, assigned, read⟩ := Option.bind_eq_some_iff.mp read
      have kept := distinct.assign (values _ _ _ _ value) assigned
      split at read
      · exact tables _ _ _ _ _ read kept
      · cases read
        exact kept
      · contradiction

def Statement.Distinct : Statement → Prop
  | .assign _ _ content => content.Distinct
  | .header .. | .itemHeader .. => True

theorem distinct_of_say {draft next : Draft} {statement : Statement}
    (distinct : draft.members.Distinct) (value : statement.Distinct)
    (said : draft.say statement = some next) : next.members.Distinct := by
  cases statement with
  | header path key =>
    obtain ⟨members, updated, ⟨⟩⟩ := Option.bind_eq_some_iff.mp said
    exact distinct.update (fun _ _ old opened => old.openTable opened) updated
  | itemHeader path key =>
    obtain ⟨members, updated, ⟨⟩⟩ := Option.bind_eq_some_iff.mp said
    exact distinct.update (fun _ _ old opened => old.openItem opened) updated
  | assign path key content =>
    obtain ⟨members, updated, ⟨⟩⟩ := Option.bind_eq_some_iff.mp said
    exact distinct.update (fun _ _ old assigned => old.assign value assigned) updated

theorem distinct_of_statement {fuel : Nat} {cs rest : List Char} {statement : Statement}
    (read : statement? limits fuel cs = some (statement, rest)) : statement.Distinct := by
  unfold statement? at read
  split at read
  · obtain ⟨_, _, read⟩ := Option.bind_eq_some_iff.mp read
    obtain ⟨_, _, read⟩ := Option.bind_eq_some_iff.mp read
    obtain ⟨_, _, read⟩ := Option.bind_eq_some_iff.mp read
    obtain ⟨_, _, ⟨⟩⟩ := Option.bind_eq_some_iff.mp read
    trivial
  · obtain ⟨_, _, read⟩ := Option.bind_eq_some_iff.mp read
    obtain ⟨_, _, read⟩ := Option.bind_eq_some_iff.mp read
    obtain ⟨_, _, ⟨⟩⟩ := Option.bind_eq_some_iff.mp read
    trivial
  · obtain ⟨_, _, read⟩ := Option.bind_eq_some_iff.mp read
    obtain ⟨_, _, read⟩ := Option.bind_eq_some_iff.mp read
    obtain ⟨⟨content, _⟩, value, read⟩ := Option.bind_eq_some_iff.mp read
    obtain ⟨_, _, ⟨⟩⟩ := Option.bind_eq_some_iff.mp read
    exact (distinct_of_readers limits fuel).1 _ _ _ _ value

theorem distinct_of_statements {fuel : Nat} {cs : List Char} {statements : List Statement}
    (read : statements? limits fuel cs = some statements) :
    ∀ statement ∈ statements, statement.Distinct := by
  induction fuel generalizing cs statements with
  | zero => contradiction
  | succ fuel ih =>
    unfold statements? at read
    split at read
    · cases read
      exact List.forall_mem_nil _
    · obtain ⟨⟨statement, _⟩, first, read⟩ := Option.bind_eq_some_iff.mp read
      obtain ⟨others, later, ⟨⟩⟩ := Option.bind_eq_some_iff.mp read
      exact List.forall_mem_cons.mpr ⟨distinct_of_statement first, ih later⟩

end Reading

/-- A document has no table, itself included, with two members under one key. -/
theorem IsDocument.distinct {text : String} {document : List (String × Toml)}
    (isDocument : IsDocument text document) : Distinct (.table document) := by
  obtain ⟨limits, parsed⟩ := isDocument
  obtain ⟨statements, read, said⟩ := Option.bind_eq_some_iff.mp parsed
  obtain ⟨draft, drafted, ⟨⟩⟩ := Option.bind_eq_some_iff.mp said
  have values := distinct_of_statements read
  refine Members.Distinct.finish (foldlM_keeps (P := fun draft => draft.members.Distinct) ?_ drafted
    Members.distinct_nil)
  exact fun draft statement next member said distinct =>
    distinct_of_say distinct (values statement member) said

end TokenClient.Toml
