/-! TOML values, and the tables that a document builds up line by line. -/
namespace TokenClient

/-- Floating-point numbers and dates are kept as they were spelled. -/
inductive Toml where
  | text (value : String)
  | integer (value : Int64)
  | float (spelling : String)
  | boolean (value : Bool)
  | moment (spelling : String)
  | array (items : List Toml)
  | table (members : List (String × Toml))

namespace Toml

/-- How a table came to be: named by its own header, implied by the header of a table inside it, or
made by a dotted key. -/
inductive Origin where
  | header
  | implied
  | dotted
  deriving DecidableEq, Repr

/-- What stands under a key while a document is being read. -/
inductive Entry where
  | value (content : Toml)
  | table (origin : Origin) (members : List (String × Entry))
  /-- One table for each double-bracket header, latest last. -/
  | tables (items : List (List (String × Entry)))

abbrev Members := List (String × Entry)

namespace Entry

mutual

def finish : Entry → Toml
  | .value content => content
  | .table _ members => .table (finishMembers members)
  | .tables items => .array (finishTables items)

def finishMembers : List (String × Entry) → List (String × Toml)
  | [] => []
  | (key, entry) :: rest => (key, entry.finish) :: finishMembers rest

def finishTables : List (List (String × Entry)) → List Toml
  | [] => []
  | members :: rest => .table (finishMembers members) :: finishTables rest

end

end Entry

namespace Members

def find? (members : Members) (key : String) : Option Entry := members.lookup key

def put (members : Members) (key : String) (entry : Entry) : Members :=
  match members with
  | [] => [(key, entry)]
  | (other, old) :: rest =>
    if other = key then (key, entry) :: rest else (other, old) :: put rest key entry

/-- A value under a dotted key. Tables on the way are made where there are none; a table that has a
header of its own must not be entered, and the innermost one must itself be dotted. -/
def assign (inDotted : Bool) (members : Members) : (path : List String) → (key : String) →
    (content : Toml) → Option Members
  | [], key, content =>
    if inDotted ∧ (members.find? key).isNone then some (members.put key (.value content)) else none
  | first :: path, key, content =>
    match members.find? first with
    | none => do
      let inner ← assign true [] path key content
      return members.put first (.table .dotted inner)
    | some (.value _) | some (.table .header _) => none
    | some (.table origin inner) => do
      let inner ← assign (origin = .dotted) inner path key content
      return members.put first (.table origin inner)
    | some (.tables items) => do
      let inner ← assign false (items.getLast?.getD []) path key content
      return members.put first (.tables (items.dropLast ++ [inner]))

/-- Changes the table at a path of headers. Tables on the way are made where there are none, and in
a list of tables the last one is meant. -/
def update (change : Members → Option Members) (members : Members) :
    (path : List String) → Option Members
  | [] => change members
  | first :: path =>
    match members.find? first with
    | none => do
      let inner ← update change [] path
      return members.put first (.table .implied inner)
    | some (.value _) => none
    | some (.table origin inner) => do
      let inner ← update change inner path
      return members.put first (.table origin inner)
    | some (.tables items) => do
      let inner ← update change (items.getLast?.getD []) path
      return members.put first (.tables (items.dropLast ++ [inner]))

/-- A table gets its header. It must not have one yet, nor have been made by a dotted key. -/
def openTable (key : String) (members : Members) : Option Members :=
  match members.find? key with
  | none => some (members.put key (.table .header []))
  | some (.table .implied inner) => some (members.put key (.table .header inner))
  | some _ => none

def openItem (key : String) (members : Members) : Option Members :=
  match members.find? key with
  | none => some (members.put key (.tables [[]]))
  | some (.tables items) => some (members.put key (.tables (items ++ [[]])))
  | some _ => none

end Members

/-- A line of a document that says something. Keys are never empty paths: the last part stands
apart. -/
inductive Statement where
  | header (path : List String) (key : String)
  | itemHeader (path : List String) (key : String)
  | assign (path : List String) (key : String) (content : Toml)

structure Draft where
  members : Members
  current : List String

def Draft.say (draft : Draft) : Statement → Option Draft
  | .header path key => do
    return ⟨← draft.members.update (Members.openTable key) path, path ++ [key]⟩
  | .itemHeader path key => do
    return ⟨← draft.members.update (Members.openItem key) path, path ++ [key]⟩
  | .assign path key content => do
    let change (members : Members) := members.assign true path key content
    return ⟨← draft.members.update change draft.current, draft.current⟩

def ofStatements? (statements : List Statement) : Option (List (String × Toml)) := do
  let draft ← statements.foldlM Draft.say ⟨[], []⟩
  return Entry.finishMembers draft.members

end Toml
end TokenClient
