import TokenClient.Bytes
import TokenClient.Text.Split

/-! A working directory: files and directories below it, named by relative paths. -/
namespace TokenClient

inductive StorageFault where
  | notFound
  | exists
  | notDirectory
  | isDirectory
  | notText
  deriving DecidableEq, Repr

def StorageFault.message : StorageFault → String
  | .notFound => "No such file or directory (os error 2)"
  | .exists => "File exists (os error 17)"
  | .notDirectory => "Not a directory (os error 20)"
  | .isDirectory => "Is a directory (os error 21)"
  | .notText => "stream did not contain valid UTF-8"

/-- A place is named by the names on the way to it; the working directory itself by none. -/
abbrev Place := List String

structure Storage where
  files : List (Place × Bytes)
  directories : List Place
  deriving DecidableEq, Repr

namespace Storage

def empty : Storage := ⟨[], []⟩

def parts (path : String) : List String :=
  (Text.splitOn (· == '/') path.toList).map String.ofList

inductive Target where
  | directory (place : Place)
  | file (place : Place)
  /-- Nothing is there, but its directory is; `asDirectory` tells of a slash at the end. -/
  | vacant (place : Place) (asDirectory : Bool)
  deriving DecidableEq, Repr

def follow (s : Storage) (here : Place) : List String → Except StorageFault Target
  | [] => .ok (.directory here)
  | part :: rest =>
    if part = "" ∨ part = "." then s.follow here rest
    else if part = ".." then s.follow here.dropLast rest
    else
      let place := here ++ [part]
      if place ∈ s.directories then s.follow place rest
      else if (s.files.lookup place).isSome then
        if rest = [] then .ok (.file place) else .error .notDirectory
      else if rest.all (· = "") then .ok (.vacant place (rest ≠ []))
      else .error .notFound

def locate (s : Storage) (path : String) : Except StorageFault Target :=
  if path = "" then .error .notFound else s.follow [] (parts path)

def isThere (s : Storage) (path : String) : Bool :=
  match s.locate path with
  | .ok (.directory _) | .ok (.file _) => true
  | _ => false

def read (s : Storage) (path : String) : Except StorageFault String :=
  match s.locate path with
  | .error fault => .error fault
  | .ok (.directory _) => .error .isDirectory
  | .ok (.vacant _ _) => .error .notFound
  | .ok (.file place) =>
    match String.fromUTF8? (ByteArray.mk ((s.files.lookup place).getD []).toArray) with
    | some text => .ok text
    | none => .error .notText

def put (place : Place) (content : Bytes) : List (Place × Bytes) → List (Place × Bytes)
  | [] => [(place, content)]
  | (other, old) :: rest =>
    if other = place then (place, content) :: rest else (other, old) :: put place content rest

def write (s : Storage) (path : String) (content : Bytes) : Except StorageFault Storage :=
  match s.locate path with
  | .error fault => .error fault
  | .ok (.directory _) | .ok (.vacant _ true) => .error .isDirectory
  | .ok (.file place) | .ok (.vacant place false) =>
    .ok { s with files := put place content s.files }

/-- The parts of a path that count: without empty ones, and without dots except in front. -/
def names (path : String) : List String :=
  match parts path with
  | "." :: rest => "." :: rest.filter fun part => part ≠ "" ∧ part ≠ "."
  | all => all.filter fun part => part ≠ "" ∧ part ≠ "."

def makeDirectory (s : Storage) (names : List String) : Except StorageFault Storage :=
  match s.follow [] names with
  | .error fault => .error fault
  | .ok (.directory _) | .ok (.file _) => .error .exists
  | .ok (.vacant place _) => .ok { s with directories := s.directories ++ [place] }

def isDirectory (s : Storage) (names : List String) : Bool :=
  match s.follow [] names with
  | .ok (.directory _) => true
  | _ => false

def ensureDirectory (s : Storage) (names : List String) : Except StorageFault Storage :=
  match s.makeDirectory names with
  | .ok s => .ok s
  | .error fault => if s.isDirectory names then .ok s else .error fault

/-- Makes a directory and, first, those above it that are missing. Those that could be made stay
where it fails. -/
def makeDirectories (s : Storage) (names : List String) : Except StorageFault Unit × Storage :=
  if _some : names = [] then (.ok (), s)
  else
    match s.ensureDirectory names with
    | .ok s => (.ok (), s)
    | .error .notFound =>
      match s.makeDirectories names.dropLast with
      | (.error fault, s) => (.error fault, s)
      | (.ok (), s) =>
        match s.ensureDirectory names with
        | .ok s => (.ok (), s)
        | .error fault => (.error fault, s)
    | .error fault => (.error fault, s)
termination_by names.length
decreasing_by
  have := List.length_pos_iff.2 _some
  simp only [List.length_dropLast]
  omega

/-- A working directory with the given files; the directories above them are there too. -/
def ofFiles (files : List (Place × Bytes)) (directories : List Place) : Storage :=
  let above (place : Place) : List Place :=
    (List.range place.length).filterMap fun size => if size = 0 then none else some (place.take size)
  ⟨files, (files.flatMap fun (place, _) => above place) ++
    (directories.flatMap fun place => above place ++ [place])⟩

end Storage
end TokenClient
