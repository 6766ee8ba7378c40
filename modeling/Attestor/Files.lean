import Attestor.Text.Segments

namespace Attestor

inductive Entry where
  | file (content : List UInt8)
  /-- A directory, or anything else without content to read. -/
  | other
deriving DecidableEq, Repr

def Entry.content? : Option Entry → Option (List UInt8)
  | some (.file content) => some content
  | _ => none

structure FileAccess (m : Type → Type) where
  look : String → m (Option Entry)
  write : String → List UInt8 → m Bool

/-- A tree of files and the directory that a program works in, both by the names that lead there from
the root. -/
structure Files where
  entries : List (List String × Entry) := []
  directory : List String := []
deriving DecidableEq, Repr

namespace Files

def isDirectory (files : Files) (names : List String) : Bool :=
  names.isPrefixOf files.directory || files.entries.any fun (other, entry) =>
    (other = names && entry = .other) || (names.isPrefixOf other && other ≠ names)

/-- Follows the parts of a path from a place. Every part but the last has to end at a directory; the
root is above itself. -/
def follow (files : Files) : List String → List String → Option (List String)
  | names, [] => some names
  | names, part :: parts =>
    if !files.isDirectory names then none
    else if part = "" ∨ part = "." then follow files names parts
    else if part = ".." then follow files names.dropLast parts
    else follow files (names ++ [part]) parts

def locate (files : Files) (path : String) : Option (List String) :=
  if path.isEmpty then none
  else
    let start := if path.toList.head? = some '/' then [] else files.directory
    files.follow start ((Text.segments '/' path.toList).map String.ofList)

def look (files : Files) (path : String) : Option Entry :=
  (files.locate path).bind fun names =>
    if files.isDirectory names then some .other else files.entries.lookup names

def put (names : List String) (content : List UInt8) :
    List (List String × Entry) → List (List String × Entry)
  | [] => [(names, .file content)]
  | (other, entry) :: rest =>
    if other = names then (names, .file content) :: rest
    else (other, entry) :: put names content rest

def write? (files : Files) (path : String) (content : List UInt8) : Option Files :=
  (files.locate path).bind fun names =>
    if files.isDirectory names then none
    else some { files with entries := put names content files.entries }

def access : FileAccess (StateM Files) where
  look path := return (← get).look path
  write path content := do
    match (← get).write? path content with
    | some files =>
      set files
      return true
    | none => return false

end Files

end Attestor
