import Attestor.Files
import Attestor.Settings.Conversion
import Attestor.Settings.Environment
import Attestor.Settings.Path

namespace Attestor.Settings

inductive LoadError where
  | notFound (path : String)
  /-- The file cannot be read, or is in no known format. -/
  | unreadable
  | invalid
deriving DecidableEq, Repr

def LoadError.message : LoadError → String
  | notFound path => s!"Config file {path} not found."
  | unreadable => "configuration file cannot be read"
  | invalid => "invalid config"

inductive Format where
  | toml
  | json
  | yaml
  | ini
  | ron
  | json5
deriving DecidableEq, Repr

namespace Format

def all : List Format :=
  [toml, json, yaml, ini, ron, json5]

def extensions : Format → List String
  | toml => ["toml"]
  | json => ["json"]
  | yaml => ["yaml", "yml"]
  | ini => ["ini"]
  | ron => ["ron"]
  | json5 => ["json5"]

def extension? (name : List Char) : Option (List Char) :=
  match name.reverse.span (· != '.') with
  | (_, []) => none
  | (_, [_]) => none
  | (after, _) => some after.reverse

def ofPath? (path : String) : Option Format :=
  ((Text.segments '/' path.toList).getLast?.bind extension?).bind fun extension =>
    all.find? (·.extensions.any (·.toList == extension))

end Format

/-- The formats in the order in which they are tried beside a directory, and how a library reads the
texts of those that are neither TOML nor JSON. -/
structure Formats where
  order : List Format := Format.all
  complete : order.Perm Format.all := by exact .refl _
  library? : Format → String → Option Document

namespace Formats

def read? (formats : Formats) (content : List UInt8) : Format → Option (List (String × Tree))
  | .toml => do
    let text ← Text.decode? content
    return Tree.membersOfToml (← Toml.document? text.toList)
  | .json => do
    let text ← Text.decode? content
    let document ← Json.ofString? text
    if document.depth > SignedAttestation.depthLimit then none
    match ← Tree.ofJson? document with
    | .table members => return members
    | _ => none
  | format => do
    let text ← Text.decode? content
    let document ← formats.library? format text
    return document.val

def extensions (formats : Formats) : List (Format × String) :=
  formats.order.flatMap fun format => format.extensions.map (format, ·)

def plain : Formats where
  library? _ _ := none

end Formats

def sibling? (path : String) (extension : String) : Option String :=
  let parts := (Text.segments '/' path.toList).reverse.dropWhile fun part =>
    part.isEmpty || part == ['.']
  match parts with
  | [] => none
  | part :: _ =>
    if part == ['.', '.'] then none
    else some (String.ofList (['/'].intercalate parts.reverse) ++ "." ++ extension)

def builtIn : Tree :=
  (Tree.table []).setAll [("checks.dry_run", .bool false), ("snakeoil.fail_on", .text "high")]

def ofSources (file : List (String × Tree)) (environment : Environment) : Except LoadError Settings :=
  match ofTree? ((builtIn.setAll file).setAll environment.entries) with
  | some settings => .ok settings
  | none => .error .invalid

section

variable {m : Type → Type} [Monad m]

def readSibling (formats : Formats) (files : FileAccess m) (path : String) :
    List (Format × String) → m (Option (List (String × Tree)))
  | [] => return none
  | (format, extension) :: rest => do
    match Entry.content? (← (sibling? path extension).elim (return none) files.look) with
    | some content => return formats.read? content format
    | none => readSibling formats files path rest

def readFile (formats : Formats) (files : FileAccess m) (path : String) :
    m (Except LoadError (List (String × Tree))) := do
  let found ← match ← files.look path with
    | none => return .error (.notFound path)
    | some (.file content) => pure ((Format.ofPath? path).bind (formats.read? content))
    | some .other => readSibling formats files path formats.extensions
  match found with
  | some entries => return .ok entries
  | none => return .error .unreadable

def load (formats : Formats) (files : FileAccess m) (path : Option String)
    (environment : Environment) : m (Except LoadError Settings) := do
  match path.or (environment.lookup Environment.pathVariable) with
  | none => return ofSources [] environment
  | some path =>
    match ← readFile formats files path with
    | .ok entries => return ofSources entries environment
    | .error error => return .error error

end

end Attestor.Settings
