import Attestor.CommandLine.Arguments
import Attestor.Engine.Verify
import Attestor.Evidence.Documents
import Attestor.Settings.Load

namespace Attestor.CommandLine

inductive Failure where
  | settings (cause : Settings.LoadError)
  | noMetadataPath
  | keyRing (path : String) (cause : KeyRingError)
  | image (cause : ImageError)
  | engine (cause : Error)
deriving DecidableEq, Repr

def Failure.message : Failure → String
  | settings cause => cause.message
  | noMetadataPath => "no metadata source configured, set `offline.metadata_path`"
  | keyRing path _ => "load keyring from " ++ path
  | image cause => cause.message
  | engine cause => cause.message

inductive Outcome where
  | report (found : Report)
  | failure (cause : Failure)
  | help
  | version
  | wrong
deriving DecidableEq, Repr

/-- Zero stands for success, one for a negative verdict or a failure, two for a wrong command line. -/
def Outcome.exitCode : Outcome → UInt8
  | report found => if found.success then 0 else 1
  | failure _ => 1
  | help => 0
  | version => 0
  | wrong => 2

namespace Session

variable {m : Type → Type} [Monad m]

abbrev Part (m : Type → Type) (α : Type) := ExceptT Failure m α

def orEnd {α : Type} (result : Except Error α) : Part m α :=
  ExceptT.mk (pure (result.mapError .engine))

def loadStore (files : FileAccess m) (path : Option String) : Part m Store := do
  let some path := path | return {}
  let entry ← files.look path
  if entry.isNone then return {} else orEnd (Store.ofFile path entry)

def loadMetadata (files : FileAccess m) (settings : FileSettings) : Part m (MetadataService × Store) := do
  let some path := settings.metadataPath | throw .noMetadataPath
  let catalogue ← orEnd (Catalogue.ofFile path (← files.look path))
  return (catalogue.service, ← loadStore files settings.attestationsPath)

def loadRepository (files : FileAccess m) (settings : FileSettings) :
    Part m (Option RepositoryService) := do
  let some path := settings.repositoryPath | return none
  let evidence ← orEnd (RepositoryEvidence.ofFile path (← files.look path))
  return some evidence.service

def loadKeyRing (files : FileAccess m) (path : Option String) (now : Nat) : Part m KeyRing := do
  let some path := path | return {}
  match KeyRing.ofFile (Entry.content? (← files.look path)) now with
  | .ok ring => return ring
  | .error cause => throw (.keyRing path cause)

def saveStore (files : FileAccess m) (path : Option String) (store : Store) : Part m Unit := do
  let some path := path | return
  unless ← files.write path (Text.encode store.document) do
    throw (.engine (.offlineEvidence path .unwritable))

def parseImage (text : String) : Part m ImageReference :=
  ExceptT.mk (pure ((ImageReference.parse text).mapError .image))

def canonical (name : String) : String :=
  match CheckName.ofAnyCase? name with
  | some name => name.name
  | none => name

def runChecks (course : Course) (engine : Engine) (image : ImageReference) (names : List String)
    (now : Nat) (store : Store) : Except Error (Option RunOutcome) :=
  if names.isEmpty then .ok (engine.runAlong course image now false store)
  else engine.runChecksAlong course image (names.map canonical) now false store

def operate (course : Course) (files : FileAccess m) (settings : Settings) (engine : Engine)
    (store : Store) (now : Nat) : Operation → Part m Report
  | .check text names => do
    let image ← parseImage text
    let some outcome ← orEnd (runChecks course engine image names now store)
      | throw (.engine .cancelled)
    saveStore files settings.offline.attestationsPath outcome.store
    return outcome.report
  | .verify text => do
    let image ← parseImage text
    match engine.verify image now false store with
    | .value report => return report
    | .failure error => throw (.engine error)
    | .never => throw (.engine .cancelled)

def report (course : Course) (formats : Settings.Formats) (files : FileAccess m)
    (environment : Settings.Environment) (now : Nat) (arguments : Arguments) : Part m Report := do
  let settings ← ExceptT.mk (do
    return (← Settings.load formats files arguments.settingsPath environment).mapError .settings)
  let (metadata, store) ← loadMetadata files settings.offline
  let repository ← loadRepository files settings.offline
  let keyring ← loadKeyRing files settings.keyringPath now
  let engine ← orEnd (Engine.ofSettings settings { metadata, repository } keyring)
  operate course files settings engine store now arguments.operation

def runAlong (course : Course) (formats : Settings.Formats) (files : FileAccess m)
    (environment : Settings.Environment) (now : Nat) (words : List String) : m Outcome := do
  match Invocation.ofWords words with
  | .help => return .help
  | .version => return .version
  | .wrong => return .wrong
  | .run arguments =>
    match ← (report course formats files environment now arguments).run with
    | .ok report => return .report report
    | .error cause => return .failure cause

def run (formats : Settings.Formats) (files : FileAccess m) (environment : Settings.Environment)
    (now : Nat) (words : List String) : m Outcome :=
  runAlong Run.onOneThread formats files environment now words

end Session

end Attestor.CommandLine
