import Attestor.Error
import Attestor.Evidence.Recorded
import Attestor.Files

namespace Attestor

def Entry.document {α : Type} (path : String) (entry : Option Entry)
    (read? : List UInt8 → Option α) : Except Error α :=
  match Entry.content? entry with
  | none => .error (.offlineEvidence path .unreadable)
  | some content =>
    match read? content with
    | some document => .ok document
    | none => .error (.offlineEvidence path .malformed)

def Catalogue.ofFile (path : String) (entry : Option Entry) : Except Error Catalogue := do
  let entries ← Entry.document path entry readDocument?
  (ofEntries entries).mapError .imageReference

def RepositoryEvidence.ofFile (path : String) (entry : Option Entry) :
    Except Error RepositoryEvidence :=
  Entry.document path entry readDocument?

def Store.ofFile (path : String) (entry : Option Entry) : Except Error Store := do
  let list ← Entry.document path entry readDocument?
  (ofList list).mapError .imageReference

def Store.reload (store : Store) (path : String) (entry : Option Entry) : Except Error Unit × Store :=
  match ofFile path entry with
  | .ok loaded => (.ok (), loaded)
  | .error error => (.error error, store)

end Attestor
