import Attestor.KeyRing.Error
import Attestor.Metadata
import Attestor.Repository

namespace Attestor

inductive FileFault where
  | unreadable
  | malformed
  | unwritable
deriving DecidableEq, Repr

def FileFault.message (path : String) : FileFault → String
  | unreadable => "read " ++ path
  | malformed => "parse JSON document"
  | unwritable => "write " ++ path

inductive Error where
  | unknownCheck (name : String)
  | missingRepositoryClient (name : String)
  | requiredCheckNotEnabled (name : String)
  | imageReference (cause : ImageError)
  | keyRing (cause : KeyRingError)
  | metadata (cause : MetadataError)
  | repository (cause : RepositoryError)
  | offlineEvidence (path : String) (fault : FileFault)
  | cancelled
deriving DecidableEq, Repr

namespace Error

def message : Error → String
  | unknownCheck name => s!"unknown check `{name}`"
  | missingRepositoryClient name =>
    s!"check `{name}` needs a repository client but none is configured"
  | requiredCheckNotEnabled name => s!"required check `{name}` is not enabled"
  | imageReference _ => "invalid image reference"
  | keyRing _ => "keyring failure"
  | metadata _ => "metadata provider failure"
  | repository _ => "repository provider failure"
  | offlineEvidence path _ => s!"load offline evidence from {path} failed"
  | cancelled => "operation cancelled"

def explanation (error : Error) : String :=
  match error with
  | imageReference (.malformed reference flaw) =>
    error.message ++ ": " ++ (ImageError.malformed reference flaw).message ++ ": " ++ flaw.message
  | imageReference cause => error.message ++ ": " ++ cause.message
  | keyRing cause => error.message ++ ": " ++ cause.message
  | metadata cause => error.message ++ ": " ++ cause.explanation
  | repository cause => error.message ++ ": " ++ cause.explanation
  | offlineEvidence path fault => error.message ++ ": " ++ fault.message path
  | _ => error.message

end Error

end Attestor
