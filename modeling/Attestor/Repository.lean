import Attestor.Evidence.Build
import Attestor.Evidence.Source
import Attestor.Reply

namespace Attestor

inductive RepositoryError where
  | commitNotFound (url : String)
  | branchNotFound (url : String)
  | request (cause : String)
deriving DecidableEq, Repr

namespace RepositoryError

def message : RepositoryError → String
  | commitNotFound url => s!"commit {url} not found"
  | branchNotFound url => s!"default branch of {url} not found"
  | request _ => "repository provider request failed"

def explanation : RepositoryError → String
  | request cause => (request cause).message ++ ": " ++ cause
  | error => error.message

end RepositoryError

structure RepositoryService where
  commit : BuildDetail → Reply RepositoryError Commit
  defaultBranch : BuildDetail → Reply RepositoryError Branch

end Attestor
