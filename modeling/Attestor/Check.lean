import Attestor.Error
import Attestor.Policy.Review
import Attestor.Policy.Scan
import Attestor.Policy.Trust
import Attestor.Settings

namespace Attestor

structure Check where
  decide : ImageReference → Verdict
  /-- Whether making the check cancels the run that it is part of. -/
  cancels : Bool := false

structure Services where
  metadata : MetadataService
  repository : Option RepositoryService := none

namespace Check

def ofName (name : CheckName) (settings : Settings) (services : Services) : Option Check :=
  let metadata := services.metadata
  match name with
  | .approved => services.repository.map fun repository =>
    { decide := Policy.approved metadata repository }
  | .diy => some { decide := Policy.diy settings.validRepos }
  | .org => some { decide := Policy.org metadata settings.orgUrls }
  | .provenance => some {
      decide := Policy.provenance metadata settings.provenance.trustedBuilderIdentities
        settings.provenance.trustedProjects }
  | .snakeoil => some { decide := Policy.snakeoil metadata settings.failOn }

def ofText (text : String) (settings : Settings) (services : Services) : Except Error Check :=
  match CheckName.ofAnyCase? text with
  | none => .error (.unknownCheck text)
  | some name =>
    match ofName name settings services with
    | some check => .ok check
    | none => .error (.missingRepositoryClient text)

end Check

end Attestor
