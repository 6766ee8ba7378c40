import Attestor.Evidence.Vulnerability

namespace Attestor

inductive CheckName where
  | approved
  | diy
  | org
  | provenance
  | snakeoil
deriving DecidableEq, Repr

namespace CheckName

def all : List CheckName :=
  [approved, diy, org, provenance, snakeoil]

def name : CheckName → String
  | approved => "approved"
  | diy => "diy"
  | org => "org"
  | provenance => "provenance"
  | snakeoil => "snakeoil"

def ofAnyCase? (text : String) : Option CheckName :=
  all.find? (·.name == text.map Char.toLower)

end CheckName

structure CheckSettings where
  enabled : List String := CheckName.all.map CheckName.name
  required : List String := []
  dryRun : Bool := false
deriving DecidableEq, Repr

structure ProvenanceSettings where
  trustedBuilderIdentities : List String := []
  trustedProjects : List String := []
deriving DecidableEq, Repr

structure FileSettings where
  metadataPath : Option String := none
  repositoryPath : Option String := none
  attestationsPath : Option String := none
deriving DecidableEq, Repr

structure Settings where
  checks : CheckSettings := {}
  keyringPath : Option String := none
  validRepos : List String := []
  orgUrls : List String := []
  provenance : ProvenanceSettings := {}
  failOn : Severity := .high
  offline : FileSettings := {}
deriving DecidableEq, Repr

end Attestor
