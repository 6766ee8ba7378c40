import Attestor.Evidence.Build
import Attestor.Evidence.Vulnerability
import Attestor.Reply
import Attestor.Store

namespace Attestor

inductive MetadataKind where
  | vulnerability
  | buildDetail
  | attestation
deriving DecidableEq, Repr

namespace MetadataKind

def all : List MetadataKind :=
  [vulnerability, buildDetail, attestation]

def name : MetadataKind → String
  | vulnerability => "vulnerability"
  | buildDetail => "build_detail"
  | attestation => "attestation"

def ofName? (text : String) : Option MetadataKind :=
  all.find? (·.name == text)

end MetadataKind

inductive MetadataError where
  | absent (kind : MetadataKind) (reason : String)
  | cannotAttest
  | payload
  | request (cause : String)
deriving DecidableEq, Repr

namespace MetadataError

def message : MetadataError → String
  | absent kind reason => s!"no metadata of type {kind.name} returned: {reason}"
  | cannotAttest => "metadata client is not able to store attestations"
  | payload => "build attestation payload body failed"
  | request _ => "metadata provider request failed"

def explanation : MetadataError → String
  | request cause => (request cause).message ++ ": " ++ cause
  | error => error.message

end MetadataError

structure MetadataService where
  canAttest : Bool
  payloadBody : ImageReference → Except MetadataError String
  vulnerabilities : ImageReference → Reply MetadataError (List Vulnerability)
  buildDetail : ImageReference → Reply MetadataError BuildDetail
  submit : ImageReference → SignedAttestation → Store → Reply MetadataError (SignedAttestation × Store)
  attestations : ImageReference → Store → Reply MetadataError (List SignedAttestation)

end Attestor
