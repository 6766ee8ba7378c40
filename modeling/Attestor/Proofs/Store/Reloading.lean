import Attestor.Proofs.Evidence.Documents
import Attestor.Proofs.Store.Order

namespace Attestor.Store

open Results

def Unnamed (attestation : SignedAttestation) (cause : ImageError) : Prop :=
  ImageReference.parse attestation.image = .error cause

/-- Why a file of attestations is not loaded. -/
inductive Fault (path : String) (entry : Option Entry) : Error → Prop where
  | unreadable (missing : ∀ content, entry ≠ some (.file content)) :
      Fault path entry (.offlineEvidence path .unreadable)
  | malformed (content : List UInt8) (stands : entry = some (.file content))
      (bad : readDocument? content = none) : Fault path entry (.offlineEvidence path .malformed)
  | unnamed (content : List UInt8) (list : List SignedAttestation) (cause : ImageError)
      (stands : entry = some (.file content)) (read : readDocument? content = some list)
      (fails : FailsFirst Unnamed list cause) : Fault path entry (.imageReference cause)

theorem refile_error_iff {store : Store} {attestation : SignedAttestation} {cause : ImageError} :
    store.refile attestation = .error cause ↔ Unnamed attestation cause := by
  rw [refile, bind_error_iff, Unnamed]
  constructor
  · rintro (failed | ⟨image, _, impossible⟩)
    · exact failed
    · cases impossible
  · exact .inl

theorem ofList_error_iff {list : List SignedAttestation} {cause : ImageError} :
    ofList list = .error cause ↔ FailsFirst Unnamed list cause :=
  foldlM_error_iff (fun _ => True) Unnamed (fun _ _ _ _ _ => trivial)
    (fun _ _ _ _ => refile_error_iff) trivial

variable {path : String} {entry : Option Entry}

theorem ofFile_error_iff {error : Error} : ofFile path entry = .error error ↔ Fault path entry error := by
  rw [ofFile, bind_error_iff, Entry.document_error_iff]
  constructor
  · rintro ((⟨missing, rfl⟩ | ⟨content, stands, bad, rfl⟩) | ⟨list, read, failed⟩)
    · exact .unreadable missing
    · exact .malformed content stands bad
    · obtain ⟨content, stands, read⟩ := Entry.document_ok_iff.mp read
      cases made : ofList list with
      | ok store =>
        rw [made] at failed
        cases failed
      | error cause =>
        rw [made] at failed
        cases failed
        exact .unnamed content list cause stands read (ofList_error_iff.mp made)
  · intro fault
    cases fault with
    | unreadable missing => exact .inl (.inl ⟨missing, rfl⟩)
    | malformed content stands bad => exact .inl (.inr ⟨content, stands, bad, rfl⟩)
    | unnamed content list cause stands read fails =>
      refine .inr ⟨list, Entry.document_ok_iff.mpr ⟨content, stands, read⟩, ?_⟩
      rw [ofList_error_iff.mpr fails]
      rfl

theorem ofFile_loads_iff :
    (∃ loaded, ofFile path entry = .ok loaded) ↔ ∃ content list, entry = some (.file content) ∧
      readDocument? content = some list ∧
      ∀ attestation ∈ list, ∃ image, ImageReference.parse attestation.image = .ok image := by
  constructor
  · rintro ⟨loaded, read⟩
    obtain ⟨content, list, stands, listed, filed⟩ := ofFile_ok_iff.mp read
    exact ⟨content, list, stands, listed, refileAll_ok_iff.mp ⟨loaded, filed⟩⟩
  · rintro ⟨content, list, stands, listed, named⟩
    obtain ⟨loaded, filed⟩ := refileAll_ok_iff.mpr named
    exact ⟨loaded, ofFile_ok_iff.mpr ⟨content, list, stands, listed, filed⟩⟩

theorem ofFile_attestations {loaded : Store} {content : List UInt8} {list : List SignedAttestation}
    (read : ofFile path entry = .ok loaded) (stands : entry = some (.file content))
    (listed : readDocument? content = some list) (image : ImageReference) :
    loaded.attestations image = list.filter (names image) := by
  obtain ⟨_, _, rfl, found, filed⟩ := ofFile_ok_iff.mp read
  cases stands
  cases found.symm.trans listed
  exact attestations_refileAll filed image

/-- Whatever a client holds, loading a file either fails and leaves the attestations of every image as
they are, or succeeds and gives every image those of the file that name it, in the order of the file.
It fails if the file cannot be read, is no list of attestations, or has one that names no image; the
first of these is reported. -/
theorem reload_replaces_or_keeps (held : Store) (path : String) (entry : Option Entry) :
    (∀ error, (held.reload path entry).1 = .error error ↔ Fault path entry error) ∧
    ((held.reload path entry).1 = .ok () ↔ ∃ content list, entry = some (.file content) ∧
      readDocument? content = some list ∧
      ∀ attestation ∈ list, ∃ image, ImageReference.parse attestation.image = .ok image) ∧
    (∀ error, (held.reload path entry).1 = .error error → ∀ (catalogue : Catalogue) image,
      catalogue.service.attestations image (held.reload path entry).2 =
        catalogue.service.attestations image held) ∧
    ∀ content list, entry = some (.file content) → readDocument? content = some list →
      (held.reload path entry).1 = .ok () → ∀ (catalogue : Catalogue) image,
        catalogue.service.attestations image (held.reload path entry).2 =
          .value (list.filter (names image)) := by
  rw [← ofFile_loads_iff]
  simp only [← ofFile_error_iff]
  cases read : ofFile path entry with
  | error error =>
    have kept : held.reload path entry = (.error error, held) := by simp only [reload, read]
    rw [kept]
    refine ⟨by simp, by simp, fun _ _ _ _ => rfl, ?_⟩
    intro _ _ _ _ impossible
    cases impossible
  | ok loaded =>
    have replaced : held.reload path entry = (.ok (), loaded) := by simp only [reload, read]
    rw [replaced]
    refine ⟨by simp, by simp, ?_, ?_⟩
    · intro _ impossible
      cases impossible
    · intro content list stands listed _ catalogue image
      exact congrArg Reply.value (ofFile_attestations read stands listed image)

def spelled : List SignedAttestation :=
  let digest := "@sha256:73d506a23331fce5cb6f49bfb4c27450d2ef4878efce89f03a46b27372a88430"
  let state (image check : String) : SignedAttestation :=
    { checkName := check, image := image ++ digest, body := "", signature := "", keyId := "0x1" }
  [state "docker.io/library/app" "org", state "gcr.io/project/tool" "diy", state "app:v1" "diy"]

theorem reload_replaces_or_keeps_spelled :
    let image : ImageReference :=
      { name := "docker.io/library/app"
        digest := "sha256:73d506a23331fce5cb6f49bfb4c27450d2ef4878efce89f03a46b27372a88430" }
    let tagged : SignedAttestation :=
      { checkName := "diy", image := "gcr.io/project/tool:v1", body := "", signature := ""
        keyId := "0x1" }
    let file (list : List SignedAttestation) : Option Entry :=
      some (.file (Text.encode (Json.ofList SignedAttestation.toJson list).pretty))
    let held : Store := Store.add {} image tagged
    let catalogue : Catalogue := {}
    (held.reload "attestations.json" (file spelled)).1 = .ok () ∧
    catalogue.service.attestations image (held.reload "attestations.json" (file spelled)).2 =
      .value (spelled.filter (names image)) ∧
    (spelled.filter (names image)).map (·.checkName) = ["org", "diy"] ∧
    (held.reload "attestations.json" (file (spelled ++ [tagged]))).1 =
      .error (.imageReference (.missingDigest "gcr.io/project/tool:v1")) ∧
    catalogue.service.attestations image
        (held.reload "attestations.json" (file (spelled ++ [tagged]))).2 =
      .value [tagged] := by
  intro image tagged file held catalogue
  have named : ∀ attestation ∈ spelled, names image attestation = true ∨
      names { name := "gcr.io/project/tool", digest := image.digest } attestation = true := by
    decide +kernel
  have readable : ∀ attestation ∈ spelled,
      ∃ image, ImageReference.parse attestation.image = .ok image := by
    intro attestation member
    rcases named attestation member with first | second
    · exact ⟨_, names_iff.mp first⟩
    · exact ⟨_, names_iff.mp second⟩
  have untold : ImageReference.parse "gcr.io/project/tool:v1" =
      .error (.missingDigest "gcr.io/project/tool:v1") := by
    rfl
  obtain ⟨_, loads, _, answers⟩ :=
    reload_replaces_or_keeps held "attestations.json" (file spelled)
  obtain ⟨faults, _, keeps, _⟩ :=
    reload_replaces_or_keeps held "attestations.json" (file (spelled ++ [tagged]))
  have loaded := loads.mpr ⟨_, spelled, rfl, readDocument_ofList spelled, readable⟩
  have fails : FailsFirst Unnamed (spelled ++ [tagged]) (.missingDigest "gcr.io/project/tool:v1") := by
    refine ⟨spelled, tagged, [], rfl, fun other member cause bad => ?_, untold⟩
    obtain ⟨_, read⟩ := readable other member
    cases read.symm.trans bad
  have failed := (faults _).mpr (.unnamed _ _ _ rfl (readDocument_ofList _) fails)
  refine ⟨loaded, answers _ spelled rfl (readDocument_ofList spelled) loaded catalogue image,
    by decide +kernel, failed, ?_⟩
  rw [keeps _ failed]
  simp only [Catalogue.service, held, attestations_add, ↓reduceIte]
  rfl

end Attestor.Store
