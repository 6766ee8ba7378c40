import Attestor.Evidence
import Attestor.Proofs.Json.Edits

namespace Attestor

open Json

namespace BuildArtifact

def shape : Shape :=
  .record [("id", .value, none), ("checksum", .value, none)]

theorem steady : Steady shape ofJson? :=
  .record fun _ _ slots =>
    .bind (slots.required rfl .value) fun _ =>
    .bind (slots.required rfl .value) fun _ => .refl _

theorem plain (artifact : BuildArtifact) : artifact.toJson.sound (fun _ => false) = true := rfl

theorem ofJson_toJson (artifact : BuildArtifact) : ofJson? artifact.toJson = some artifact := rfl

end BuildArtifact

namespace BuildDetail

def shape : Shape :=
  .record [
    ("repository_url", .value, none),
    ("commit", .value, none),
    ("project_id", .value, some (.text "")),
    ("build_creator", .value, some (.text "")),
    ("build_url", .value, some (.text "")),
    ("artifacts", .list BuildArtifact.shape, some (.arr []))]

theorem steady : Steady shape ofJson? :=
  .record fun _ _ slots =>
    .bind (slots.required rfl .value) fun _ =>
    .bind (slots.required rfl .value) fun _ =>
    .bind (slots.withDefault rfl .value rfl) fun _ =>
    .bind (slots.withDefault rfl .value rfl) fun _ =>
    .bind (slots.withDefault rfl .value rfl) fun _ =>
    .bind (slots.withDefault rfl (.list BuildArtifact.steady) rfl) fun _ => .refl _

theorem plain (detail : BuildDetail) : detail.toJson.sound (fun _ => false) = true := by
  simp [toJson, sound_record, sound_ofList, Json.text, sound, BuildArtifact.plain]

theorem ofJson_toJson (detail : BuildDetail) : ofJson? detail.toJson = some detail := by
  change (list? BuildArtifact.ofJson? (.ofList BuildArtifact.toJson detail.artifacts)).bind
    (fun artifacts => some { detail with artifacts }) = some detail
  rw [list_ofList BuildArtifact.ofJson_toJson]
  rfl

end BuildDetail

namespace Severity

theorem ofJson_toJson (severity : Severity) : ofJson? severity.toJson = some severity := by
  cases severity <;> decide

end Severity

namespace Vulnerability

def shape : Shape :=
  .record [
    ("name", .value, none),
    ("description", .value, some (.text "")),
    ("fix_available", .value, some (.bool false)),
    ("severity", .value, some Severity.unknown.toJson)]

theorem steady : Steady shape ofJson? :=
  .record fun _ _ slots =>
    .bind (slots.required rfl .value) fun _ =>
    .bind (slots.withDefault rfl .value rfl) fun _ =>
    .bind (slots.withDefault rfl .value rfl) fun _ =>
    .bind (slots.withDefault rfl .value (Severity.ofJson_toJson .unknown)) fun _ => .refl _

theorem plain (finding : Vulnerability) : finding.toJson.sound (fun _ => false) = true := rfl

theorem ofJson_toJson (finding : Vulnerability) : ofJson? finding.toJson = some finding := by
  change (Severity.ofJson? finding.severity.toJson).bind
    (fun severity => some { finding with severity }) = some finding
  rw [Severity.ofJson_toJson]
  rfl

end Vulnerability

namespace ImageEvidence

def shape : Shape :=
  .record [
    ("build_detail", .nullable BuildDetail.shape, some .null),
    ("vulnerabilities", .nullable (.list Vulnerability.shape), some .null)]

theorem steady : Steady shape ofJson? :=
  .record fun _ _ slots =>
    .bind (slots.optional rfl BuildDetail.steady) fun _ =>
    .bind (slots.optional rfl (.list Vulnerability.steady)) fun _ => .refl _

theorem plain (evidence : ImageEvidence) : evidence.toJson.sound (fun _ => false) = true := by
  simp [toJson, sound_record, sound_ofOption, sound_ofList, Option.all_eq_true, List.all_eq_true,
    BuildDetail.plain, Vulnerability.plain]

theorem ofJson_toJson (evidence : ImageEvidence) : ofJson? evidence.toJson = some evidence := by
  change (nullable? BuildDetail.ofJson? (.ofOption BuildDetail.toJson evidence.buildDetail)).bind
    (fun buildDetail => (nullable? (list? Vulnerability.ofJson?)
      (.ofOption (.ofList Vulnerability.toJson) evidence.vulnerabilities)).bind
      fun vulnerabilities => some { buildDetail, vulnerabilities }) = some evidence
  rw [nullable_ofOption (fun _ => Json.noConfusion) BuildDetail.ofJson_toJson,
    nullable_ofOption (fun _ => Json.noConfusion) (list_ofList Vulnerability.ofJson_toJson)]
  rfl

end ImageEvidence

namespace CommitRef

def shape : Shape :=
  .record [("url", .value, none)]

theorem steady : Steady shape ofJson? :=
  .record fun _ _ slots => .bind (slots.required rfl .value) fun _ => .refl _

theorem plain (ref : CommitRef) : ref.toJson.sound (fun _ => false) = true := rfl

theorem ofJson_toJson (ref : CommitRef) : ofJson? ref.toJson = some ref := rfl

end CommitRef

namespace PullRequest

def shape : Shape :=
  .record [
    ("is_merged", .value, some (.bool false)),
    ("merge_commit", CommitRef.shape, some (CommitRef.toJson { url := "" })),
    ("has_required_approvals", .value, some (.bool false))]

theorem steady : Steady shape ofJson? :=
  .record fun _ _ slots =>
    .bind (slots.withDefault rfl .value rfl) fun _ =>
    .bind (slots.withDefault rfl CommitRef.steady rfl) fun _ =>
    .bind (slots.withDefault rfl .value rfl) fun _ => .refl _

theorem plain (request : PullRequest) : request.toJson.sound (fun _ => false) = true := rfl

theorem ofJson_toJson (request : PullRequest) : ofJson? request.toJson = some request := rfl

end PullRequest

namespace Commit

def shape : Shape :=
  .record [
    ("url", .value, none),
    ("status", .value, some (.text "")),
    ("is_signed", .value, some (.bool false)),
    ("associated_pull_requests", .list PullRequest.shape, some (.arr []))]

theorem steady : Steady shape ofJson? :=
  .record fun _ _ slots =>
    .bind (slots.required rfl .value) fun _ =>
    .bind (slots.withDefault rfl .value rfl) fun _ =>
    .bind (slots.withDefault rfl .value rfl) fun _ =>
    .bind (slots.withDefault rfl (.list PullRequest.steady) rfl) fun _ => .refl _

theorem plain (commit : Commit) : commit.toJson.sound (fun _ => false) = true := by
  simp [toJson, sound_record, sound_ofList, Json.text, sound, PullRequest.plain]

theorem ofJson_toJson (commit : Commit) : ofJson? commit.toJson = some commit := by
  change (list? PullRequest.ofJson?
      (.ofList PullRequest.toJson commit.associatedPullRequests)).bind
    (fun associatedPullRequests => some { commit with associatedPullRequests }) = some commit
  rw [list_ofList PullRequest.ofJson_toJson]
  rfl

end Commit

namespace Branch

def shape : Shape :=
  .record [
    ("name", .value, none),
    ("commit_refs", .list CommitRef.shape, some (.arr []))]

theorem steady : Steady shape ofJson? :=
  .record fun _ _ slots =>
    .bind (slots.required rfl .value) fun _ =>
    .bind (slots.withDefault rfl (.list CommitRef.steady) rfl) fun _ => .refl _

theorem plain (branch : Branch) : branch.toJson.sound (fun _ => false) = true := by
  simp [toJson, sound_record, sound_ofList, Json.text, sound, CommitRef.plain]

theorem ofJson_toJson (branch : Branch) : ofJson? branch.toJson = some branch := by
  change (list? CommitRef.ofJson? (.ofList CommitRef.toJson branch.commitRefs)).bind
    (fun commitRefs => some { branch with commitRefs }) = some branch
  rw [list_ofList CommitRef.ofJson_toJson]
  rfl

end Branch

namespace RepositoryEvidence

def shape : Shape :=
  .record [
    ("commits", .dictionary Commit.shape, some (.obj [])),
    ("default_branches", .dictionary Branch.shape, some (.obj []))]

theorem steady : Steady shape ofJson? :=
  .record fun _ _ slots =>
    .bind (slots.withDefault rfl (.dictionary Commit.steady) rfl) fun _ =>
    .bind (slots.withDefault rfl (.dictionary Branch.steady) rfl) fun _ => .refl _

theorem plain (evidence : RepositoryEvidence) : evidence.toJson.sound (fun _ => false) = true := by
  simp [toJson, sound_record, sound_ofDictionary, Commit.plain, Branch.plain]

structure Distinct (evidence : RepositoryEvidence) : Prop where
  commits : (evidence.commits.map (·.1)).Nodup
  branches : (evidence.defaultBranches.map (·.1)).Nodup

theorem ofJson_toJson {evidence : RepositoryEvidence} (distinct : evidence.Distinct) :
    ofJson? evidence.toJson = some evidence := by
  change (dictionary? Commit.ofJson? (.ofDictionary Commit.toJson evidence.commits)).bind
    (fun commits => (dictionary? Branch.ofJson?
      (.ofDictionary Branch.toJson evidence.defaultBranches)).bind
      fun defaultBranches => some { commits, defaultBranches }) = some evidence
  rw [dictionary_ofDictionary Commit.ofJson_toJson distinct.commits,
    dictionary_ofDictionary Branch.ofJson_toJson distinct.branches]
  rfl

end RepositoryEvidence

/-- Evidence is read back from every document for it, and no document for an image that was never
scanned is read like one for an image without findings. -/
theorem evidence_restored :
    (∀ evidence : ImageEvidence,
      Restored ImageEvidence.shape ImageEvidence.toJson ImageEvidence.ofJson? evidence) ∧
    (∀ evidence : RepositoryEvidence, evidence.Distinct →
      Restored RepositoryEvidence.shape RepositoryEvidence.toJson RepositoryEvidence.ofJson?
        evidence) ∧
    ∀ unscanned clean : ImageEvidence, unscanned.vulnerabilities = none →
      clean.vulnerabilities = some [] → ∀ first second,
      Edits ImageEvidence.shape unscanned.toJson first →
      Edits ImageEvidence.shape clean.toJson second →
      ImageEvidence.ofJson? first ≠ ImageEvidence.ofJson? second := by
  refine ⟨fun evidence => ?_, fun evidence distinct => ?_, ?_⟩
  · exact ImageEvidence.steady.restored evidence.plain evidence.ofJson_toJson
  · have read := RepositoryEvidence.ofJson_toJson distinct
    exact RepositoryEvidence.steady.restored evidence.plain read
  · intro unscanned clean never empty first second firstEdits secondEdits alike
    have firstRead := ImageEvidence.steady.edits firstEdits unscanned unscanned.ofJson_toJson
    have secondRead := ImageEvidence.steady.edits secondEdits clean clean.ofJson_toJson
    have same : unscanned = clean := by
      rw [firstRead, secondRead] at alike
      exact Option.some.inj alike
    rw [same, empty] at never
    cases never

/-- A commit of which little is stated, in a document with its fields the other way round, and the
shortest documents for an image that was never scanned and one without findings. -/
theorem short_documents_restored :
    let evidence : RepositoryEvidence := { commits := [("c", { url := "u" })] }
    let commit : Json := .record [("is_signed", .bool false), ("url", .text "u")]
    let document : Json := .record [("note", .null), ("commits", .record [("c", commit)])]
    let unscanned : ImageEvidence := {}
    let clean : ImageEvidence := { vulnerabilities := some [] }
    (evidence.Distinct ∧ Edits RepositoryEvidence.shape evidence.toJson document ∧
      (ofBytes? (Text.encode document.pretty)).bind RepositoryEvidence.ofJson? = some evidence) ∧
    Edits ImageEvidence.shape unscanned.toJson (.record []) ∧
    Edits ImageEvidence.shape clean.toJson (.record [("vulnerabilities", .arr [])]) ∧
    ImageEvidence.ofJson? (.record []) ≠
      ImageEvidence.ofJson? (.record [("vulnerabilities", .arr [])]) := by
  intro evidence commit document unscanned clean
  obtain ⟨_, sources, images⟩ := evidence_restored
  have distinct : evidence.Distinct := ⟨by decide, by decide⟩
  let url : Text × Json := (some "url", .text "u")
  let signed : Text × Json := (some "is_signed", .bool false)
  let requests : Text × Json := (some "associated_pull_requests", .arr [])
  have shorter : Edits Commit.shape (Commit.toJson { url := "u" }) (.obj [url, signed]) :=
    .more (.more .none (@Edit.leaveOut _ [url] [signed, requests] "status" _ _ _ rfl .none))
      (@Edit.leaveOut _ [url, signed] [] "associated_pull_requests" _ _ _ rfl .none)
  have swapped : Edits Commit.shape (Commit.toJson { url := "u" }) commit :=
    shorter.more (.reorder (.swap ..))
  let branches : Text × Json := (some "default_branches", .obj [])
  let commits (json : Json) : Text × Json := (some "commits", .obj [(some "c", json)])
  have inside : Edits RepositoryEvidence.shape evidence.toJson (.obj [commits commit, branches]) :=
    swapped.under (fun json => .obj [commits json, branches]) fun _ _ change =>
      @Edit.field _ [] [branches] "commits" (.dictionary Commit.shape) _ _ _ rfl
        (@Edit.entry _ [] [] (some "c") _ _ change)
  have edits : Edits RepositoryEvidence.shape evidence.toJson document :=
    .more (.more inside (@Edit.leaveOut _ [commits commit] [] "default_branches" _ _ _ rfl .none))
      (@Edit.add _ [] [commits commit] "note" .null (by decide))
  have first : Edits ImageEvidence.shape unscanned.toJson (.record []) :=
    .more (.more .none (@Edit.leaveOut _ [] [(some "vulnerabilities", .null)]
      "build_detail" _ _ _ rfl .none)) (@Edit.leaveOut _ [] [] "vulnerabilities" _ _ _ rfl .none)
  have second : Edits ImageEvidence.shape clean.toJson (.record [("vulnerabilities", .arr [])]) :=
    .more .none (@Edit.leaveOut _ [] [(some "vulnerabilities", .arr [])]
      "build_detail" _ _ _ rfl .none)
  refine ⟨⟨distinct, edits, ?_⟩, first, second, images _ _ rfl rfl _ _ first second⟩
  exact (sources evidence distinct).edited _ _ (ofBytes_pretty rfl) edits

end Attestor
