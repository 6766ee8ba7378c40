import Attestor.Evidence.Recorded
import Attestor.Proofs.Json.Record
import Attestor.Proofs.Policy.Gates

namespace Attestor

namespace Severity

theorem le_iff_listed (a b : Severity) :
    a ≤ b ↔ a = b ∨ [a, b].Sublist [.negligible, .low, .medium, .unknown, .high, .critical] := by
  cases a <;> cases b <;> decide

theorem le_trans {a b c : Severity} (below : a ≤ b) (above : b ≤ c) : a ≤ c :=
  Nat.le_trans below above

end Severity

namespace Vulnerability

def statedSeverity? (json : Json) : Option Json :=
  json.stated? ["name", "description", "fix_available", "severity"] "severity"

/-- A document in which the severity is left out, with the default written into it. In an array the fields
before it are written too. -/
def classified : Json → Json
  | .obj members => .obj (members ++ [(some "severity", .text "unknown")])
  | .arr items => .arr (items ++ [.text "", .bool false, .text "unknown"].drop (items.length - 1))
  | json => json

theorem ofJson_classified {json : Json} (omitted : statedSeverity? json = none) :
    ofJson? (classified json) = ofJson? json := by
  have unclassified : Severity.ofJson? (.text "unknown") = some .unknown := by decide
  have undescribed : Json.text? (.text "") = some "" := rfl
  cases json with
  | obj members =>
    rw [classified, ofJson?, ofJson?, Json.fields_concat (by decide) omitted]
    cases read : (Json.obj members).fields? ["name", "description", "fix_available", "severity"] with
    | none => rfl
    | some fields =>
      have fresh : fields.lookup "severity" = none :=
        (Json.lookup_fields read (by decide)).trans omitted
      simp [Json.Fields.required, Json.Fields.withDefault, List.lookup_append,
        Associations.lookup_cons_ite, fresh, unclassified]
  | arr items =>
    rcases items with _ | ⟨_, _ | ⟨_, _ | ⟨_, _ | ⟨_, _⟩⟩⟩⟩
    case nil => rfl
    case cons.cons.cons.cons => cases omitted
    all_goals
      simp [ofJson?, classified, Json.fields?, Json.Fields.required, Json.Fields.withDefault,
        Associations.lookup_cons_ite, Json.bool?, undescribed, unclassified]
  | _ => rfl

theorem severity_of_omitted {json : Json} {finding : Vulnerability}
    (omitted : statedSeverity? json = none) (read : ofJson? json = some finding) :
    finding.severity = .unknown := by
  simp only [ofJson?, Option.bind_eq_bind, Option.bind_eq_some_iff, Option.pure_def,
    Option.some.injEq] at read
  obtain ⟨fields, opened, _, _, _, _, _, _, severity, taken, rfl⟩ := read
  rw [statedSeverity?, ← Json.lookup_fields opened (by decide)] at omitted
  rw [Json.Fields.withDefault, omitted] at taken
  exact (Option.some.inj taken).symm

end Vulnerability

namespace ImageEvidence

def statedScan? (json : Json) : Option Json :=
  json.stated? ["build_detail", "vulnerabilities"] "vulnerabilities"

/-- An image counts as scanned if its document states a list of findings, even one without any. -/
theorem vulnerabilities_of_document {json : Json} {evidence : ImageEvidence}
    (read : ofJson? json = some evidence) :
    (statedScan? json = none ∨ statedScan? json = some .null → evidence.vulnerabilities = none) ∧
      ∀ items, statedScan? json = some (.arr items) →
        ∃ scan, items.mapM Vulnerability.ofJson? = some scan ∧ evidence.vulnerabilities = some scan := by
  simp only [ofJson?, Option.bind_eq_bind, Option.bind_eq_some_iff, Option.pure_def,
    Option.some.injEq] at read
  obtain ⟨fields, opened, _, _, scan, taken, rfl⟩ := read
  rw [statedScan?, ← Json.lookup_fields opened (by decide)]
  obtain ⟨absent, given⟩ := Json.Fields.optional_some taken
  exact ⟨absent, fun items stated => given (.arr items) stated (by simp)⟩

end ImageEvidence

namespace Policy

variable {metadata : MetadataService} {image : ImageReference} {threshold lower : Severity}
  {scan : List Vulnerability}

/-- The findings of a scan that reach a threshold, in the order of the scan and as often as it has them. -/
structure AtOrAbove (threshold : Severity) (scan kept : List Vulnerability) : Prop where
  inOrder : kept.Sublist scan
  reach : ∀ finding ∈ kept, threshold ≤ finding.severity
  complete : ∀ finding, threshold ≤ finding.severity → kept.count finding = scan.count finding

/-- A verdict that goes by the findings of a scan that reach a threshold. -/
structure Judges (threshold : Severity) (scan : List Vulnerability) (verdict : Verdict) : Prop where
  rejects_iff : (∃ reason, verdict = .failure (.rejected reason)) ↔
    ∃ finding ∈ scan, threshold ≤ finding.severity
  passes_iff : verdict = .value () ↔ ∀ finding ∈ scan, ¬ threshold ≤ finding.severity
  names : ∀ reason, verdict = .failure (.rejected reason) →
    ∃ kept, AtOrAbove threshold scan kept ∧ reason = .vulnerable kept.length (kept.map (·.name))

def reported : Verdict → List String
  | .failure (.rejected (.vulnerable _ names)) => names
  | _ => []

theorem atOrAbove_filter (threshold : Severity) (scan : List Vulnerability) :
    AtOrAbove threshold scan (scan.filter fun finding => threshold ≤ finding.severity) where
  inOrder := List.filter_sublist
  reach finding member := by simpa using (List.mem_filter.mp member).2
  complete finding reaches := List.count_filter (by simpa using reaches)

theorem reported_scanned (threshold : Severity) (scan : List Vulnerability) :
    reported (scanned threshold scan) = findings threshold scan := by
  unfold scanned
  cases findings threshold scan <;> rfl

theorem findings_sublist (rises : lower ≤ threshold) (scan : List Vulnerability) :
    (findings threshold scan).Sublist (findings lower scan) := by
  have within : (scan.filter fun finding => threshold ≤ finding.severity) =
      (scan.filter fun finding => lower ≤ finding.severity).filter
        fun finding => threshold ≤ finding.severity := by
    rw [List.filter_filter]
    refine List.filter_congr fun finding _ => ?_
    have reaches : threshold ≤ finding.severity → lower ≤ finding.severity := Severity.le_trans rises
    by_cases high : threshold ≤ finding.severity
    · simp [high, reaches high]
    · simp [high]
  unfold findings
  rw [within]
  exact List.filter_sublist.map _

theorem findings_eq_nil_iff (threshold : Severity) (scan : List Vulnerability) :
    findings threshold scan = [] ↔ ∀ finding ∈ scan, ¬ threshold ≤ finding.severity := by
  simp [findings]

theorem judges_scanned (threshold : Severity) (scan : List Vulnerability) :
    Judges threshold scan (scanned threshold scan) := by
  have quiet := findings_eq_nil_iff threshold scan
  unfold scanned
  cases found : findings threshold scan with
  | nil =>
    have below := quiet.mp found
    have none : ¬ ∃ finding ∈ scan, threshold ≤ finding.severity := fun ⟨finding, member, high⟩ =>
      below finding member high
    exact {
      rejects_iff := iff_of_false (by simp) none
      passes_iff := iff_of_true rfl below
      names := by simp }
  | cons name names =>
    have some : ¬ ∀ finding ∈ scan, ¬ threshold ≤ finding.severity := by simp [← quiet, found]
    refine ⟨iff_of_true ⟨_, rfl⟩ (by simpa using some), iff_of_false (by simp) some, ?_⟩
    intro reason rejected
    cases rejected
    refine ⟨_, atOrAbove_filter threshold scan, ?_⟩
    rw [← found, findings, List.length_map]

theorem snakeoil_of_scan (found : metadata.vulnerabilities image = .value scan) :
    snakeoil metadata threshold image = scanned threshold scan := by
  simp only [snakeoil, found, Reply.mapError, Reply.value_bind]

theorem snakeoil_passes_iff :
    snakeoil metadata threshold image = .value () ↔
      ∃ scan, metadata.vulnerabilities image = .value scan ∧
        ∀ finding ∈ scan, ¬ threshold ≤ finding.severity := by
  simp only [snakeoil, Reply.bind_value_iff, Reply.mapError_value_iff,
    (judges_scanned threshold _).passes_iff]

theorem reported_sublist (rises : lower ≤ threshold) (metadata : MetadataService) (image : ImageReference) :
    (reported (snakeoil metadata threshold image)).Sublist (reported (snakeoil metadata lower image)) := by
  cases found : metadata.vulnerabilities image with
  | value scan =>
    rw [snakeoil_of_scan found, snakeoil_of_scan found, reported_scanned, reported_scanned]
    exact findings_sublist rises scan
  | failure | never =>
    simp only [snakeoil, found, Reply.mapError, Reply.failure_bind, Reply.never_bind, reported,
      List.Sublist.refl]

theorem snakeoil_unscanned {catalogue : Catalogue}
    (unscanned : (catalogue.evidence? image).bind (·.vulnerabilities) = none) :
    ∃ reason, snakeoil catalogue.service threshold image =
      .failure (.metadata (.absent .vulnerability reason)) := by
  refine ⟨s!"no vulnerability scan recorded for {image.canonical}", ?_⟩
  simp only [snakeoil, Catalogue.service, Catalogue.vulnerabilities, unscanned, Reply.mapError,
    Reply.failure_bind]

/-- The check rejects an image if and only if its scan has a finding at or above the threshold, and then
it reports the names of all of these. A finding without a severity is taken for an unclassified one, a scan
without findings lets the image pass, and without a scan it does not pass. -/
theorem snakeoil_reports (threshold : Severity) :
    (∀ a b : Severity,
      a ≤ b ↔ a = b ∨ [a, b].Sublist [.negligible, .low, .medium, .unknown, .high, .critical]) ∧
    (∀ metadata image scan, metadata.vulnerabilities image = .value scan →
      Judges threshold scan (snakeoil metadata threshold image)) ∧
    (∀ lower, lower ≤ threshold → ∀ metadata image,
      (reported (snakeoil metadata threshold image)).Sublist
        (reported (snakeoil metadata lower image))) ∧
    (∀ json, Vulnerability.statedSeverity? json = none →
      Vulnerability.ofJson? (Vulnerability.classified json) = Vulnerability.ofJson? json ∧
      ∀ finding, Vulnerability.ofJson? json = some finding → finding.severity = .unknown) ∧
    (∀ metadata image, metadata.vulnerabilities image = .value [] →
      snakeoil metadata threshold image = .value ()) ∧
    (∀ metadata image, (∀ scan, metadata.vulnerabilities image ≠ .value scan) →
      snakeoil metadata threshold image ≠ .value ()) ∧
    ∀ (catalogue : Catalogue) image,
      (catalogue.evidence? image = none →
        ∃ reason, snakeoil catalogue.service threshold image =
          .failure (.metadata (.absent .vulnerability reason))) ∧
      ∀ json evidence, ImageEvidence.ofJson? json = some evidence →
        catalogue.evidence? image = some evidence →
        (ImageEvidence.statedScan? json = none ∨ ImageEvidence.statedScan? json = some .null →
          ∃ reason, snakeoil catalogue.service threshold image =
            .failure (.metadata (.absent .vulnerability reason))) ∧
        (ImageEvidence.statedScan? json = some (.arr []) →
          snakeoil catalogue.service threshold image = .value ()) ∧
        ∀ items, ImageEvidence.statedScan? json = some (.arr items) →
          ∃ scan, items.mapM Vulnerability.ofJson? = some scan ∧
            Judges threshold scan (snakeoil catalogue.service threshold image) := by
  have judged (metadata : MetadataService) (image : ImageReference) (scan : List Vulnerability)
      (found : metadata.vulnerabilities image = .value scan) :
      Judges threshold scan (snakeoil metadata threshold image) := by
    rw [snakeoil_of_scan found]
    exact judges_scanned threshold scan
  have passes (metadata : MetadataService) (image : ImageReference)
      (clean : metadata.vulnerabilities image = .value []) :
      snakeoil metadata threshold image = .value () :=
    (judged metadata image [] clean).passes_iff.mpr (by simp)
  refine ⟨Severity.le_iff_listed, judged, fun lower => reported_sublist, ?_, passes, ?_, ?_⟩
  · intro json omitted
    exact ⟨Vulnerability.ofJson_classified omitted,
      fun finding => Vulnerability.severity_of_omitted omitted⟩
  · intro metadata image unscanned passed
    obtain ⟨scan, found, _⟩ := snakeoil_passes_iff.mp passed
    exact unscanned scan found
  · intro catalogue image
    refine ⟨fun unknown => snakeoil_unscanned (by rw [unknown]; rfl), ?_⟩
    intro json evidence read known
    obtain ⟨unscanned, scanned⟩ := ImageEvidence.vulnerabilities_of_document read
    have listed (items : List Json) (stated : ImageEvidence.statedScan? json = some (.arr items)) :
        ∃ scan, items.mapM Vulnerability.ofJson? = some scan ∧
          catalogue.service.vulnerabilities image = .value scan := by
      obtain ⟨scan, taken, kept⟩ := scanned items stated
      refine ⟨scan, taken, ?_⟩
      simp only [Catalogue.service, Catalogue.vulnerabilities, known, Option.bind_some, kept]
    refine ⟨?_, ?_, ?_⟩
    · intro unstated
      refine snakeoil_unscanned ?_
      rw [known, Option.bind_some, unscanned unstated]
    · intro stated
      obtain ⟨scan, taken, found⟩ := listed [] stated
      cases taken
      exact passes _ _ found
    · intro items stated
      obtain ⟨scan, taken, found⟩ := listed items stated
      exact ⟨scan, taken, judged _ _ _ found⟩

theorem snakeoil_reports_unclassified :
    let scanned : ImageReference := { name := "gcr.io/project/app", digest := "sha256:ab" }
    let clean : ImageReference := { name := "gcr.io/project/clean", digest := "sha256:cd" }
    let unscanned : ImageReference := { name := "gcr.io/project/new", digest := "sha256:ef" }
    let stranger : ImageReference := { name := "gcr.io/other/app", digest := "sha256:ab" }
    let bare : Json := .record [("name", .text "CVE-2024-1")]
    let low : Json := .record [("name", .text "CVE-2024-2"), ("severity", .text "low")]
    let scan : List Vulnerability :=
      [{ name := "CVE-2024-1" }, { name := "CVE-2024-2", severity := .low }, { name := "CVE-2024-1" }]
    let catalogue : Catalogue := {
      entries := [(scanned, { vulnerabilities := some scan }), (clean, { vulnerabilities := some [] }),
        (unscanned, {})] }
    let verdict := snakeoil catalogue.service .medium
    (∃ reason, verdict scanned = .failure (.rejected reason)) ∧
    (reported (verdict scanned)).Sublist (reported (snakeoil catalogue.service .low scanned)) ∧
    (∀ finding, Vulnerability.ofJson? bare = some finding → finding.severity = .unknown) ∧
    (∃ scan, [bare, low, bare].mapM Vulnerability.ofJson? = some scan ∧
      Judges .medium scan (verdict scanned)) ∧
    verdict clean = .value () ∧ verdict unscanned ≠ .value () ∧
    ∀ image ∈ [unscanned, stranger],
      ∃ reason, verdict image = .failure (.metadata (.absent .vulnerability reason)) := by
  intro scanned clean unscanned stranger bare low scan catalogue verdict
  obtain ⟨_, judged, smaller, omitted, passes, never, documents⟩ := snakeoil_reports .medium
  have found : catalogue.service.vulnerabilities scanned = .value scan := by decide
  obtain ⟨_, _, listed⟩ := (documents catalogue scanned).2
    (.record [("vulnerabilities", .arr [bare, low, bare])]) { vulnerabilities := some scan }
    (by decide) (by decide)
  obtain ⟨unread, _, _⟩ := (documents catalogue unscanned).2
    (.record [("vulnerabilities", .null)]) {} (by decide) (by decide)
  refine ⟨?_, smaller .low (by decide) _ _, (omitted bare rfl).2, listed _ rfl, passes _ _ (by decide),
    never _ _ ?_, ?_⟩
  · exact (judged _ _ scan found).rejects_iff.mpr ⟨{ name := "CVE-2024-1" }, by decide, by decide⟩
  · intro other
    have absent : catalogue.service.vulnerabilities unscanned =
        .failure (.absent .vulnerability s!"no vulnerability scan recorded for {unscanned.canonical}") := by
      decide
    simp [absent]
  · have unknown := (documents catalogue stranger).1 (by decide)
    exact List.forall_mem_cons.mpr ⟨unread (.inr rfl), List.forall_mem_singleton.mpr unknown⟩

end Policy

end Attestor
