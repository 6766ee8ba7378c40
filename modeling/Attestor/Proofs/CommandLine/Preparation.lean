import Attestor.Proofs.CommandLine.Parts
import Attestor.Proofs.Engine.Selection
import Attestor.Proofs.Files

namespace Attestor.CommandLine.Session

open Results

variable {course : Course} {formats : Settings.Formats} {files after : Files}
  {environment : Settings.Environment} {now : Nat}

/-- What is loaded from the files beside the attestations. -/
structure Prepared (formats : Settings.Formats) (files : Files)
    (environment : Settings.Environment) (now : Nat) (settingsPath : Option String)
    (settings : Settings) (catalogue : Catalogue) (keyring : KeyRing)
    (engine : Engine) : Prop where
  loaded : (Settings.load formats Files.access settingsPath environment files).1 = .ok settings
  recorded : ∃ path, settings.offline.metadataPath = some path ∧
    Catalogue.ofFile path (files.look path) = .ok catalogue
  signers : (loadKeyRing Files.access settings.keyringPath now files).1 = .ok keyring
  built : ∃ repository, (loadRepository Files.access settings.offline files).1 = .ok repository ∧
    Engine.ofSettings settings { metadata := catalogue.service, repository } keyring = .ok engine

theorem loadMetadata_reads (settings : FileSettings) :
    Attestor.Reads (loadMetadata Files.access settings) := by
  unfold loadMetadata
  cases settings.metadataPath with
  | none => exact fun _ => rfl
  | some path =>
    refine part_reads (look_part path) fun entry => ?_
    refine part_reads (fun _ => rfl) fun catalogue => ?_
    exact part_reads (loadStore_reads _) fun store => .ret _

theorem loadMetadata_ok_iff {settings : FileSettings} {metadata : MetadataService} {store : Store} :
    (loadMetadata Files.access settings files).1 = .ok (metadata, store) ↔
      ∃ path catalogue, settings.metadataPath = some path ∧
        Catalogue.ofFile path (files.look path) = .ok catalogue ∧ metadata = catalogue.service ∧
        (loadStore Files.access settings.attestationsPath files).1 = .ok store := by
  rw [reads_value_iff (loadMetadata_reads settings)]
  unfold loadMetadata
  cases settings.metadataPath with
  | none =>
    constructor
    · intro made
      cases made
    · intro given
      obtain ⟨path, catalogue, impossible, _⟩ := given
      cases impossible
  | some path =>
    simp only [reads_bind_ok_iff (look_part path), orEnd_ok_iff,
      reads_bind_ok_iff (loadStore_reads settings.attestationsPath)]
    constructor
    · intro given
      obtain ⟨entry, seen, catalogue, read, kept, held, made⟩ := given
      cases seen
      cases made
      exact ⟨path, catalogue, rfl, read, rfl, held⟩
    · intro given
      obtain ⟨other, catalogue, same, read, rfl, held⟩ := given
      cases same
      exact ⟨files.look path, rfl, catalogue, read, store, held, rfl⟩

theorem loadSettings_reads (formats : Settings.Formats) (settingsPath : Option String)
    (environment : Settings.Environment) :
    Attestor.Reads (ExceptT.mk (do
      return (← Settings.load formats Files.access settingsPath environment).mapError .settings) :
        Part (StateM Files) Settings) :=
  Reads.bind (Settings.load_reads settingsPath environment) fun _ => .ret _

theorem report_ok_iff {arguments : Arguments} {found : Report} :
    report course formats Files.access environment now arguments files = (.ok found, after) ↔
      ∃ settings catalogue keyring engine store,
        Prepared formats files environment now arguments.settingsPath settings catalogue keyring engine ∧
        (loadStore Files.access settings.offline.attestationsPath files).1 = .ok store ∧
        operate course Files.access settings engine store now arguments.operation files =
          (.ok found, after) := by
  simp only [report, reads_bind_ok_iff (loadSettings_reads _ _ _),
    reads_bind_ok_iff (loadMetadata_reads _), reads_bind_ok_iff (loadRepository_reads _),
    reads_bind_ok_iff (loadKeyRing_reads _ _), orEnd_ok_iff]
  constructor
  · intro given
    obtain ⟨settings, loaded, ⟨metadata, store⟩, gathered, repository, evidence, keyring,
      signers, engine, built, operated⟩ := given
    obtain ⟨path, catalogue, place, read, rfl, held⟩ := loadMetadata_ok_iff.mp gathered
    refine ⟨settings, catalogue, keyring, engine, store, ?_, held, operated⟩
    exact ⟨mapError_ok_iff.mp loaded, ⟨path, place, read⟩, signers, repository, evidence, built⟩
  · intro given
    obtain ⟨settings, catalogue, keyring, engine, store, prepared, held, operated⟩ := given
    obtain ⟨loaded, ⟨path, place, read⟩, signers, repository, evidence, built⟩ := prepared
    refine ⟨settings, mapError_ok_iff.mpr loaded, (catalogue.service, store), ?_, repository,
      evidence, keyring, signers, engine, built, operated⟩
    exact loadMetadata_ok_iff.mpr ⟨path, catalogue, place, read, rfl, held⟩

theorem loadStore_absent {path : String} (absent : files.look path = none) :
    (loadStore Files.access (some path) files).1 = .ok {} := by
  have unset : loadStore Files.access (some path) files =
      (if (files.look path).isNone then pure {} else orEnd (Store.ofFile path (files.look path)) :
        Part (StateM Files) Store) files := rfl
  rw [unset, absent]
  rfl

theorem loadStore_present {path : String} {entry : Entry} {store : Store}
    (present : files.look path = some entry) :
    (loadStore Files.access (some path) files).1 = .ok store ↔
      Store.ofFile path (some entry) = .ok store := by
  have set : loadStore Files.access (some path) files =
      (if (files.look path).isNone then pure {} else orEnd (Store.ofFile path (files.look path)) :
        Part (StateM Files) Store) files := rfl
  rw [set, present]
  exact mapError_ok_iff

theorem write_run (files : Files) (path : String) (content : List UInt8) :
    (liftM (Files.access.write path content) : Part (StateM Files) Bool) files =
      match files.write? path content with
      | some after => (.ok true, after)
      | none => (.ok false, files) := by
  change (fun result : Bool × Files => ((Except.ok result.1 : Except Failure Bool), result.2))
    (Files.access.write path content files) = _
  have run : Files.access.write path content files =
      (match files.write? path content with
        | some after => (fun _ => (true, after))
        | none => pure false : StateM Files Bool) files := rfl
  rw [run]
  cases files.write? path content <;> rfl

theorem saveStore_ok_iff {path : String} {store : Store} :
    saveStore Files.access (some path) store files = (.ok (), after) ↔
      files.write? path (Text.encode store.document) = some after := by
  have written := write_run files path (Text.encode store.document)
  cases made : files.write? path (Text.encode store.document) with
  | none =>
    simp only [made] at written
    simp only [saveStore, bind_of_ok written]
    constructor
    · intro impossible
      cases impossible
    · intro impossible
      cases impossible
  | some last =>
    simp only [made] at written
    simp only [saveStore, bind_of_ok written]
    constructor
    · intro same
      cases same
      rfl
    · intro same
      cases same
      rfl

theorem runChecks_reports {engine : Engine} {image : ImageReference} {names : List String}
    {store : Store} {outcome : RunOutcome}
    (ran : runChecks course engine image names now store = .ok (some outcome)) :
    engine.Reports course image now false store outcome := by
  simp only [runChecks] at ran
  split at ran
  · exact .inl (Except.ok.inj ran)
  · exact .inr ⟨_, ran⟩

theorem operate_check_iff {settings : Settings} {engine : Engine} {store : Store} {text : String}
    {names : List String} {found : Report} :
    operate course Files.access settings engine store now (.check text names) files =
        (.ok found, after) ↔
      ∃ image outcome, ImageReference.parse text = .ok image ∧
        runChecks course engine image names now store = .ok (some outcome) ∧
        saveStore Files.access settings.offline.attestationsPath outcome.store files =
          (.ok (), after) ∧ outcome.report = found := by
  have reads : Attestor.Reads (parseImage text : Part (StateM Files) ImageReference) :=
    fun _ => rfl
  simp only [operate, reads_bind_ok_iff reads, parseImage_run, mapError_ok_iff, orEnd_ok_iff]
  constructor
  · intro given
    obtain ⟨image, parsed, outcome, ran, made⟩ := given
    cases outcome with
    | none => cases made
    | some outcome =>
      obtain ⟨_, middle, saved, same⟩ := bind_ok_iff.mp made
      cases same
      exact ⟨image, outcome, parsed, ran, saved, rfl⟩
  · intro given
    obtain ⟨image, outcome, parsed, ran, saved, same⟩ := given
    cases same
    exact ⟨image, parsed, outcome, ran, bind_ok_iff.mpr ⟨(), after, saved, rfl⟩⟩

theorem operate_verify {settings : Settings} {engine : Engine} {store : Store} {text : String}
    {image : ImageReference} {found : Report} (parsed : ImageReference.parse text = .ok image)
    (verified : engine.verify image now false store = .value found) :
    operate course Files.access settings engine store now (.verify text) files =
      (.ok found, files) := by
  have read : (parseImage text : Part (StateM Files) _) files = (.ok image, files) := by
    rw [parseImage_run, parsed]
    rfl
  simp only [operate, bind_of_ok read, verified]
  rfl

theorem runAlong_run {access : FileAccess (StateM Files)} {words : List String}
    {arguments : Arguments} (asked : Invocation.ofWords words = .run arguments) :
    runAlong course formats access environment now words files =
      let result := report course formats access environment now arguments files
      (match result.1 with
        | .ok report => .report report
        | .error cause => .failure cause, result.2) := by
  unfold runAlong
  rw [asked]
  change (match (report course formats access environment now arguments files).1 with
    | .ok report => pure (Outcome.report report)
    | .error cause => pure (Outcome.failure cause) : StateM Files Outcome)
      (report course formats access environment now arguments files).2 = _
  generalize report course formats access environment now arguments files = result
  obtain ⟨result, last⟩ := result
  cases result <;> rfl

theorem runAlong_report_iff {words : List String} {found : Report} :
    runAlong course formats Files.access environment now words files = (.report found, after) ↔
      ∃ arguments, Invocation.ofWords words = .run arguments ∧
        report course formats Files.access environment now arguments files = (.ok found, after) := by
  constructor
  · intro made
    cases asked : Invocation.ofWords words with
    | run arguments =>
      refine ⟨arguments, rfl, ?_⟩
      rw [runAlong_run asked] at made
      generalize report course formats Files.access environment now arguments files = result at made ⊢
      obtain ⟨result, last⟩ := result
      cases result with
      | ok report =>
        cases made
        rfl
      | error cause => cases made
    | help =>
      rw [runAlong, asked] at made
      cases made
    | version =>
      rw [runAlong, asked] at made
      cases made
    | wrong =>
      rw [runAlong, asked] at made
      cases made
  · intro given
    obtain ⟨arguments, asked, reported⟩ := given
    rw [runAlong_run asked, reported]

/-- A run that makes checks and ends with its report has loaded an engine and what was attested
before, and has kept what the report of the engine leaves. -/
theorem check_reported {words names : List String} {settingsPath : Option String} {text : String}
    {found : Report}
    (asked : Invocation.ofWords words = .run { settingsPath, operation := .check text names })
    (ended : runAlong course formats Files.access environment now words files = (.report found, after)) :
    ∃ (settings : Settings) (catalogue : Catalogue) (keyring : KeyRing) (history : List Change)
      (image : ImageReference) (store : Store) (outcome : RunOutcome),
      Prepared formats files environment now settingsPath settings catalogue keyring
        (Engine.build catalogue.service keyring history) ∧
      (∀ name, name ∈ (Engine.build catalogue.service keyring history).names ↔
        ∃ text ∈ settings.checks.enabled, Engine.canonical text = .ok name) ∧
      ImageReference.parse text = .ok image ∧
      (loadStore Files.access settings.offline.attestationsPath files).1 = .ok store ∧
      (Engine.build catalogue.service keyring history).Reports course image now false store outcome ∧
      saveStore Files.access settings.offline.attestationsPath outcome.store files = (.ok (), after) ∧
      outcome.report = found := by
  obtain ⟨arguments, same, reported⟩ := runAlong_report_iff.mp ended
  cases asked.symm.trans same
  obtain ⟨settings, catalogue, keyring, engine, store, prepared, held, operated⟩ :=
    report_ok_iff.mp reported
  obtain ⟨image, outcome, parsed, ran, saved, whole⟩ := operate_check_iff.mp operated
  obtain ⟨repository, _, made⟩ := prepared.built
  obtain ⟨⟨history, rfl⟩, enabled⟩ := Engine.ofSettings_built made
  exact ⟨settings, catalogue, keyring, history, image, store, outcome, prepared, enabled, parsed,
    held, runChecks_reports ran, saved, whole⟩

end Attestor.CommandLine.Session
