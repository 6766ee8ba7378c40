import Attestor.Proofs.CommandLine.Persistence
import Attestor.Proofs.Evidence.Documents

namespace Attestor

/-- The tree of files with another way of writing, which may leave anything behind. -/
def Files.accessWith (write : String → List UInt8 → StateM Files Bool) :
    FileAccess (StateM Files) :=
  { Files.access with write }

namespace Settings

variable {write : String → List UInt8 → StateM Files Bool}

theorem readSibling_accessWith (formats : Formats) (path : String)
    (tried : List (Format × String)) :
    readSibling formats (Files.accessWith write) path tried =
      readSibling formats Files.access path tried := by
  induction tried with
  | nil => rfl
  | cons first rest ih =>
    obtain ⟨format, extension⟩ := first
    unfold readSibling
    rw [ih]
    rfl

theorem load_accessWith (formats : Formats) (path : Option String) (environment : Environment) :
    load formats (Files.accessWith write) path environment =
      load formats Files.access path environment := by
  simp only [load, readFile, readSibling_accessWith]
  rfl

end Settings

namespace CommandLine

open Results

def Outcome.unwritable (path : String) : Outcome :=
  .failure (.engine (.offlineEvidence path .unwritable))

def attestationsPath? (formats : Settings.Formats) (files : Files) (environment : Settings.Environment)
    (settingsPath : Option String) : Option String :=
  match (Settings.load formats Files.access settingsPath environment files).1 with
  | .ok settings => settings.offline.attestationsPath
  | .error _ => none

theorem attestationsPath_of_load {formats : Settings.Formats} {files : Files}
    {environment : Settings.Environment} {now : Nat} {settingsPath : Option String} {configuration : Configuration}
    (shared : Configuration.load? formats files environment now settingsPath = some configuration) :
    attestationsPath? formats files environment settingsPath = some configuration.path := by
  unfold Configuration.load? at shared
  unfold attestationsPath?
  cases loaded : (Settings.load formats Files.access settingsPath environment files).1 with
  | error error =>
    rw [loaded] at shared
    cases shared
  | ok settings =>
    rw [loaded] at shared
    dsimp only at shared
    split at shared
    · rename_i path keyring place _
      cases shared
      exact place
    · cases shared

/-- The attestations that are recorded at a path, where a file may be absent. -/
inductive Records (files : Files) (path : String) : List SignedAttestation → Prop where
  | absent (missing : files.look path = none) : Records files path []
  | document (content : List UInt8) (list : List SignedAttestation)
      (stands : files.look path = some (.file content))
      (read : Store.readDocument? content = some list) : Records files path list

namespace Session

variable {α β : Type} {write : String → List UInt8 → StateM Files Bool} {Place : String → Prop}
  {files after : Files}

/-- How a part of a run can leave the files: as they were, or with one more write to a place of a
kind. If the write fails, the part does. -/
inductive Leaves (write : String → List UInt8 → StateM Files Bool) (Place : String → Prop)
    (files : Files) : Except Failure α × Files → Prop where
  | alone (result : Except Failure α) : Leaves write Place files (result, files)
  | written (a : α) (place : String) (content : List UInt8) (after : Files) (named : Place place)
      (made : write place content files = (true, after)) : Leaves write Place files (.ok a, after)
  | unwritten (place : String) (content : List UInt8) (after : Files) (named : Place place)
      (failed : write place content files = (false, after)) :
      Leaves write Place files (.error (.engine (.offlineEvidence place .unwritable)), after)

theorem Leaves.of_reads {part : Part (StateM Files) α} (reads : Attestor.Reads part) :
    Leaves write Place files (part files) := by
  have same : part files = ((part files).1, files) := Prod.ext rfl (reads files)
  rw [same]
  exact .alone _

theorem Leaves.bind {first : Part (StateM Files) α} {next : α → Part (StateM Files) β}
    (reads : Attestor.Reads first)
    (later : ∀ a, (first files).1 = .ok a → Leaves write Place files (next a files)) :
    Leaves write Place files ((first >>= next) files) := by
  have same := reads files
  cases came : first files with
  | mk result middle =>
    rw [came] at same later
    obtain rfl : middle = files := same
    rw [bind_run, came]
    cases result with
    | error error => exact .alone _
    | ok a => exact later a rfl

theorem Leaves.map {part : Part (StateM Files) α} (f : α → β)
    (leaves : Leaves write Place files (part files)) :
    Leaves write Place files ((part >>= fun a => pure (f a)) files) := by
  rw [bind_run]
  generalize part files = came at leaves
  cases leaves with
  | alone result =>
    cases result with
    | error error => exact .alone _
    | ok a => exact .alone _
  | written a place content after named made => exact .written (f a) place content after named made
  | unwritten place content after named failed => exact .unwritten place content after named failed

theorem Leaves.mono {Wider : String → Prop} {result : Except Failure α × Files}
    (leaves : Leaves write Place files result) (wider : ∀ place, Place place → Wider place) :
    Leaves write Wider files result := by
  cases leaves with
  | alone result => exact .alone result
  | written a place content after named made =>
    exact .written a place content after (wider place named) made
  | unwritten place content after named failed =>
    exact .unwritten place content after (wider place named) failed

theorem saveStore_leaves (write : String → List UInt8 → StateM Files Bool) (files : Files)
    (path : Option String) (store : Store) :
    Leaves write (fun place => path = some place) files
      (saveStore (Files.accessWith write) path store files) := by
  cases path with
  | none => exact .of_reads (.ret ())
  | some path =>
    have lifted : (liftM (write path (Text.encode store.document)) : Part (StateM Files) Bool) files =
        (.ok (write path (Text.encode store.document) files).1,
          (write path (Text.encode store.document) files).2) := rfl
    cases made : write path (Text.encode store.document) files with
    | mk done after =>
      rw [made] at lifted
      have saved : saveStore (Files.accessWith write) (some path) store files = _ :=
        bind_of_ok lifted
      rw [saved]
      cases done with
      | false => exact .unwritten path _ after rfl made
      | true => exact .written () path _ after rfl made

variable {course : Course} {formats : Settings.Formats} {environment : Settings.Environment} {now : Nat}

theorem operate_leaves (write : String → List UInt8 → StateM Files Bool) (files : Files)
    (course : Course) (settings : Settings) (engine : Engine) (store : Store) (now : Nat)
    (operation : Operation) :
    Leaves write (fun place => settings.offline.attestationsPath = some place ∧
        ∃ text names, operation = .check text names) files
      (operate course (Files.accessWith write) settings engine store now operation files) := by
  have parses (text : String) : Attestor.Reads (parseImage text : Part (StateM Files) _) :=
    fun _ => rfl
  cases operation with
  | check text names =>
    refine .bind (parses text) fun image _ => ?_
    refine .bind (fun _ => rfl) fun ended _ => ?_
    cases ended with
    | none => exact .alone _
    | some outcome =>
      have saves :=
        saveStore_leaves write files settings.offline.attestationsPath outcome.store
      exact (saves.map fun _ => outcome.report).mono fun place named => ⟨named, text, names, rfl⟩
  | verify text =>
    refine .bind (parses text) fun image _ => ?_
    cases engine.verify image now false store with
    | value found => exact .alone _
    | failure error => exact .alone _
    | never => exact .alone _

theorem report_leaves (write : String → List UInt8 → StateM Files Bool) (files : Files)
    (course : Course) (formats : Settings.Formats) (environment : Settings.Environment) (now : Nat)
    (arguments : Arguments) :
    Leaves write (fun place =>
        attestationsPath? formats files environment arguments.settingsPath = some place ∧
          ∃ text names, arguments.operation = .check text names) files
      (report course formats (Files.accessWith write) environment now arguments files) := by
  -- All that comes before the operation only looks at files.
  unfold report
  rw [Settings.load_accessWith]
  refine .bind (loadSettings_reads formats arguments.settingsPath environment) fun settings loaded => ?_
  have found : (Settings.load formats Files.access arguments.settingsPath environment files).1 =
      .ok settings := mapError_ok_iff.mp loaded
  refine .bind (loadMetadata_reads settings.offline) fun gathered _ => ?_
  obtain ⟨metadata, store⟩ := gathered
  refine .bind (loadRepository_reads settings.offline) fun repository _ => ?_
  refine .bind (loadKeyRing_reads settings.keyringPath now) fun keyring _ => ?_
  refine .bind (fun _ => rfl) fun engine _ => ?_
  refine (operate_leaves write files course settings engine store now arguments.operation).mono ?_
  intro place named
  simpa only [attestationsPath?, found] using named

/-- A run that leaves the files otherwise than they were has been asked to make checks, and has
written the file of attestations or failed to. -/
theorem runAlong_leaves {words : List String} {outcome : Outcome}
    (ended : runAlong course formats (Files.accessWith write) environment now words files =
      (outcome, after)) :
    after = files ∨ ∃ settingsPath text names path,
      Invocation.ofWords words = .run { settingsPath, operation := .check text names } ∧
        attestationsPath? formats files environment settingsPath = some path ∧
        ((∃ found, outcome = .report found) ∨ outcome = .unwritable path) := by
  cases asked : Invocation.ofWords words with
  | help | version | wrong =>
    rw [runAlong, asked] at ended
    cases ended
    exact .inl rfl
  | run arguments =>
    obtain ⟨settingsPath, operation⟩ := arguments
    have leaves := report_leaves write files course formats environment now { settingsPath, operation }
    rw [runAlong_run asked] at ended
    generalize report course formats (Files.accessWith write) environment now _ files = result
      at ended leaves
    cases leaves with
    | alone result =>
      cases ended
      exact .inl rfl
    | written found path content last named =>
      obtain ⟨place, text, names, rfl⟩ := named
      cases ended
      exact .inr ⟨settingsPath, text, names, path, rfl, place, .inl ⟨found, rfl⟩⟩
    | unwritten path content last named =>
      obtain ⟨place, text, names, rfl⟩ := named
      cases ended
      exact .inr ⟨settingsPath, text, names, path, rfl, place, .inr rfl⟩

theorem loadStore_records {path : String} {store : Store}
    (held : (loadStore Files.access (some path) files).1 = .ok store) :
    ∃ list, Records files path list ∧ store.toList.Perm list := by
  cases found : files.look path with
  | none =>
    rw [loadStore_absent found] at held
    cases held
    exact ⟨[], .absent found, .of_eq Store.toList_empty⟩
  | some entry =>
    obtain ⟨content, list, same, read, filed⟩ :=
      Store.ofFile_ok_iff.mp ((loadStore_present found).mp held)
    exact ⟨list, .document content list (found.trans same) read, Store.toList_ofList filed⟩

theorem written_records {path : String} {store : Store}
    (saved : saveStore Files.access (some path) store files = (.ok (), after)) :
    after.look path = some (.file (Text.encode store.document)) ∧
      Records after path store.toList := by
  have stands := Files.look_write (saveStore_ok_iff.mp saved)
  exact ⟨stands, .document _ _ stands (Store.readDocument_document store)⟩

/-- A run that verifies, or that ends without a report for another reason than that the file of
attestations could not be written, leaves all files as they are, however files are written. A run that
makes checks and ends with its report leaves in the file of attestations what was there before and
the attestations of the results that are reported as attested, each under the image that it states. -/
theorem runAlong_frame (course : Course) (formats : Settings.Formats)
    (environment : Settings.Environment) (now : Nat) (words : List String) (files : Files) :
    (∀ write outcome after,
      runAlong course formats (Files.accessWith write) environment now words files = (outcome, after) →
      (∀ settingsPath text, Invocation.ofWords words =
          .run { settingsPath, operation := .verify text } → after = files) ∧
      ((∀ found, outcome ≠ .report found) →
        (∀ arguments path, Invocation.ofWords words = .run arguments →
          attestationsPath? formats files environment arguments.settingsPath = some path →
          outcome ≠ .unwritable path) → after = files)) ∧
    ∀ settingsPath text names path found after,
      Invocation.ofWords words = .run { settingsPath, operation := .check text names } →
      attestationsPath? formats files environment settingsPath = some path →
      runAlong course formats Files.access environment now words files = (.report found, after) →
      ∃ content held kept, after.look path = some (.file content) ∧
        Records files path held ∧ Records after path kept ∧
        kept.Perm (held ++ found.results.filterMap CheckResult.stored?) ∧
        (∀ image, (kept.filter (·.image = image)).Perm (held.filter (·.image = image) ++
          if image = found.image then found.results.filterMap CheckResult.stored? else [])) ∧
        (∀ result ∈ found.results, result.attested = result.attestation.isSome) ∧
        ∀ elsewhere, files.locate elsewhere ≠ files.locate path →
          after.look elsewhere = files.look elsewhere := by
  refine ⟨?_, ?_⟩
  · intro write outcome after ended
    rcases runAlong_leaves ended with same | ⟨settingsPath, text, names, path, asked, place, ends⟩
    · exact ⟨fun _ _ _ => same, fun _ _ => same⟩
    · refine ⟨?_, ?_⟩
      · intro otherPath other verifies
        cases asked.symm.trans verifies
      · intro unreported writable
        rcases ends with ⟨found, reported⟩ | failed
        · exact absurd reported (unreported found)
        · exact absurd failed (writable _ path asked place)
  · intro settingsPath text names path found after asked place ended
    obtain ⟨settings, catalogue, keyring, history, image, store, outcome, prepared, _, _, loaded,
      reports, saved, rfl⟩ := check_reported asked ended
    simp only [attestationsPath?, prepared.loaded] at place
    rw [place] at loaded saved
    obtain ⟨held, recorded, before⟩ := loadStore_records loaded
    obtain ⟨stands, kept⟩ := written_records saved
    obtain ⟨_, ⟨added, stored, reported, _⟩, endings⟩ := reports.results
    have whole : outcome.store.toList.Perm
        (held ++ outcome.report.results.filterMap CheckResult.stored?) := by
      rw [stored]
      exact (store.toList_addAll image added).trans (before.append reported)
    refine ⟨_, held, outcome.store.toList, stands, recorded, kept, whole, ?_, ?_, ?_⟩
    · -- What is new is about the image of the report alone.
      intro image
      have part := whole.filter (·.image = image)
      rw [List.filter_append] at part
      refine part.trans (.of_eq (congrArg _ ?_))
      by_cases about : image = outcome.report.image
      · rw [if_pos about]
        refine List.filter_eq_self.mpr fun attestation member => ?_
        exact decide_eq_true ((reports.stored_image member).trans about.symm)
      · rw [if_neg about]
        refine List.filter_eq_nil_iff.mpr fun attestation member states => about ?_
        exact (of_decide_eq_true states).symm.trans (reports.stored_image member)
    · intro result member
      obtain ⟨registration, _, ending⟩ := endings result member
      exact ending.attested_iff
    · intro elsewhere apart
      exact Files.look_write_of_ne (saveStore_ok_iff.mp saved) apart

/-- The run that attests an image, the run that verifies it, and one without its settings. -/
theorem runAlong_frame_sample :
    let path := Sample.configuration.path
    ∃ (run : CheckRun) (held kept : List SignedAttestation),
      runAlong run.course run.formats Files.access run.environment run.now run.words run.before =
        (.report run.found, run.after) ∧
      Records run.before path held ∧ Records run.after path kept ∧
      kept.Perm (held ++ run.found.results.filterMap CheckResult.stored?) ∧ kept ≠ [] ∧
      (runAlong Run.onOneThread .plain Files.access [] 5 (Sample.words "verify") run.after).2 =
        run.after ∧
      runAlong Run.onOneThread .plain Files.access [] 5
          ["--config", "absent.toml", "check", "--image", Sample.text] Sample.files =
        (.failure (.settings (.notFound "absent.toml")), Sample.files) := by
  intro path
  obtain ⟨run, _, _, _, reachable, _, result, member, _, attested⟩ := Sample.attesting
  obtain ⟨asked, shared, ended⟩ := reachable.ends run (List.mem_singleton_self run)
  obtain ⟨_, held, kept, _, before, after, whole, _, present, _⟩ :=
    (runAlong_frame run.course run.formats run.environment run.now run.words run.before).2
      run.settingsPath run.text run.names path run.found run.after asked
      (attestationsPath_of_load shared) ended
  refine ⟨run, held, kept, ended, before, after, whole, ?_, ?_, ?_⟩
  · obtain ⟨attestation, some⟩ :=
      Option.isSome_iff_exists.mp ((present result member).symm.trans attested)
    have stored : attestation ∈ run.found.results.filterMap CheckResult.stored? := by
      refine List.mem_filterMap.mpr ⟨result, member, ?_⟩
      rw [CheckResult.stored?, if_pos attested, some]
    exact List.ne_nil_of_mem (whole.mem_iff.mpr (List.mem_append_right held stored))
  · have verifies : Invocation.ofWords (Sample.words "verify") =
        .run { settingsPath := some "/srv/settings.toml", operation := .verify Sample.text } := by
      decide +kernel
    exact ((runAlong_frame Run.onOneThread .plain [] 5 (Sample.words "verify") run.after).1
      Files.access.write _ _ rfl).1 _ _ verifies
  · let words := ["--config", "absent.toml", "check", "--image", Sample.text]
    have ended : (runAlong Run.onOneThread .plain Files.access [] 5 words Sample.files).1 =
        .failure (.settings (.notFound "absent.toml")) := by
      rfl
    have frame := (runAlong_frame Run.onOneThread .plain [] 5 words Sample.files).1
      Files.access.write _ _ rfl
    refine Prod.ext ended (frame.2 ?_ ?_)
    · intro found reported
      cases ended.symm.trans reported
    · intro arguments path _ _ failed
      cases ended.symm.trans failed

end Session

end CommandLine

end Attestor
