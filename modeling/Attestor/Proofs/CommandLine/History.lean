import Attestor.Proofs.CommandLine.Preparation
import Attestor.Proofs.Engine.Ledger
import Attestor.Proofs.Store.Document

namespace Attestor.CommandLine

open Results Session OpenPgp

/-- What runs have in common that keep their attestations in one file. -/
structure Configuration where
  enabled : List String
  path : String
  keyring : KeyRing

namespace Configuration

def load? (formats : Settings.Formats) (files : Files) (environment : Settings.Environment) (now : Nat)
    (settingsPath : Option String) : Option Configuration :=
  match (Settings.load formats Files.access settingsPath environment files).1 with
  | .ok settings =>
    match settings.offline.attestationsPath,
      (loadKeyRing Files.access settings.keyringPath now files).1 with
    | some path, .ok keyring => some { enabled := settings.checks.enabled, path, keyring }
    | _, _ => none
  | .error _ => none

theorem load_prepared {configuration : Configuration} {formats : Settings.Formats} {files : Files}
    {environment : Settings.Environment} {now : Nat} {settingsPath : Option String}
    {settings : Settings} {catalogue : Catalogue} {keyring : KeyRing} {engine : Engine}
    (prepared : Prepared formats files environment now settingsPath settings catalogue keyring engine)
    (shared : load? formats files environment now settingsPath = some configuration) :
    settings.checks.enabled = configuration.enabled ∧
      settings.offline.attestationsPath = some configuration.path ∧
      keyring = configuration.keyring := by
  simp only [load?, prepared.loaded, prepared.signers] at shared
  cases place : settings.offline.attestationsPath with
  | none =>
    rw [place] at shared
    cases shared
  | some path =>
    rw [place] at shared
    cases shared
    exact ⟨rfl, rfl, rfl⟩

end Configuration

/-- A run that makes checks: when it is made and with what, the files before and after it, and the
report that it ends with. -/
structure CheckRun where
  course : Course
  formats : Settings.Formats
  environment : Settings.Environment
  now : Nat
  words : List String
  settingsPath : Option String
  text : String
  names : List String
  before : Files
  after : Files
  found : Report

namespace CheckRun

/-- The run is asked to make checks, finds the configuration and ends with its report. -/
structure Ends (run : CheckRun) (configuration : Configuration) : Prop where
  asked : Invocation.ofWords run.words =
    .run { settingsPath := run.settingsPath, operation := .check run.text run.names }
  shared : Configuration.load? run.formats run.before run.environment run.now run.settingsPath =
    some configuration
  ended : runAlong run.course run.formats Files.access run.environment run.now run.words run.before =
    (.report run.found, run.after)

def Attests (run : CheckRun) (image : ImageReference) (name : String) : Prop :=
  ImageReference.parse run.text = .ok image ∧
    ∃ result ∈ run.found.results, result.name = name ∧ result.attested = true

def Carries (run : CheckRun) (image : ImageReference) (attestation : SignedAttestation) : Prop :=
  ImageReference.parse run.text = .ok image ∧
    ∃ result ∈ run.found.results, result.attestation = some attestation

variable {run : CheckRun} {configuration : Configuration}

theorem Ends.spec (ends : run.Ends configuration) :
    ∃ (catalogue : Catalogue) (history : List Change) (image : ImageReference) (store : Store)
      (outcome : RunOutcome),
      ImageReference.parse run.text = .ok image ∧
      (loadStore Files.access (some configuration.path) run.before).1 = .ok store ∧
      (Engine.build catalogue.service configuration.keyring history).Reports run.course image run.now
        false store outcome ∧
      (∀ name, name ∈ (Engine.build catalogue.service configuration.keyring history).names ↔
        ∃ text ∈ configuration.enabled, Engine.canonical text = .ok name) ∧
      outcome.report = run.found ∧
      run.after.look configuration.path = some (.file (Text.encode outcome.store.document)) := by
  obtain ⟨settings, catalogue, keyring, history, image, store, outcome, prepared, names, parsed,
    held, reports, saved, same⟩ := check_reported ends.asked ends.ended
  obtain ⟨enabled, place, rfl⟩ := Configuration.load_prepared prepared ends.shared
  rw [place] at held saved
  rw [enabled] at names
  refine ⟨catalogue, history, image, store, outcome, parsed, held, reports, names, same, ?_⟩
  exact Files.look_write (saveStore_ok_iff.mp saved)

structure Signed (run : CheckRun) (configuration : Configuration) (image : ImageReference)
    (attestation : SignedAttestation) : Prop where
  canonical : attestation.image = image.canonical
  statement : attestation.body = (Payload.ofImage image).body
  enabled : ∃ text ∈ configuration.enabled, Engine.canonical text = .ok attestation.checkName
  signer : ∃ signer, configuration.keyring.signer attestation.checkName = .ok signer ∧
    attestation.keyId = signer.keyId ∧
    signer.sign run.now (Text.encode attestation.body) = .ok attestation.signature

theorem Ends.results (ends : run.Ends configuration) {image : ImageReference}
    (parsed : ImageReference.parse run.text = .ok image) :
    ∃ store after added, (loadStore Files.access (some configuration.path) run.before).1 = .ok store ∧
      run.after.look configuration.path = some (.file (Text.encode after.document)) ∧
      after = store.addAll image added ∧
      (∀ attestation, attestation ∈ added ↔ run.Carries image attestation) ∧
      ∀ result ∈ run.found.results, result.attested = result.attestation.isSome ∧
        ∀ attestation, result.attestation = some attestation →
          attestation.checkName = result.name ∧ run.Signed configuration image attestation := by
  obtain ⟨catalogue, history, other, store, outcome, read, held, reports, names, same, written⟩ :=
    ends.spec
  cases parsed.symm.trans read
  have recorded : (Engine.build catalogue.service configuration.keyring history).metadata =
    catalogue.service := Engine.build_metadata ..
  obtain ⟨_, ⟨added, stored, perm, _⟩, endings⟩ := reports.results
  rw [same] at perm endings
  refine ⟨store, outcome.store, added, held, written, stored, ?_, ?_⟩
  · intro attestation
    rw [perm.mem_iff, List.mem_filterMap]
    constructor
    · intro given
      obtain ⟨result, member, kept⟩ := given
      exact ⟨parsed, result, member, CheckResult.stored_attestation kept⟩
    · intro given
      obtain ⟨_, result, member, present⟩ := given
      obtain ⟨registration, _, ending⟩ := endings result member
      refine ⟨result, member, ?_⟩
      rw [CheckResult.stored?, ending.attested_iff, present]
      rfl
  · intro result member
    obtain ⟨registration, registered, ending⟩ := endings result member
    refine ⟨ending.attested_iff, ?_⟩
    intro attestation present
    have made := ending.signed_of_attestation recorded present
    obtain ⟨signer, found, body, signed, check, canonical, key⟩ := Assignment.sign_spec made
    rw [recorded] at body
    rw [Engine.build_keyring] at found
    refine ⟨check, canonical, (Except.ok.inj body).symm, ?_, signer, ?_, key, signed⟩
    · rw [check, ← names]
      exact List.mem_map_of_mem (Associations.mem_of_lookup registered)
    · rw [check]
      exact found

end CheckRun

/-- The files that a series of runs can lead to. It begins without a file of attestations, and between
two runs everything but that file may change. -/
inductive Reachable (configuration : Configuration) : Files → List CheckRun → Prop where
  | start {files : Files} (fresh : files.look configuration.path = none) :
      Reachable configuration files []
  | edit {files after : Files} {runs : List CheckRun} (past : Reachable configuration files runs)
      (same : after.look configuration.path = files.look configuration.path) :
      Reachable configuration after runs
  | check {runs : List CheckRun} (run : CheckRun) (past : Reachable configuration run.before runs)
      (ends : run.Ends configuration) : Reachable configuration run.after (runs ++ [run])

/-- The file of attestations keeps a store that holds exactly what runs have reported. -/
structure Kept (configuration : Configuration) (files : Files) (runs : List CheckRun) (store : Store) :
    Prop where
  faithful : store.Faithful
  file : files.look configuration.path = none ∧ store = {} ∨
    files.look configuration.path = some (.file (Text.encode store.document))
  carried : ∀ image attestation, attestation ∈ store.attestations image ↔
    ∃ run ∈ runs, run.Carries image attestation

namespace Kept

variable {configuration : Configuration} {files : Files} {runs : List CheckRun} {store : Store}

/-- The file can be read if and only if the images that it is about have lower-case paths. -/
theorem loads_iff (kept : Kept configuration files runs store) :
    (∃ loaded, (loadStore Files.access (some configuration.path) files).1 = .ok loaded) ↔
      ∀ image, store.attestations image ≠ [] → image.hasLowerPath = true := by
  rcases kept.file with ⟨absent, rfl⟩ | present
  · constructor
    · intro _ image some
      exact absurd rfl some
    · intro _
      exact ⟨{}, loadStore_absent absent⟩
  · simp only [loadStore_present present]
    exact kept.faithful.reads_iff configuration.path

theorem loads_same {loaded : Store} (kept : Kept configuration files runs store)
    (held : (loadStore Files.access (some configuration.path) files).1 = .ok loaded) :
    loaded.Faithful ∧ ∀ image attestation,
      attestation ∈ loaded.attestations image ↔ attestation ∈ store.attestations image := by
  rcases kept.file with ⟨absent, rfl⟩ | present
  · rw [loadStore_absent absent] at held
    cases held
    exact ⟨kept.faithful, fun _ _ => Iff.rfl⟩
  · exact kept.faithful.reads_same ((loadStore_present present).mp held)

/-- A run that ends with its report keeps what it reports beside what was kept before. -/
theorem check {run : CheckRun} (kept : Kept configuration run.before runs store)
    (ends : run.Ends configuration) : ∃ store, Kept configuration run.after (runs ++ [run]) store := by
  obtain ⟨_, _, image, _, _, parsed, _⟩ := ends.spec
  obtain ⟨loaded, after, added, held, written, rfl, carries, results⟩ := ends.results parsed
  obtain ⟨faithful, same⟩ := kept.loads_same held
  have members (other : ImageReference) (attestation : SignedAttestation) :
      attestation ∈ (loaded.addAll image added).attestations other ↔
        attestation ∈ loaded.attestations other ∨ run.Carries other attestation := by
    rw [Store.mem_attestations_addAll]
    constructor
    · intro given
      rcases given with old | ⟨new, rfl⟩
      · exact .inl old
      · exact .inr ((carries attestation).mp new)
    · intro given
      rcases given with old | carried
      · exact .inl old
      · cases parsed.symm.trans carried.1
        exact .inr ⟨(carries attestation).mpr carried, rfl⟩
  refine ⟨_, ⟨Store.addAll_distinct image added faithful.distinct, ?_⟩, .inr written, ?_⟩
  · intro other attestation member
    rcases (members other attestation).mp member with old | ⟨read, result, reported, present⟩
    · exact faithful.named other attestation old
    · cases read.symm.trans parsed
      obtain ⟨_, signed⟩ := (results result reported).2 attestation present
      exact ⟨signed.canonical, ImageReference.parse_settled parsed⟩
  · intro other attestation
    rw [members, same, kept.carried]
    simp only [List.mem_append, List.mem_singleton]
    constructor
    · intro given
      rcases given with ⟨earlier, member, carried⟩ | carried
      · exact ⟨earlier, .inl member, carried⟩
      · exact ⟨run, .inr rfl, carried⟩
    · intro given
      rcases given with ⟨earlier, member | rfl, carried⟩
      · exact .inl ⟨earlier, member, carried⟩
      · exact .inr carried

end Kept

namespace Reachable

variable {configuration : Configuration} {files : Files} {runs : List CheckRun}

theorem kept (reachable : Reachable configuration files runs) :
    ∃ store, Kept configuration files runs store := by
  induction reachable with
  | start fresh =>
    refine ⟨{}, Store.empty_faithful, .inl ⟨fresh, rfl⟩, ?_⟩
    intro image attestation
    constructor
    · intro impossible
      cases impossible
    · intro given
      obtain ⟨run, impossible, _⟩ := given
      cases impossible
  | edit past same ih =>
    obtain ⟨store, faithful, file, carried⟩ := ih
    exact ⟨store, faithful, by rw [same]; exact file, carried⟩
  | check run past ends ih =>
    obtain ⟨store, kept⟩ := ih
    exact kept.check ends

theorem ends (reachable : Reachable configuration files runs) :
    ∀ run ∈ runs, run.Ends configuration := by
  induction reachable with
  | start fresh => simp
  | edit past same ih => exact ih
  | check run past ends ih =>
    intro other member
    rcases List.mem_append.mp member with earlier | last
    · exact ih other earlier
    · rw [List.mem_singleton.mp last]
      exact ends

end Reachable

namespace CheckRun

variable {configuration : Configuration} {run : CheckRun}

theorem Ends.attests_iff (ends : run.Ends configuration) (image : ImageReference) (name : String) :
    run.Attests image name ↔
      ∃ attestation, attestation.checkName = name ∧ run.Carries image attestation := by
  constructor
  · intro given
    obtain ⟨parsed, result, member, named, attested⟩ := given
    obtain ⟨_, _, _, _, _, _, _, results⟩ := ends.results parsed
    obtain ⟨present, spec⟩ := results result member
    rw [present] at attested
    obtain ⟨attestation, found⟩ := Option.isSome_iff_exists.mp attested
    exact ⟨attestation, (spec attestation found).1.trans named, parsed, result, member, found⟩
  · intro given
    obtain ⟨attestation, named, parsed, result, member, found⟩ := given
    obtain ⟨_, _, _, _, _, _, _, results⟩ := ends.results parsed
    obtain ⟨present, spec⟩ := results result member
    refine ⟨parsed, result, member, (spec attestation found).1.symm.trans named, ?_⟩
    rw [present, found]
    rfl

theorem Ends.signed (ends : run.Ends configuration) {image : ImageReference}
    {attestation : SignedAttestation} (carried : run.Carries image attestation) :
    run.Signed configuration image attestation := by
  obtain ⟨parsed, result, member, found⟩ := carried
  obtain ⟨_, _, _, _, _, _, _, results⟩ := ends.results parsed
  exact ((results result member).2 attestation found).2

end CheckRun

end Attestor.CommandLine
