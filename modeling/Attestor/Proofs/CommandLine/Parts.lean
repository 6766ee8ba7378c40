import Attestor.CommandLine.Session
import Attestor.Proofs.Results

namespace Attestor

def Reads {α : Type} (part : StateM Files α) : Prop :=
  ∀ files, (part files).2 = files

namespace Reads

variable {α β : Type}

theorem ret (a : α) : Reads (pure a) := fun _ => rfl

theorem look (path : String) : Reads (Files.access.look path) := fun _ => rfl

theorem bind {first : StateM Files α} {next : α → StateM Files β} (reads : Reads first)
    (later : ∀ a, Reads (next a)) : Reads (first >>= next) := by
  intro files
  change (next (first files).1 (first files).2).2 = files
  rw [later, reads]

end Reads

namespace Settings

variable {formats : Formats}

theorem readSibling_reads (path : String) (tried : List (Format × String)) :
    Reads (readSibling formats Files.access path tried) := by
  induction tried with
  | nil => exact .ret _
  | cons first rest ih =>
    obtain ⟨format, extension⟩ := first
    refine .bind ?_ fun entry => ?_
    · cases sibling? path extension with
      | none => exact .ret _
      | some path => exact .look path
    · cases Entry.content? entry with
      | none => exact ih
      | some content => exact .ret _

theorem readFile_reads (path : String) : Reads (readFile formats Files.access path) := by
  refine .bind (.look path) fun entry => ?_
  cases entry with
  | none => exact .ret _
  | some entry =>
    cases entry with
    | file content =>
      refine .bind (.ret _) fun found => ?_
      cases found <;> exact .ret _
    | other =>
      refine .bind (readSibling_reads path _) fun found => ?_
      cases found <;> exact .ret _

theorem load_file {files : Files} {path : String} {content : List UInt8}
    {entries : List (String × Tree)} (environment : Environment)
    (stands : files.look path = some (.file content))
    (known : (Format.ofPath? path).bind (formats.read? content) = some entries) :
    (load formats Files.access (some path) environment files).1 = ofSources entries environment := by
  have looked : (Files.access.look path : StateM Files _) files = (some (.file content), files) :=
    congrArg (·, files) stands
  have bind {α β : Type} (first : StateM Files α) (next : α → StateM Files β) :
      (first >>= next) files = next (first files).1 (first files).2 := rfl
  have read : readFile formats Files.access path files = (.ok entries, files) := by
    simp only [readFile, bind, looked, known]
    rfl
  simp only [load, Option.some_or, bind, read]
  rfl

theorem load_reads (path : Option String) (environment : Environment) :
    Reads (load formats Files.access path environment) := by
  unfold load
  cases path.or (environment.lookup Environment.pathVariable) with
  | none => exact .ret _
  | some path =>
    refine .bind (readFile_reads path) fun found => ?_
    cases found <;> exact .ret _

end Settings

namespace CommandLine.Session

variable {α β : Type} {files last : Files}

theorem bind_run (first : Part (StateM Files) α) (next : α → Part (StateM Files) β) :
    (first >>= next) files = ExceptT.bindCont next (first files).1 (first files).2 := rfl

theorem bind_of_ok {first : Part (StateM Files) α} {next : α → Part (StateM Files) β} {a : α}
    {middle : Files} (came : first files = (.ok a, middle)) :
    (first >>= next) files = next a middle := by
  rw [bind_run, came]
  rfl

theorem bind_ok_iff {first : Part (StateM Files) α} {next : α → Part (StateM Files) β} {b : β} :
    (first >>= next) files = (.ok b, last) ↔
      ∃ a middle, first files = (.ok a, middle) ∧ next a middle = (.ok b, last) := by
  cases came : first files with
  | mk result middle =>
    cases result with
    | ok a =>
      rw [bind_of_ok came]
      constructor
      · intro made
        exact ⟨a, middle, rfl, made⟩
      · intro given
        obtain ⟨b, other, same, made⟩ := given
        cases same
        exact made
    | error e =>
      rw [bind_run, came]
      constructor
      · intro made
        cases made
      · intro given
        obtain ⟨a, other, same, _⟩ := given
        cases same

theorem reads_bind_ok_iff {first : Part (StateM Files) α} {next : α → Part (StateM Files) β}
    {b : β} (reads : Attestor.Reads first) :
    (first >>= next) files = (.ok b, last) ↔
      ∃ a, (first files).1 = .ok a ∧ next a files = (.ok b, last) := by
  rw [bind_ok_iff]
  have same := reads files
  constructor
  · intro given
    obtain ⟨a, middle, came, made⟩ := given
    rw [came] at same ⊢
    cases same
    exact ⟨a, rfl, made⟩
  · intro given
    obtain ⟨a, came, made⟩ := given
    exact ⟨a, files, Prod.ext came same, made⟩

theorem part_reads {first : Part (StateM Files) α} {next : α → Part (StateM Files) β}
    (reads : Attestor.Reads first) (later : ∀ a, Attestor.Reads (next a)) :
    Attestor.Reads (first >>= next : Part (StateM Files) β) := by
  intro files
  rw [bind_run]
  cases came : (first files).1 with
  | error e => exact reads files
  | ok a => exact (later a _).trans (reads files)

theorem orEnd_run (result : Except Error α) :
    (orEnd result : Part (StateM Files) α) files = (result.mapError .engine, files) := rfl

theorem reads_value_iff {part : Part (StateM Files) α} {a : α} (reads : Attestor.Reads part) :
    (part files).1 = .ok a ↔ part files = (.ok a, files) := by
  constructor
  · intro came
    exact Prod.ext came (reads files)
  · intro came
    rw [came]

theorem orEnd_ok_iff {result : Except Error α} {next : α → Part (StateM Files) β} {b : β} :
    (orEnd result >>= next) files = (.ok b, last) ↔
      ∃ a, result = .ok a ∧ next a files = (.ok b, last) := by
  have reads : Attestor.Reads (orEnd result : Part (StateM Files) α) := fun _ => rfl
  rw [reads_bind_ok_iff reads]
  simp only [orEnd_run, Results.mapError_ok_iff]

theorem look_part (path : String) :
    Attestor.Reads (liftM (Files.access.look path) : Part (StateM Files) (Option Entry)) :=
  fun _ => rfl

theorem parseImage_run (text : String) :
    (parseImage text : Part (StateM Files) ImageReference) files =
      ((ImageReference.parse text).mapError .image, files) := rfl

theorem loadStore_reads (path : Option String) : Attestor.Reads (loadStore Files.access path) := by
  cases path with
  | none => exact .ret _
  | some path =>
    refine part_reads (look_part path) fun entry => ?_
    split
    · exact .ret _
    · exact fun _ => rfl

theorem loadRepository_reads (settings : FileSettings) :
    Attestor.Reads (loadRepository Files.access settings) := by
  unfold loadRepository
  cases settings.repositoryPath with
  | none => exact .ret _
  | some path =>
    refine part_reads (look_part path) fun entry => ?_
    exact part_reads (fun _ => rfl) fun evidence => .ret _

theorem loadKeyRing_reads (path : Option String) (now : Nat) :
    Attestor.Reads (loadKeyRing Files.access path now) := by
  cases path with
  | none => exact .ret _
  | some path =>
    refine part_reads (look_part path) fun entry => ?_
    split
    · exact .ret _
    · exact fun _ => rfl

theorem loadKeyRing_file {path : String} {content : List UInt8} {now : Nat} {keyring : KeyRing}
    (stands : files.look path = some (.file content))
    (read : KeyRing.ofFile (some content) now = .ok keyring) :
    (loadKeyRing Files.access (some path) now files).1 = .ok keyring := by
  have looked : (liftM (Files.access.look path) : Part (StateM Files) _) files =
      (.ok (some (.file content)), files) := congrArg (Except.ok ·, files) stands
  simp only [loadKeyRing, bind_of_ok looked, Entry.content?, read]
  rfl

end CommandLine.Session

end Attestor
