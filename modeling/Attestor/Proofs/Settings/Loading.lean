import Attestor.Proofs.Results
import Attestor.Proofs.Settings.Sources

namespace Attestor.Settings

open Associations Settings.Tree

def Yields {α : Type} (Holds : α → Prop) (part : StateM Files α) : Prop :=
  ∀ files, Holds (part files).1

namespace Yields

variable {α β : Type} {Holds : α → Prop} {Last : β → Prop}

theorem ret {a : α} (holds : Holds a) : Yields Holds (pure a : StateM Files α) := fun _ => holds

theorem bind {first : StateM Files α} {next : α → StateM Files β} (given : Yields Holds first)
    (later : ∀ a, Holds a → Yields Last (next a)) : Yields Last (first >>= next) :=
  fun files => later _ (given files) _

theorem any (part : StateM Files α) : Yields (fun _ => True) part := fun _ => trivial

theorem bind_option {first : StateM Files (Option α)} {next : Option α → StateM Files β}
    (given : Yields (fun found => ∀ a, found = some a → Holds a) first)
    (missing : Yields Last (next none)) (later : ∀ a, Holds a → Yields Last (next (some a))) :
    Yields Last (first >>= next) := by
  refine .bind given fun found holds => ?_
  cases found with
  | none => exact missing
  | some a => exact later a (holds a rfl)

end Yields

def WereRead (formats : Formats) (entries : List (String × Tree)) : Prop :=
  ∃ (format : Format) (content : List UInt8), formats.read? content format = some entries

variable {formats : Formats}

theorem readSibling_yields (path : String) (tried : List (Format × String)) :
    Yields (fun found => ∀ entries, found = some entries → WereRead formats entries)
      (readSibling formats Files.access path tried) := by
  induction tried with
  | nil =>
    refine .ret ?_
    intro entries impossible
    cases impossible
  | cons first rest ih =>
    obtain ⟨format, extension⟩ := first
    refine .bind (.any _) fun entry _ => ?_
    cases Entry.content? entry with
    | none => exact ih
    | some content => exact .ret fun entries read => ⟨format, content, read⟩

theorem readFile_yields (path : String) :
    Yields (fun found => ∀ entries, found = .ok entries → WereRead formats entries)
      (readFile formats Files.access path) := by
  have failed (error : LoadError) :
      Yields (fun found => ∀ entries, found = .ok entries → WereRead formats entries)
        (pure (.error error) : StateM Files (Except LoadError (List (String × Tree)))) := by
    refine .ret ?_
    intro entries impossible
    cases impossible
  have ended (entries : List (String × Tree)) (read : WereRead formats entries) :
      Yields (fun found => ∀ entries, found = .ok entries → WereRead formats entries)
        (pure (.ok entries) : StateM Files (Except LoadError (List (String × Tree)))) := by
    refine .ret ?_
    intro other same
    cases same
    exact read
  refine .bind (.any _) fun entry _ => ?_
  cases entry with
  | none => exact failed _
  | some entry =>
    cases entry with
    | file content =>
      refine .bind_option (.ret ?_) (failed _) ended
      intro entries read
      obtain ⟨format, _, made⟩ := Option.bind_eq_some_iff.mp read
      exact ⟨format, content, made⟩
    | other => exact .bind_option (readSibling_yields path _) (failed _) ended

def fileEntries (formats : Formats) (path : Option String) (environment : Environment)
    (files : Files) : Except LoadError (List (String × Tree)) :=
  match path.or (environment.lookup Environment.pathVariable) with
  | none => .ok []
  | some path => (readFile formats Files.access path files).1

section

variable {path : Option String} {environment : Environment} {files : Files} {settings : Settings}
  {entries : List (String × Tree)}

theorem run_bind {α β : Type} (first : StateM Files α) (next : α → StateM Files β) (files : Files) :
    (first >>= next) files = next (first files).1 (first files).2 := rfl

theorem load_eq (formats : Formats) (path : Option String) (environment : Environment) (files : Files) :
    (load formats Files.access path environment files).1 =
      fileEntries formats path environment files >>= (ofSources · environment) := by
  unfold load fileEntries
  cases path.or (environment.lookup Environment.pathVariable) with
  | none => rfl
  | some path =>
    simp only [run_bind]
    cases (readFile formats Files.access path files).1 <;> rfl

theorem fileEntries_distinct (found : fileEntries formats path environment files = .ok entries) :
    (table entries).Keys List.Nodup := by
  unfold fileEntries at found
  split at found
  · cases found
    exact ⟨List.nodup_nil, trivial⟩
  · obtain ⟨format, content, read⟩ := readFile_yields _ files entries found
    exact read_distinct read

/-- Settings are loaded, with these entries of a file. The environment names nothing but single
settings, and the sections of the file are tables. -/
structure Loads (formats : Formats) (path : Option String) (environment : Environment)
    (files : Files) (settings : Settings) (entries : List (String × Tree)) : Prop where
  loaded : (load formats Files.access path environment files).1 = .ok settings
  file : fileEntries formats path environment files = .ok entries
  names : environment.NamesLeaves
  sections : (ofFile entries).Sectioned

theorem Loads.leaf (loads : Loads formats path environment files settings entries) (leaf : Leaf) :
    leaf.value? (leaf.source? environment (ofFile entries)) = some (leaf.read settings) := by
  have made := loads.loaded
  rw [load_eq, loads.file] at made
  exact ofSources_leaf made loads.names loads.sections leaf

/-- What two environments and two files say about a setting is the same. -/
structure Leaf.SameSources (leaf : Leaf) (environment other : Environment) (file otherFile : Tree) :
    Prop where
  word : environment.text? leaf.key = other.text? leaf.key
  entry : file.at? leaf.path = otherFile.at? leaf.path

theorem Loads.read_eq {otherFormats : Formats} {otherPath : Option String}
    {otherEnvironment : Environment} {otherFiles : Files} {other : Settings}
    {otherEntries : List (String × Tree)}
    (loads : Loads formats path environment files settings entries)
    (others : Loads otherFormats otherPath otherEnvironment otherFiles other otherEntries) {leaf : Leaf}
    (same : leaf.SameSources environment otherEnvironment (ofFile entries) (ofFile otherEntries)) :
    leaf.read settings = leaf.read other := by
  have source : leaf.source? environment (ofFile entries) =
      leaf.source? otherEnvironment (ofFile otherEntries) := by
    unfold Leaf.source?
    rw [same.word, same.entry]
  have value := loads.leaf leaf
  rw [source, others.leaf leaf] at value
  exact (Option.some.inj value).symm

/-- Settings that are loaded hold for each single setting the value of its variable, else what the file
says about it, else the built-in value. Each depends on its own sources alone, and there is nothing else
to the settings. Keys of a document lead where they stand in it, if they are plain names in lower
case. -/
theorem load_leaves
    (loaded : (load formats Files.access path environment files).1 = .ok settings)
    (names : environment.NamesLeaves) :
    ∃ entries, fileEntries formats path environment files = .ok entries ∧
      ((table entries).Keys IsLower → (∀ entry ∈ entries, Step.ofKey entry.1 = [.member entry.1]) →
        ofFile entries = table entries) ∧
      ((ofFile entries).Sectioned →
        (∀ leaf : Leaf,
          leaf.value? (leaf.source? environment (ofFile entries)) = some (leaf.read settings)) ∧
        ∀ otherFormats otherPath otherEnvironment otherFiles other otherEntries,
          Loads otherFormats otherPath otherEnvironment otherFiles other otherEntries →
          (∀ leaf : Leaf,
            leaf.SameSources environment otherEnvironment (ofFile entries) (ofFile otherEntries) →
            leaf.read settings = leaf.read other) ∧
          ((∀ leaf : Leaf,
            leaf.SameSources environment otherEnvironment (ofFile entries) (ofFile otherEntries)) →
            settings = other)) := by
  have made := loaded
  rw [load_eq] at made
  obtain ⟨entries, file, _⟩ := Results.bind_ok_iff.mp made
  refine ⟨entries, file, setAll_document (fileEntries_distinct file), fun sections => ?_⟩
  have loads : Loads formats path environment files settings entries := ⟨loaded, file, names, sections⟩
  refine ⟨loads.leaf, ?_⟩
  intro otherFormats otherPath otherEnvironment otherFiles other otherEntries others
  exact ⟨fun leaf same => loads.read_eq others same,
    fun same => eq_of_leaves fun leaf => loads.read_eq others (same leaf)⟩

theorem exists_fileEntries (Holds : List (String × Tree) → Prop) [DecidablePred Holds]
    (found : (fileEntries formats path environment files).toOption.any
      (fun entries => decide (Holds entries)) = true) :
    ∃ entries, fileEntries formats path environment files = .ok entries ∧ Holds entries := by
  cases read : fileEntries formats path environment files with
  | error error =>
    rw [read] at found
    cases found
  | ok entries =>
    rw [read] at found
    exact ⟨entries, rfl, of_decide_eq_true found⟩

theorem ok_of_toOption {ε α : Type} {result : Except ε α} {a : α} (found : result.toOption = some a) :
    result = .ok a := by
  cases result with
  | error error => cases found
  | ok other =>
    cases found
    rfl

end

/-- The variable replaces the list of the file, which leaves the rest of its sections built in. -/
theorem load_leaves_layered :
    let files : Files := { directory := ["work"], entries := [(["etc", "voucher.toml"],
      .file (Text.encode "[diy]\nvalid_repos = ['a']\n[checks]\nrequired = ['diy']\n"))] }
    let environment : Environment := [("VOUCHER__DIY__VALID_REPOS", "gcr.io/a/,gcr.io/b/")]
    let path := some "/etc/voucher.toml"
    ∃ settings, (load .plain Files.access path environment files).1 = .ok settings ∧
      settings.validRepos = ["gcr.io/a/", "gcr.io/b/"] ∧ settings.checks.required = ["diy"] ∧
      settings.checks.dryRun = false := by
  intro files environment path
  have loads : (load .plain Files.access path environment files).1.toOption.isSome = true := by
    decide +kernel
  obtain ⟨settings, loaded⟩ := Option.isSome_iff_exists.mp loads
  have loaded := ok_of_toOption loaded
  have key : Environment.key? "VOUCHER__DIY__VALID_REPOS" = some Leaf.validRepos.key := by
    decide +kernel
  have names : environment.NamesLeaves := by
    intro variable_ member name named
    rw [List.mem_singleton.mp member, key] at named
    exact ⟨.validRepos, (Option.some.inj named).symm⟩
  obtain ⟨entries, file, _, values⟩ := load_leaves loaded names
  obtain ⟨others, same, sectioned, repos, required, dryRun⟩ := exists_fileEntries
    (fun entries =>
      (∀ name ∈ sections, (branches? ((ofFile entries).members.lookup name)).isSome) ∧
      orStandard texts? [] (Leaf.validRepos.source? environment (ofFile entries)) =
        some ["gcr.io/a/", "gcr.io/b/"] ∧
      orStandard texts? [] (Leaf.required.source? environment (ofFile entries)) = some ["diy"] ∧
      orStandard bool? false (Leaf.dryRun.source? environment (ofFile entries)) = some false)
    (by decide +kernel : (fileEntries .plain path environment files).toOption.any _ = true)
  obtain rfl := Except.ok.inj (file.symm.trans same)
  obtain ⟨leaves, _⟩ := values sectioned
  exact ⟨settings, loaded, Option.some.inj ((leaves .validRepos).symm.trans repos),
    Option.some.inj ((leaves .required).symm.trans required),
    Option.some.inj ((leaves .dryRun).symm.trans dryRun)⟩

/-- A table with nothing in it stands for the setting in the file. It has no value, and the settings are
loaded with the built-in one all the same. -/
theorem emptyTable_keeps_preset :
    let files : Files := { entries := [(["voucher.toml"],
      .file (Text.encode "[snakeoil]\nfail_on = \x7b\x7d\n"))] }
    ∃ settings entries, Loads .plain (some "voucher.toml") [] files settings entries ∧
      Leaf.failOn.value?
        (((Environment.text? [] Leaf.failOn.key).map (Environment.value Leaf.failOn.key)).or
          ((ofFile entries).at? Leaf.failOn.path)) ≠ some (Leaf.failOn.read settings) := by
  intro files
  have loaded : (load .plain Files.access (some "voucher.toml") [] files).1.toOption = some {} := by
    decide +kernel
  obtain ⟨entries, file, sectioned, valueless⟩ := exists_fileEntries
    (fun entries =>
      (∀ name ∈ sections, (branches? ((ofFile entries).members.lookup name)).isSome) ∧
      orStandard severity? .high
        (((Environment.text? [] Leaf.failOn.key).map (Environment.value Leaf.failOn.key)).or
          ((ofFile entries).at? Leaf.failOn.path)) = none)
    (by decide +kernel : (fileEntries .plain (some "voucher.toml") [] files).toOption.any _ = true)
  refine ⟨{}, entries, ⟨ok_of_toOption loaded, file, by simp [Environment.NamesLeaves], sectioned⟩, ?_⟩
  intro same
  have nothing := valueless.symm.trans same
  cases nothing

end Attestor.Settings
