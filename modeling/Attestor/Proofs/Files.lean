import Attestor.Files
import Attestor.Proofs.Associations

namespace Attestor.Files

open Associations

variable {files : Files} {names other : List String}

/-- A place is a directory if it lies on the way to the working directory or to an entry, or is marked
as one. -/
theorem isDirectory_iff :
    files.isDirectory names = true ↔ names <+: files.directory ∨
      ∃ place entry, (place, entry) ∈ files.entries ∧
        (place = names ∧ entry = .other ∨ names <+: place ∧ place ≠ names) := by
  simp only [isDirectory, Bool.or_eq_true, List.any_eq_true, Bool.and_eq_true,
    decide_eq_true_eq, List.isPrefixOf_iff_prefix, ne_eq, Prod.exists]

theorem isDirectory_shorter (shorter : other <+: names) (directory : files.isDirectory names = true) :
    files.isDirectory other = true := by
  rw [isDirectory_iff] at directory ⊢
  rcases directory with above | ⟨place, entry, member, ⟨rfl, kind⟩ | ⟨inside, proper⟩⟩
  · exact .inl (shorter.trans above)
  · by_cases same : place = other
    · exact .inr ⟨place, entry, member, .inl ⟨same, kind⟩⟩
    · exact .inr ⟨place, entry, member, .inr ⟨shorter, same⟩⟩
  · refine .inr ⟨place, entry, member, .inr ⟨shorter.trans inside, ?_⟩⟩
    intro equal
    subst equal
    exact proper (inside.eq_of_length_le shorter.length_le).symm

/-- Whatever path is followed, the place before the last is a directory. -/
theorem follow_parent {start parts : List String} (found : files.follow start parts = some names)
    (parent : files.isDirectory start.dropLast = true) :
    files.isDirectory names.dropLast = true := by
  induction parts generalizing start with
  | nil =>
    cases found
    exact parent
  | cons part parts ih =>
    simp only [follow] at found
    split at found
    · cases found
    · rename_i directory
      split at found
      · exact ih found parent
      · split at found
        · exact ih found (isDirectory_shorter (List.dropLast_prefix _) parent)
        · refine ih found ?_
          rw [List.dropLast_concat]
          simpa using directory

theorem located_parent {path : String} (located : files.locate path = some names) :
    files.isDirectory names.dropLast = true := by
  rw [locate] at located
  split at located
  · cases located
  · refine follow_parent located (isDirectory_iff.mpr (.inl ?_))
    split
    · exact List.nil_prefix
    · exact List.dropLast_prefix _

theorem follow_congr {after : Files}
    (same : ∀ names, after.isDirectory names = files.isDirectory names) (start parts : List String) :
    after.follow start parts = files.follow start parts := by
  induction parts generalizing start with
  | nil => rfl
  | cons part parts ih => simp only [follow, same, ih]

theorem mem_put {content : List UInt8} {place : List String} {entry : Entry}
    {entries : List (List String × Entry)} (member : (place, entry) ∈ put names content entries) :
    (place, entry) ∈ entries ∨ (place = names ∧ entry = .file content) := by
  induction entries with
  | nil => exact .inr (by simpa [put] using member)
  | cons first rest ih =>
    obtain ⟨head, old⟩ := first
    simp only [put] at member
    split at member
    · rcases List.mem_cons.mp member with same | later
      · exact .inr (Prod.mk.inj same)
      · exact .inl (List.mem_cons_of_mem _ later)
    · rcases List.mem_cons.mp member with same | later
      · exact .inl (same ▸ List.mem_cons_self ..)
      · exact (ih later).imp_left (List.mem_cons_of_mem _)

theorem mem_put_of_ne {content : List UInt8} {place : List String} {entry : Entry}
    {entries : List (List String × Entry)} (different : place ≠ names)
    (member : (place, entry) ∈ entries) : (place, entry) ∈ put names content entries := by
  induction entries with
  | nil => cases member
  | cons first rest ih =>
    obtain ⟨head, old⟩ := first
    simp only [put]
    split
    · rename_i equal
      rcases List.mem_cons.mp member with same | later
      · cases same
        exact absurd equal different
      · exact List.mem_cons_of_mem _ later
    · rcases List.mem_cons.mp member with same | later
      · exact same ▸ List.mem_cons_self ..
      · exact List.mem_cons_of_mem _ (ih later)

theorem lookup_put (content : List UInt8) (entries : List (List String × Entry)) :
    (put names content entries).lookup names = some (.file content) := by
  induction entries with
  | nil => simp [put]
  | cons first rest ih =>
    obtain ⟨head, old⟩ := first
    simp only [put]
    split
    · simp
    · rename_i different
      rw [lookup_cons_ite, if_neg (Ne.symm different), ih]

theorem lookup_put_of_ne {content : List UInt8} {entries : List (List String × Entry)}
    (different : other ≠ names) :
    (put names content entries).lookup other = entries.lookup other := by
  induction entries with
  | nil => rw [put, lookup_cons_ite, if_neg different]
  | cons first rest ih =>
    obtain ⟨head, old⟩ := first
    simp only [put]
    split
    · rename_i same
      subst same
      simp only [lookup_cons_ite, if_neg different]
    · simp only [lookup_cons_ite, ih]

theorem prefix_of_parent (inside : other <+: names) (proper : names ≠ other) :
    other <+: names.dropLast := by
  obtain ⟨rest, rfl⟩ := inside
  cases rest with
  | nil => exact absurd (List.append_nil other) proper
  | cons first more =>
    rw [List.dropLast_append_of_ne_nil (List.cons_ne_nil first more)]
    exact List.prefix_append ..

theorem isDirectory_put {content : List UInt8} (plain : files.isDirectory names = false)
    (parent : files.isDirectory names.dropLast = true) (other : List String) :
    ({ files with entries := put names content files.entries } : Files).isDirectory other =
      files.isDirectory other := by
  rw [Bool.eq_iff_iff]
  constructor
  · intro directory
    rcases isDirectory_iff.mp directory with above | ⟨place, entry, member, kind⟩
    · exact isDirectory_iff.mpr (.inl above)
    · rcases mem_put member with old | ⟨rfl, rfl⟩
      · exact isDirectory_iff.mpr (.inr ⟨place, entry, old, kind⟩)
      · rcases kind with ⟨_, impossible⟩ | ⟨inside, proper⟩
        · cases impossible
        · exact isDirectory_shorter (prefix_of_parent inside proper) parent
  · intro directory
    rcases isDirectory_iff.mp directory with above | ⟨place, entry, member, kind⟩
    · exact isDirectory_iff.mpr (.inl above)
    · by_cases same : place = names
      · subst same
        rcases kind with ⟨rfl, _⟩ | through
        · rw [plain] at directory
          cases directory
        · have found : (put place content files.entries).lookup place = some (.file content) :=
            lookup_put content files.entries
          have written := mem_of_lookup found
          exact isDirectory_iff.mpr (.inr ⟨place, _, written, .inr through⟩)
      · exact isDirectory_iff.mpr (.inr ⟨place, entry, mem_put_of_ne same member, kind⟩)

/-- A write puts a file where no directory is, and every path leads where it led before. -/
theorem write_spec {after : Files} {path : String} {content : List UInt8}
    (written : files.write? path content = some after) :
    ∃ names, files.locate path = some names ∧ files.isDirectory names = false ∧
      after = { files with entries := put names content files.entries } ∧
      (∀ other, after.isDirectory other = files.isDirectory other) ∧
      ∀ other, after.locate other = files.locate other := by
  obtain ⟨names, located, made⟩ := Option.bind_eq_some_iff.mp written
  split at made
  · cases made
  · rename_i plain
    cases made
    have parent : files.isDirectory names.dropLast = true := located_parent located
    have same (other : List String) :
        ({ files with entries := put names content files.entries } : Files).isDirectory other =
          files.isDirectory other :=
      isDirectory_put (Bool.eq_false_iff.mpr plain) parent other
    refine ⟨names, located, Bool.eq_false_iff.mpr plain, rfl, same, ?_⟩
    intro other
    simp only [locate, follow_congr same]

theorem write_exists {path : String} {names : List String}
    (located : files.locate path = some names) (plain : files.isDirectory names = false)
    (content : List UInt8) : ∃ after, files.write? path content = some after := by
  refine ⟨{ files with entries := put names content files.entries }, ?_⟩
  rw [write?, located, Option.bind_some, plain]
  rfl

theorem look_write {after : Files} {path : String} {content : List UInt8}
    (written : files.write? path content = some after) : after.look path = some (.file content) := by
  obtain ⟨names, located, plain, rfl, same, places⟩ := write_spec written
  rw [look, places, located, Option.bind_some, same, plain]
  exact lookup_put content files.entries

theorem put_put (content : List UInt8) (entries : List (List String × Entry)) :
    put names content (put names content entries) = put names content entries := by
  induction entries with
  | nil => simp [put]
  | cons first rest ih =>
    obtain ⟨head, old⟩ := first
    by_cases same : head = names
    · simp [put, same]
    · simp only [put, if_neg same, ih]

theorem write_again {after : Files} {path : String} {content : List UInt8}
    (written : files.write? path content = some after) :
    after.write? path content = some after := by
  obtain ⟨names, located, plain, rfl, same, places⟩ := write_spec written
  rw [write?, places, located, Option.bind_some, same, plain]
  simp only [Bool.false_eq_true, ↓reduceIte, put_put]

theorem look_write_of_ne {after : Files} {path elsewhere : String} {content : List UInt8}
    (written : files.write? path content = some after)
    (different : files.locate elsewhere ≠ files.locate path) :
    after.look elsewhere = files.look elsewhere := by
  obtain ⟨names, located, plain, rfl, same, places⟩ := write_spec written
  rw [look, look, places]
  cases led : files.locate elsewhere with
  | none => rfl
  | some other =>
    have apart : other ≠ names := by
      intro equal
      subst equal
      exact different (led.trans located.symm)
    rw [Option.bind_some, Option.bind_some, same]
    simp only [lookup_put_of_ne apart]

end Attestor.Files
