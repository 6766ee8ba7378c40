import Attestor.Proofs.Associations
import Attestor.Proofs.Evidence.Documents
import Attestor.Proofs.Image.Canonical
import Attestor.Proofs.Json.RoundTrip

namespace Attestor

open Associations Results

theorem Json.lastOfEach_distinct {α : Type} (entries : List (String × α)) :
    ((lastOfEach entries).map (·.1)).Nodup ∧ ∀ entry ∈ lastOfEach entries, entry ∈ entries := by
  induction entries with
  | nil => exact ⟨List.nodup_nil, fun _ member => member⟩
  | cons entry rest ih =>
    obtain ⟨key, value⟩ := entry
    obtain ⟨distinct, kept⟩ := ih
    rw [lastOfEach]
    split
    · exact ⟨distinct, fun other member => List.mem_cons_of_mem _ (kept other member)⟩
    · rename_i fresh
      refine ⟨List.nodup_cons.mpr ⟨?_, distinct⟩, ?_⟩
      · intro member
        obtain ⟨other, later, same⟩ := List.mem_map.mp member
        exact fresh (List.any_eq_true.mpr ⟨other, kept other later, beq_iff_eq.mpr same⟩)
      · intro other member
        rcases List.mem_cons.mp member with rfl | later
        · exact List.mem_cons_self ..
        · exact List.mem_cons_of_mem _ (kept other later)

theorem Json.lookup_lastOfEach {α : Type} (entries : List (String × α)) (key : String) :
    (lastOfEach entries).lookup key = entries.reverse.lookup key := by
  induction entries with
  | nil => rfl
  | cons entry rest ih =>
    obtain ⟨head, value⟩ := entry
    have repeated : rest.any (·.1 == head) = (rest.reverse.lookup head).isSome := by
      rw [Bool.eq_iff_iff, List.any_eq_true, List.lookup_isSome_iff]
      simp only [List.mem_reverse, beq_iff_eq, eq_comm (a := head)]
    rw [List.reverse_cons, List.lookup_append, lastOfEach, repeated, lookup_cons_ite, List.lookup_nil]
    by_cases here : key = head
    · subst here
      cases found : rest.reverse.lookup key with
      | some last => rw [Option.isSome_some, if_pos rfl, ih, found, Option.some_or]
      | none => rw [Option.isSome_none, if_neg Bool.false_ne_true, Option.none_or, lookup_cons_ite,
        if_pos rfl, if_pos rfl]
    · rw [if_neg here, Option.or_none, ← ih]
      split
      · rfl
      · rw [lookup_cons_ite, if_neg here]

theorem Json.dictionary_distinct {α : Type} {value? : Json → Option α} {json : Json}
    {entries : List (String × α)} (read : dictionary? value? json = some entries) :
    (entries.map (·.1)).Nodup := by
  cases json with
  | obj members =>
    obtain ⟨named, _, later⟩ := Option.bind_eq_some_iff.mp read
    obtain ⟨all, _, made⟩ := Option.bind_eq_some_iff.mp later
    cases made
    exact (lastOfEach_distinct all).1
  | _ => cases read

namespace Catalogue

def SameAnswers (one other : Catalogue) : Prop :=
  ∀ image, one.buildDetail image = other.buildDetail image ∧
    one.vulnerabilities image = other.vulnerabilities image

/-- Keys that name one image hold the same evidence. -/
def Unambiguous (entries : List (String × ImageEvidence)) : Prop :=
  ∀ first ∈ entries, ∀ second ∈ entries, ∀ image, ImageReference.parse first.1 = .ok image →
    ImageReference.parse second.1 = .ok image → first.2 = second.2

def names (image : ImageReference) (entry : String × ImageEvidence) : Bool :=
  image.isReadFrom entry.1

theorem names_iff {image : ImageReference} {entry : String × ImageEvidence} :
    names image entry = true ↔ ImageReference.parse entry.1 = .ok image :=
  ImageReference.isReadFrom_iff

theorem readDocument_distinct {bytes : List UInt8} {entries : List (String × ImageEvidence)}
    (read : readDocument? bytes = some entries) : (entries.map (·.1)).Nodup := by
  obtain ⟨json, _, listed⟩ := Option.bind_eq_some_iff.mp read
  exact Json.dictionary_distinct listed

def put (catalogue : Catalogue) (entry : String × ImageEvidence) : Except ImageError Catalogue := do
  let image ← ImageReference.parse entry.1
  return { entries := (image, entry.2) :: catalogue.entries }

theorem ofEntries_eq (entries : List (String × ImageEvidence)) :
    ofEntries entries = entries.foldlM put {} := rfl

theorem put_ok_iff {catalogue after : Catalogue} {entry : String × ImageEvidence} :
    catalogue.put entry = .ok after ↔ ∃ image, ImageReference.parse entry.1 = .ok image ∧
      after = { entries := (image, entry.2) :: catalogue.entries } := by
  rw [put, bind_ok_iff]
  constructor
  · intro given
    obtain ⟨image, read, made⟩ := given
    cases made
    exact ⟨image, read, rfl⟩
  · intro given
    obtain ⟨image, read, rfl⟩ := given
    exact ⟨image, read, rfl⟩

/-- Entries can be filed if and only if every key names an image. -/
theorem putAll_ok_iff {entries : List (String × ImageEvidence)} {catalogue : Catalogue} :
    (∃ after, entries.foldlM put catalogue = .ok after) ↔
      ∀ entry ∈ entries, ∃ image, ImageReference.parse entry.1 = .ok image := by
  induction entries generalizing catalogue with
  | nil => exact ⟨fun _ _ member => (List.not_mem_nil member).elim, fun _ => ⟨catalogue, rfl⟩⟩
  | cons entry rest ih =>
    simp only [List.foldlM_cons, bind_ok_iff, List.mem_cons, forall_eq_or_imp]
    constructor
    · intro given
      obtain ⟨after, middle, filed, later⟩ := given
      obtain ⟨image, read, _⟩ := put_ok_iff.mp filed
      exact ⟨⟨image, read⟩, ih.mp ⟨after, later⟩⟩
    · intro given
      obtain ⟨⟨image, read⟩, others⟩ := given
      obtain ⟨after, later⟩ := ih.mpr others
      exact ⟨after, _, put_ok_iff.mpr ⟨image, read, rfl⟩, later⟩

/-- Of the keys that name an image the last one counts. -/
theorem evidence_putAll {entries : List (String × ImageEvidence)} {before after : Catalogue}
    (filed : entries.foldlM put before = .ok after) (image : ImageReference) :
    after.evidence? image =
      ((entries.reverse.find? (names image)).map (·.2)).or (before.evidence? image) := by
  induction entries generalizing before with
  | nil =>
    cases filed
    rfl
  | cons entry rest ih =>
    rw [List.foldlM_cons] at filed
    obtain ⟨middle, made, later⟩ := bind_ok_iff.mp filed
    obtain ⟨place, read, rfl⟩ := put_ok_iff.mp made
    have first : ({ entries := (place, entry.2) :: before.entries } : Catalogue).evidence? image =
        (([entry].find? (names image)).map (·.2)).or (before.evidence? image) := by
      rw [evidence?, lookup_cons_ite]
      by_cases same : image = place
      · subst same
        simp [names_iff.mpr read]
      · have other : names image entry = false := by
          refine Bool.eq_false_iff.mpr fun named => same ?_
          exact Except.ok.inj ((names_iff.mp named).symm.trans read)
        simp [other, same, evidence?]
    rw [ih later, first, List.reverse_cons, List.find?_append, ← Option.or_assoc, Option.map_or]

theorem evidence_ofEntries {entries : List (String × ImageEvidence)} {catalogue : Catalogue}
    (filed : ofEntries entries = .ok catalogue) (image : ImageReference) :
    catalogue.evidence? image = (entries.reverse.find? (names image)).map (·.2) := by
  rw [ofEntries_eq] at filed
  rw [evidence_putAll filed image]
  exact Option.or_none

theorem evidence_mem {entries : List (String × ImageEvidence)} {catalogue : Catalogue}
    {image : ImageReference} {evidence : ImageEvidence}
    (filed : ofEntries entries = .ok catalogue)
    (found : catalogue.evidence? image = some evidence) :
    ∃ entry ∈ entries, names image entry = true ∧ entry.2 = evidence := by
  rw [evidence_ofEntries filed] at found
  obtain ⟨entry, last, same⟩ := Option.map_eq_some_iff.mp found
  have member := List.mem_of_find?_eq_some last
  exact ⟨entry, List.mem_reverse.mp member, List.find?_some last, same⟩

theorem evidence_isSome {entries : List (String × ImageEvidence)} {catalogue : Catalogue}
    {image : ImageReference} {entry : String × ImageEvidence}
    (filed : ofEntries entries = .ok catalogue) (member : entry ∈ entries)
    (named : names image entry = true) :
    ∃ evidence, catalogue.evidence? image = some evidence := by
  have some : (entries.reverse.find? (names image)).isSome = true :=
    List.find?_isSome.mpr ⟨entry, List.mem_reverse.mpr member, named⟩
  obtain ⟨last, found⟩ := Option.isSome_iff_exists.mp some
  exact ⟨last.2, by rw [evidence_ofEntries filed, found]; rfl⟩

/-- The answers for an image tell all that is recorded about it. -/
theorem evidence_eq {one other : Catalogue} {image : ImageReference} {first second : ImageEvidence}
    (held : one.evidence? image = some first) (found : other.evidence? image = some second)
    (same : one.buildDetail image = other.buildDetail image ∧
      one.vulnerabilities image = other.vulnerabilities image) : first = second := by
  obtain ⟨build, findings⟩ := same
  obtain ⟨firstBuild, firstFindings⟩ := first
  obtain ⟨secondBuild, secondFindings⟩ := second
  simp only [buildDetail, vulnerabilities, held, found, Option.bind_some] at build findings
  congr 1
  · cases firstBuild <;> cases secondBuild <;> simp_all
  · cases firstFindings <;> cases secondFindings <;> simp_all

section

variable {entries : List (String × ImageEvidence)} {catalogue : Catalogue}

theorem ofEntries_perm {order : List (String × ImageEvidence)} (same : order.Perm entries)
    (filed : ofEntries entries = .ok catalogue) : ∃ other, ofEntries order = .ok other := by
  refine putAll_ok_iff.mpr fun entry member => ?_
  exact putAll_ok_iff.mp ⟨catalogue, filed⟩ entry (same.mem_iff.mp member)

theorem exists_order {image : ImageReference} {entry : String × ImageEvidence}
    (filed : ofEntries entries = .ok catalogue) (member : entry ∈ entries)
    (named : names image entry = true) :
    ∃ order other, order.Perm entries ∧ ofEntries order = .ok other ∧
      other.evidence? image = some entry.2 := by
  obtain ⟨before, after, rfl⟩ := List.append_of_mem member
  have moved : ((before ++ after) ++ [entry]).Perm (before ++ entry :: after) :=
    (List.perm_append_singleton entry _).trans List.perm_middle.symm
  obtain ⟨other, held⟩ := ofEntries_perm moved filed
  refine ⟨_, other, moved, held, ?_⟩
  rw [evidence_ofEntries held, List.reverse_append, List.reverse_singleton, List.singleton_append,
    List.find?_cons_of_pos named]
  rfl

theorem Unambiguous.evidence_eq {first second : List (String × ImageEvidence)}
    {one other : Catalogue} (unambiguous : Unambiguous entries) (left : first.Perm entries)
    (right : second.Perm entries) (held : ofEntries first = .ok one)
    (found : ofEntries second = .ok other) (image : ImageReference) :
    one.evidence? image = other.evidence? image := by
  have within {first second : List (String × ImageEvidence)} {one other : Catalogue}
      {evidence : ImageEvidence} (left : first.Perm entries) (right : second.Perm entries)
      (held : ofEntries first = .ok one) (found : ofEntries second = .ok other)
      (counts : one.evidence? image = some evidence) : other.evidence? image = some evidence := by
    obtain ⟨entry, member, named, rfl⟩ := evidence_mem held counts
    have known := left.mem_iff.mp member
    obtain ⟨evidence, there⟩ := evidence_isSome found (right.mem_iff.mpr known) named
    obtain ⟨last, present, called, rfl⟩ := evidence_mem found there
    rw [there, unambiguous last (right.mem_iff.mp present) entry known image
      (names_iff.mp called) (names_iff.mp named)]
  refine Option.ext fun evidence => ⟨within left right held found, within right left found held⟩

theorem sameAnswers_iff (filed : ofEntries entries = .ok catalogue) :
    (∀ first second one other, first.Perm entries → second.Perm entries →
      ofEntries first = .ok one → ofEntries second = .ok other → one.SameAnswers other) ↔
      Unambiguous entries := by
  constructor
  · intro same first here second there image left right
    obtain ⟨before, one, order, held, counts⟩ := exists_order filed here (names_iff.mpr left)
    obtain ⟨after, other, reorder, found, tells⟩ := exists_order filed there (names_iff.mpr right)
    exact Catalogue.evidence_eq counts tells
      (same before after one other order reorder held found image)
  · intro unambiguous first second one other left right held found image
    have equal := unambiguous.evidence_eq left right held found image
    simp only [buildDetail, vulnerabilities, equal, and_self]

end

/-- The entries of a document that is accepted have different keys, and in whichever order they are
taken they are all filed. What is served is the same for every order if and only if no two keys that
name one image hold different evidence. -/
theorem ofFile_sameAnswers_iff {path : String} {entry : Option Entry} {catalogue : Catalogue}
    (loaded : ofFile path entry = .ok catalogue) :
    ∃ bytes entries, entry = some (.file bytes) ∧ readDocument? bytes = some entries ∧
      (entries.map (·.1)).Nodup ∧ ofEntries entries = .ok catalogue ∧
      (∀ order, order.Perm entries → ∃ other, ofEntries order = .ok other) ∧
      ((∀ first second one other, first.Perm entries → second.Perm entries →
        ofEntries first = .ok one → ofEntries second = .ok other → one.SameAnswers other) ↔
        Unambiguous entries) := by
  obtain ⟨bytes, entries, held, read, filed⟩ := ofFile_ok_iff.mp loaded
  exact ⟨bytes, entries, held, read, readDocument_distinct read, filed,
    fun order same => ofEntries_perm same filed, sameAnswers_iff filed⟩

def tagged : Json :=
  .record [
    ("app:1@sha256:73d506a23331fce5cb6f49bfb4c27450d2ef4878efce89f03a46b27372a88430", .record []),
    ("app@sha256:73d506a23331fce5cb6f49bfb4c27450d2ef4878efce89f03a46b27372a88430",
      .record [("vulnerabilities", .arr [])])]

theorem ofFile_sameAnswers_iff_tagged :
    ∃ catalogue entries,
      ofFile "metadata.json" (some (.file (Text.encode tagged.pretty))) = .ok catalogue ∧
      readDocument? (Text.encode tagged.pretty) = some entries ∧
      ¬ ∀ first second one other, first.Perm entries → second.Perm entries →
        ofEntries first = .ok one → ofEntries second = .ok other → one.SameAnswers other := by
  let image : ImageReference :=
    { name := "docker.io/library/app"
      digest := "sha256:73d506a23331fce5cb6f49bfb4c27450d2ef4878efce89f03a46b27372a88430" }
  let scanned : String × ImageEvidence :=
    ("app@sha256:73d506a23331fce5cb6f49bfb4c27450d2ef4878efce89f03a46b27372a88430",
      { vulnerabilities := some [] })
  let unscanned : String × ImageEvidence :=
    ("app:1@sha256:73d506a23331fce5cb6f49bfb4c27450d2ef4878efce89f03a46b27372a88430", {})
  have known : readDocument? (Text.encode tagged.pretty) = some [unscanned, scanned] := by
    rw [readDocument?, Json.ofBytes_pretty rfl]
    rfl
  have first : names image scanned = true := by decide
  have second : names image unscanned = true := by decide
  obtain ⟨catalogue, filed⟩ : ∃ catalogue, ofEntries [unscanned, scanned] = .ok catalogue := by
    refine putAll_ok_iff.mpr fun entry member => ⟨image, names_iff.mp ?_⟩
    simp only [List.mem_cons, List.not_mem_nil, or_false] at member
    rcases member with rfl | rfl
    · exact second
    · exact first
  have loaded : ofFile "metadata.json" (some (.file (Text.encode tagged.pretty))) = .ok catalogue :=
    ofFile_ok_iff.mpr ⟨_, _, rfl, known, filed⟩
  obtain ⟨bytes, entries, held, read, _, _, _, same⟩ := ofFile_sameAnswers_iff loaded
  obtain rfl := Entry.file.inj (Option.some.inj held)
  refine ⟨catalogue, entries, loaded, read, ?_⟩
  rw [same]
  intro unambiguous
  obtain rfl := Option.some.inj (known.symm.trans read)
  have equal := unambiguous scanned (by simp) unscanned (by simp) image (names_iff.mp first)
    (names_iff.mp second)
  cases equal

end Catalogue

end Attestor
