import Attestor.Proofs.Evidence.Catalogue
import Attestor.Proofs.Settings.Layers
import Attestor.Proofs.Toml.Keys
import Attestor.Settings.Load

namespace Attestor.Settings

open Associations

namespace Tree

theorem keysInside_iff {Holds : List String → Prop} {members : List (String × Tree)} :
    KeysInside Holds members ↔ ∀ entry ∈ members, entry.2.Keys Holds := by
  induction members with
  | nil => simp [KeysInside]
  | cons first rest ih => rw [KeysInside, ih, List.forall_mem_cons]

theorem replace_fresh {name : String} {value : Tree} {members : List (String × Tree)}
    (fresh : name ∉ members.map (·.1)) : replace name value members = members ++ [(name, value)] := by
  induction members with
  | nil => rfl
  | cons first rest ih =>
    obtain ⟨head, old⟩ := first
    rw [List.map_cons, List.mem_cons, not_or] at fresh
    rw [replace, if_neg (Ne.symm fresh.1), ih fresh.2]
    rfl

mutual

theorem merge_fresh {value : Tree} (lower : value.Keys IsLower) (distinct : value.Keys List.Nodup) :
    absent.merge value = value := by
  match value with
  | .absent | .bool _ | .integer _ | .float _ | .text _ | .list _ => rfl
  | .table members =>
    have fresh : ∀ entry ∈ members, entry.1 ∉ ([] : List (String × Tree)).map (·.1) := by simp
    exact mergeMembers_fresh lower.1 lower.2 distinct.1 distinct.2 fresh

theorem mergeMembers_fresh {earlier members : List (String × Tree)}
    (lower : IsLower (members.map (·.1))) (lowerInside : KeysInside IsLower members)
    (distinct : (members.map (·.1)).Nodup) (distinctInside : KeysInside List.Nodup members)
    (fresh : ∀ entry ∈ members, entry.1 ∉ earlier.map (·.1)) :
    mergeMembers (table earlier) members = table (earlier ++ members) := by
  match members with
  | [] => rw [mergeMembers, List.append_nil]
  | (name, value) :: rest =>
    obtain ⟨lowerName, lowerRest⟩ := List.forall_mem_cons.mp lower
    obtain ⟨once, distinctRest⟩ := List.nodup_cons.mp distinct
    obtain ⟨freshName, freshRest⟩ := List.forall_mem_cons.mp fresh
    simp only at lowerName once freshName
    have nothing : (table earlier).member name = absent := by
      unfold member
      cases found : (table earlier).members.lookup name with
      | none => rfl
      | some old => exact absurd (List.mem_map_of_mem (mem_of_lookup found)) freshName
    have later : ∀ entry ∈ rest, entry.1 ∉ (earlier ++ [(name, value)]).map (·.1) := by
      intro entry member
      rw [List.map_append, List.mem_append, List.map_singleton, List.mem_singleton, not_or]
      refine ⟨freshRest entry member, fun same => once ?_⟩
      have listed : entry.1 ∈ rest.map (·.1) := List.mem_map_of_mem member
      rwa [same] at listed
    rw [mergeMembers, lowerName, nothing, merge_fresh lowerInside.1 distinctInside.1, putMember,
      Tree.members, replace_fresh freshName,
      mergeMembers_fresh lowerRest lowerInside.2 distinctRest distinctInside.2 later,
      List.append_assoc, List.singleton_append]

end

theorem setAll_names {entries : List (String × Tree)} (names : ∀ entry ∈ entries,
    Step.ofKey entry.1 = [.member entry.1]) (tree : Tree) :
    tree.setAll entries = mergeMembers tree entries := by
  induction entries generalizing tree with
  | nil => rfl
  | cons entry rest ih =>
    obtain ⟨key, value⟩ := entry
    obtain ⟨name, later⟩ := List.forall_mem_cons.mp names
    have first : tree.set key value =
        tree.putMember (Text.lower key) ((tree.member (Text.lower key)).merge value) := by
      rw [set, name]
      rfl
    rw [mergeMembers, ← first]
    exact ih later _

/-- What a document makes of nothing is the document, if it has no key twice and its keys are plain
lower-case names. -/
theorem setAll_document {entries : List (String × Tree)} (distinct : (table entries).Keys List.Nodup)
    (lower : (table entries).Keys IsLower)
    (names : ∀ entry ∈ entries, Step.ofKey entry.1 = [.member entry.1]) :
    (table []).setAll entries = table entries := by
  rw [setAll_names names]
  exact mergeMembers_fresh lower.1 lower.2 distinct.1 distinct.2 (by simp)

mutual

theorem ofJson_distinct {json : Json} {tree : Tree} (made : ofJson? json = some tree) :
    tree.Keys List.Nodup := by
  match json with
  | .null | .bool _ =>
    cases made
    trivial
  | .num numeral =>
    obtain ⟨value, _, rfl⟩ := Option.map_eq_some_iff.mp made
    cases value <;> trivial
  | .str value =>
    obtain ⟨value, _, rfl⟩ := Option.map_eq_some_iff.mp made
    trivial
  | .arr items =>
    obtain ⟨items, _, rfl⟩ := Option.map_eq_some_iff.mp made
    trivial
  | .obj members =>
    obtain ⟨members, read, rfl⟩ := Option.map_eq_some_iff.mp made
    obtain ⟨distinct, kept⟩ := Json.lastOfEach_distinct members
    refine ⟨distinct, keysInside_iff.mpr fun entry member => ?_⟩
    exact keysInside_iff.mp (membersOfJson_distinct read) entry (kept entry member)

theorem membersOfJson_distinct {members : List (Json.Text × Json)} {read : List (String × Tree)}
    (made : membersOfJson? members = some read) : KeysInside List.Nodup read := by
  match members with
  | [] =>
    cases made
    trivial
  | (key, value) :: rest =>
    simp only [membersOfJson?, Option.bind_eq_bind, Option.bind_eq_some_iff] at made
    obtain ⟨key, _, value, first, rest, later, made⟩ := made
    cases made
    exact ⟨ofJson_distinct first, membersOfJson_distinct later⟩

end

theorem keys_membersOfToml (members : List (String × Toml)) :
    (membersOfToml members).map (·.1) = members.map (·.1) := by
  induction members with
  | nil => rfl
  | cons first rest ih => rw [membersOfToml, List.map_cons, List.map_cons, ih]

mutual

theorem ofToml_distinct {value : Toml} (distinct : value.Distinct) :
    (ofToml value).Keys List.Nodup := by
  match value with
  | .text _ | .integer _ | .float _ | .bool _ | .moment _ | .array _ | .tables _ _ => trivial
  | .table origin members =>
    refine ⟨?_, membersOfToml_distinct distinct.2⟩
    rw [keys_membersOfToml]
    exact distinct.1

theorem membersOfToml_distinct {members : List (String × Toml)}
    (inside : Toml.DistinctInside members) : KeysInside List.Nodup (membersOfToml members) := by
  match members with
  | [] => trivial
  | (key, value) :: rest => exact ⟨ofToml_distinct inside.1, membersOfToml_distinct inside.2⟩

end

end Tree

open Settings.Tree

/-- No table of a document has a key twice, in whichever format it is read. -/
theorem read_distinct {formats : Formats} {format : Format} {content : List UInt8}
    {entries : List (String × Tree)} (read : formats.read? content format = some entries) :
    (table entries).Keys List.Nodup := by
  cases format with
  | toml =>
    obtain ⟨decoded, _, read⟩ := Option.bind_eq_some_iff.mp read
    obtain ⟨members, document, made⟩ := Option.bind_eq_some_iff.mp read
    cases made
    have once := Toml.document_once document
    refine ⟨?_, membersOfToml_distinct (Toml.distinctInside_iff.mpr once.inside)⟩
    rw [keys_membersOfToml]
    exact once.keys
  | json =>
    obtain ⟨decoded, _, read⟩ := Option.bind_eq_some_iff.mp read
    obtain ⟨document, _, read⟩ := Option.bind_eq_some_iff.mp read
    split at read
    · cases read
    · obtain ⟨tree, made, read⟩ := Option.bind_eq_some_iff.mp read
      have distinct := ofJson_distinct made
      split at read
      · cases read
        exact distinct
      · cases read
  | yaml | ini | ron | json5 =>
    obtain ⟨decoded, _, read⟩ := Option.bind_eq_some_iff.mp read
    obtain ⟨document, _, made⟩ := Option.bind_eq_some_iff.mp read
    cases made
    exact document.property

end Attestor.Settings
