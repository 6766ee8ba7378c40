import Attestor.Json.Record
import Attestor.Proofs.Associations

namespace Attestor.Json

open Associations

def stated? (names : List String) (name : String) : Json → Option Json
  | .obj members => members.lookup (some name)
  | .arr items => items[names.idxOf name]?
  | _ => none

theorem lookup_named {members : List (Text × Json)} {named : List (String × Json)}
    (read : named? members = some named) (name : String) :
    named.lookup name = members.lookup (some name) := by
  induction members generalizing named with
  | nil =>
    cases read
    rfl
  | cons member rest ih =>
    obtain ⟨key, value⟩ := member
    simp only [named?, List.mapM_cons, Option.bind_eq_bind, Option.bind_eq_some_iff,
      Option.map_eq_some_iff] at read
    obtain ⟨_, ⟨spelled, rfl, rfl⟩, others, later, made⟩ := read
    cases made
    rw [lookup_cons_ite, lookup_cons_ite, ih later]
    simp

def known (names : List String) (named : List (String × Json)) : Fields :=
  named.filter fun entry => names.contains entry.1

theorem fields_obj (names : List String) (members : List (Text × Json)) :
    (Json.obj members).fields? names = (named? members).bind fun named =>
      if ((known names named).map (·.1)).Nodup then some (known names named) else none := rfl

theorem lookup_known {names : List String} {name : String} (field : name ∈ names)
    (named : List (String × Json)) : (known names named).lookup name = named.lookup name :=
  lookup_filter_key (List.contains_iff_mem.mpr field) named

theorem known_between {names : List String} {key : String} (field : key ∈ names)
    (first second : List (String × Json)) (value : Json) :
    known names (first ++ (key, value) :: second) =
      known names first ++ (key, value) :: known names second := by
  simp [known, field]

theorem known_concat {names : List String} {key : String} (field : key ∈ names)
    (named : List (String × Json)) (value : Json) :
    known names (named ++ [(key, value)]) = known names named ++ [(key, value)] :=
  known_between field named [] value

theorem lookup_zip {names : List String} {items : List Json} {name : String} (field : name ∈ names) :
    (names.zip items).lookup name = items[names.idxOf name]? := by
  induction names generalizing items with
  | nil => cases field
  | cons head names ih =>
    cases items with
    | nil => rfl
    | cons item items =>
      rw [List.zip_cons_cons, lookup_cons_ite, List.idxOf_cons]
      by_cases same : name = head
      · simp [same]
      · rw [if_neg same, ih (List.mem_of_ne_of_mem same field)]
        rw [beq_eq_false_iff_ne.mpr (Ne.symm same)]
        rfl

theorem lookup_fields {names : List String} {name : String} {json : Json} {fields : Fields}
    (read : json.fields? names = some fields) (field : name ∈ names) :
    fields.lookup name = json.stated? names name := by
  cases json with
  | obj members =>
    rw [fields_obj, Option.bind_eq_some_iff] at read
    obtain ⟨named, spelled, read⟩ := read
    split at read
    · cases read
      rw [lookup_known field, lookup_named spelled, stated?]
    · cases read
  | arr items =>
    simp only [fields?] at read
    split at read
    · cases read
      exact lookup_zip field
    · cases read
  | _ => cases read

theorem named_concat (members : List (Text × Json)) (key : String) (value : Json) :
    named? (members ++ [(some key, value)]) = (named? members).map (· ++ [(key, value)]) := by
  cases spelled : named? members <;>
  · rw [named?] at spelled ⊢
    rw [List.mapM_append, spelled]
    rfl

theorem fields_concat {names : List String} {members : List (Text × Json)} {key : String} {value : Json}
    (field : key ∈ names) (fresh : members.lookup (some key) = none) :
    (Json.obj (members ++ [(some key, value)])).fields? names =
      ((Json.obj members).fields? names).map (· ++ [(key, value)]) := by
  rw [fields_obj, fields_obj, named_concat]
  cases spelled : named? members with
  | none => rfl
  | some named =>
    have lacking : (known names named).lookup key = none := by
      rw [lookup_known field, lookup_named spelled, fresh]
    rw [Option.map_some, Option.bind_some, Option.bind_some, known_concat field]
    by_cases fine : ((known names named).map (·.1)).Nodup
    · rw [if_pos fine, if_pos ((nodup_keys_concat lacking value).mpr fine)]
      rfl
    · rw [if_neg fine, if_neg (mt (nodup_keys_concat lacking value).mp fine)]
      rfl

namespace Fields

variable {α : Type} {fields : Fields} {name : String} {value? : Json → Option α}

theorem optional_some {result : Option α} (read : fields.optional name value? = some result) :
    (fields.lookup name = none ∨ fields.lookup name = some .null → result = none) ∧
      ∀ stated, fields.lookup name = some stated → stated ≠ .null →
        ∃ value, value? stated = some value ∧ result = some value := by
  rw [optional, withDefault] at read
  cases found : fields.lookup name with
  | none =>
    rw [found] at read
    cases read
    simp
  | some stated =>
    rw [found] at read
    cases stated with
    | null =>
      cases read
      simp
    | _ =>
      obtain ⟨value, taken, rfl⟩ := Option.map_eq_some_iff.mp read
      simp [taken]

end Fields

end Attestor.Json
