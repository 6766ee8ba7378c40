import Attestor.Proofs.Json.Record
import Attestor.Proofs.Json.RoundTrip

namespace Attestor.Json

open Associations

section

variable (test : Numeral → Bool)

theorem sound_record (members : List (String × Json)) :
    (record members).sound test = members.all fun member => member.2.sound test := by
  rw [record, sound]
  induction members with
  | nil => rfl
  | cons member rest ih => simp [soundMembers, ih]

theorem sound_sparse (members : List (String × Option Json)) :
    (sparse members).sound test = members.all fun member => member.2.all (sound test) := by
  rw [sparse, sound_record, List.all_filterMap]
  congr
  funext ⟨key, value⟩
  cases value <;> rfl

theorem sound_ofList {α : Type} (write : α → Json) (items : List α) :
    (ofList write items).sound test = items.all fun item => (write item).sound test := by
  rw [ofList, sound]
  induction items with
  | nil => rfl
  | cons item rest ih => simp [soundItems, ih]

theorem sound_ofDictionary {α : Type} (write : α → Json) (entries : List (String × α)) :
    (ofDictionary write entries).sound test =
      entries.all fun entry => (write entry.2).sound test := by
  rw [ofDictionary, sound_record, List.all_map]
  rfl

theorem sound_ofOption {α : Type} (write : α → Json) (value : Option α) :
    (ofOption write value).sound test = value.all fun value => (write value).sound test := by
  cases value <;> rfl

end

theorem named_record (members : List (String × Json)) :
    named? (members.map fun (key, value) => (some key, value)) = some members := by
  induction members with
  | nil => rfl
  | cons member rest ih =>
    rw [named?] at ih ⊢
    rw [List.map_cons, List.mapM_cons, ih]
    rfl

variable {names : List String}

theorem fields_of_known {members : List (String × Json)} (distinct : (members.map (·.1)).Nodup)
    (own : members.map (·.1) ⊆ names) : (record members).fields? names = some members := by
  have all : known names members = members := by
    refine List.filter_eq_self.mpr fun member inside => ?_
    simpa using own (List.mem_map_of_mem inside)
  rw [record, fields_obj, named_record, Option.bind_some, all, if_pos distinct]

def present : List (String × Option Json) → List (String × Json)
  | [] => []
  | (key, some value) :: rest => (key, value) :: present rest
  | (_, none) :: rest => present rest

theorem sparse_eq (members : List (String × Option Json)) :
    sparse members = record (present members) := by
  rw [sparse]
  congr
  induction members with
  | nil => rfl
  | cons member rest ih =>
    obtain ⟨key, _ | value⟩ := member
    · exact ih
    · exact congrArg ((key, value) :: ·) ih

theorem keys_present (members : List (String × Option Json)) :
    ((present members).map (·.1)).Sublist (members.map (·.1)) := by
  induction members with
  | nil => exact .slnil
  | cons member rest ih =>
    obtain ⟨key, _ | value⟩ := member
    · exact .cons _ ih
    · exact .cons_cons _ ih

theorem lookup_present {members : List (String × Option Json)}
    (distinct : (members.map (·.1)).Nodup) (name : String) :
    (present members).lookup name = (members.lookup name).join := by
  induction members with
  | nil => rfl
  | cons member rest ih =>
    obtain ⟨fresh, others⟩ := List.nodup_cons.mp distinct
    obtain ⟨key, _ | value⟩ := member
    · rw [present, ih others, lookup_cons_ite]
      split
      · rename_i same
        subst same
        rw [lookup_eq_none fresh]
        rfl
      · rfl
    · rw [present, lookup_cons_ite, lookup_cons_ite, ih others]
      split <;> rfl

theorem fields_sparse {members : List (String × Option Json)}
    (keys : members.map (·.1) = names) (distinct : names.Nodup) :
    ∃ fields, (sparse members).fields? names = some fields ∧
      ∀ name, fields.lookup name = (members.lookup name).join := by
  subst keys
  have part := keys_present members
  rw [sparse_eq]
  exact ⟨_, fields_of_known (distinct.sublist part) part.subset, lookup_present distinct⟩

section

variable {α : Type} {write : α → Json} {read? : Json → Option α}

theorem nullable_of_ne_null {json : Json} (content : json ≠ .null) :
    nullable? read? json = (read? json).map some := by
  cases json with
  | null => exact absurd rfl content
  | _ => rfl

theorem Fields.optional_written {fields : Fields} {name : String} {value : Option α}
    (stated : fields.lookup name = value.map write) (content : ∀ a, write a ≠ .null)
    (read : ∀ a, read? (write a) = some a) : fields.optional name read? = some value := by
  rw [optional, withDefault, stated]
  cases value with
  | none => rfl
  | some a => exact (nullable_of_ne_null (content a)).trans (congrArg (·.map some) (read a))

theorem nullable_ofOption (content : ∀ a, write a ≠ .null) (read : ∀ a, read? (write a) = some a)
    (value : Option α) : nullable? read? (ofOption write value) = some value := by
  cases value with
  | none => rfl
  | some a => exact (nullable_of_ne_null (content a)).trans (congrArg (·.map some) (read a))

theorem list_ofList (read : ∀ a, read? (write a) = some a) (items : List α) :
    list? read? (ofList write items) = some items := by
  rw [ofList, list?]
  induction items with
  | nil => rfl
  | cons item rest ih =>
    rw [List.map_cons, List.mapM_cons, read, ih]
    rfl

theorem lastOfEach_of_distinct {entries : List (String × α)}
    (distinct : (entries.map (·.1)).Nodup) : lastOfEach entries = entries := by
  induction entries with
  | nil => rfl
  | cons entry rest ih =>
    obtain ⟨key, value⟩ := entry
    obtain ⟨fresh, others⟩ := List.nodup_cons.mp distinct
    have once : rest.any (·.1 == key) = false := by
      refine List.any_eq_false.mpr fun entry member => ?_
      have inside : entry.1 ∈ rest.map (·.1) := List.mem_map_of_mem member
      simpa using fun same : entry.1 = key => fresh (same ▸ inside)
    rw [lastOfEach, once, ih others]
    rfl

theorem mapM_written {entry : String × Json → Option (String × α)}
    (read : ∀ key a, entry (key, write a) = some (key, a)) (entries : List (String × α)) :
    (entries.map fun written => (written.1, write written.2)).mapM entry = some entries := by
  induction entries with
  | nil => rfl
  | cons written rest ih =>
    rw [List.map_cons, List.mapM_cons, read, ih]
    rfl

theorem dictionary_ofDictionary (read : ∀ a, read? (write a) = some a)
    {entries : List (String × α)} (distinct : (entries.map (·.1)).Nodup) :
    dictionary? read? (ofDictionary write entries) = some entries := by
  rw [ofDictionary, record, dictionary?, named_record, Option.bind_eq_bind, Option.bind_some]
  refine (congrArg (Option.bind · _) (mapM_written ?_ entries)).trans ?_
  · intro key a
    exact congrArg (Option.map (key, ·)) (read a)
  · exact congrArg some (lastOfEach_of_distinct distinct)

end

end Attestor.Json
