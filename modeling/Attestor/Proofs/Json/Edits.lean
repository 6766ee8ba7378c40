import Attestor.Proofs.Json.Written

namespace Attestor.Json

open Associations

/-- What the documents of a type are made of. A record names its fields, each with its shape and the
document of the default for which it may be left out. -/
inductive Shape where
  | value
  | list (item : Shape)
  | dictionary (entry : Shape)
  | nullable (content : Shape)
  | record (fields : List (String × Shape × Option Json))

mutual

inductive Edit : Shape → Json → Json → Prop where
  | reorder {fields : List (String × Shape × Option Json)} {members others : List (Text × Json)}
      (same : others.Perm members) : Edit (.record fields) (.obj members) (.obj others)
  | add {fields : List (String × Shape × Option Json)} {before after : List (Text × Json)}
      {key : String} {value : Json} (unknown : key ∉ fields.map (·.1)) :
      Edit (.record fields) (.obj (before ++ after)) (.obj (before ++ (some key, value) :: after))
  | leaveOut {fields : List (String × Shape × Option Json)} {before after : List (Text × Json)}
      {name : String} {shape : Shape} {default stated : Json}
      (field : fields.lookup name = some (shape, some default))
      (unchanged : Edits shape default stated) :
      Edit (.record fields) (.obj (before ++ (some name, stated) :: after)) (.obj (before ++ after))
  | field {fields : List (String × Shape × Option Json)} {before after : List (Text × Json)}
      {name : String} {shape : Shape} {default : Option Json} {old new : Json}
      (field : fields.lookup name = some (shape, default)) (inside : Edit shape old new) :
      Edit (.record fields) (.obj (before ++ (some name, old) :: after))
        (.obj (before ++ (some name, new) :: after))
  | item {shape : Shape} {before after : List Json} {old new : Json}
      (inside : Edit shape old new) :
      Edit (.list shape) (.arr (before ++ old :: after)) (.arr (before ++ new :: after))
  | entry {shape : Shape} {before after : List (Text × Json)} {key : Text} {old new : Json}
      (inside : Edit shape old new) :
      Edit (.dictionary shape) (.obj (before ++ (key, old) :: after))
        (.obj (before ++ (key, new) :: after))
  | content {shape : Shape} {old new : Json} (inside : Edit shape old new) :
      Edit (.nullable shape) old new

inductive Edits : Shape → Json → Json → Prop where
  | none {shape : Shape} {document : Json} : Edits shape document document
  | more {shape : Shape} {first middle last : Json} (earlier : Edits shape first middle)
      (change : Edit shape middle last) : Edits shape first last

end

theorem Edits.under {inner outer : Shape} (place : Json → Json) {old new : Json}
    (edits : Edits inner old new)
    (lift : ∀ before after, Edit inner before after → Edit outer (place before) (place after)) :
    Edits outer (place old) (place new) := by
  match edits with
  | .none => exact .none
  | .more earlier change => exact .more (earlier.under place lift) (lift _ _ change)

theorem Edit.ne_null {shape : Shape} {old new : Json} (edit : Edit shape old new) :
    old ≠ .null ∧ new ≠ .null := by
  match edit with
  | .content inside => exact inside.ne_null
  | .reorder _ | .add _ | .leaveOut _ _ | .field _ _ | .item _ | .entry _ =>
    exact ⟨Json.noConfusion, Json.noConfusion⟩

/-- Whatever is read before is read afterwards. -/
def Kept {α : Type} (before after : Option α) : Prop :=
  ∀ a, before = some a → after = some a

namespace Kept

variable {α β : Type} {before after : Option α}

theorem refl (same : Option α) : Kept same same :=
  fun _ read => read

theorem trans {last : Option α} (first : Kept before after) (second : Kept after last) :
    Kept before last :=
  fun a read => second a (first a read)

theorem bind {next later : α → Option β} (first : Kept before after)
    (second : ∀ a, Kept (next a) (later a)) : Kept (before.bind next) (after.bind later) := by
  intro b read
  obtain ⟨a, found, made⟩ := Option.bind_eq_some_iff.mp read
  exact Option.bind_eq_some_iff.mpr ⟨a, first a found, second a b made⟩

theorem map (f : α → β) (first : Kept before after) : Kept (before.map f) (after.map f) := by
  intro b read
  obtain ⟨a, found, made⟩ := Option.map_eq_some_iff.mp read
  exact Option.map_eq_some_iff.mpr ⟨a, first a found, made⟩

end Kept

def Steady {α : Type} (shape : Shape) (read? : Json → Option α) : Prop :=
  ∀ old new, Edit shape old new → Kept (read? old) (read? new)

variable {α : Type} {shape : Shape} {read? : Json → Option α}

theorem Steady.edits (steady : Steady shape read?) {old new : Json} (edits : Edits shape old new) :
    Kept (read? old) (read? new) := by
  match edits with
  | .none => exact .refl _
  | .more earlier change => exact (steady.edits earlier).trans (steady _ _ change)

theorem Steady.value : Steady .value read? := by
  intro old new edit
  cases edit

theorem mapM_kept {β : Type} {f : β → Option α} {before after : List β} {old new : β}
    (kept : Kept (f old) (f new)) :
    Kept ((before ++ old :: after).mapM f) ((before ++ new :: after).mapM f) := by
  rw [List.mapM_append, List.mapM_append, List.mapM_cons, List.mapM_cons]
  refine .bind (.refl _) fun _ => ?_
  exact .bind (.bind kept fun _ => .refl _) fun _ => .refl _

theorem Steady.list (steady : Steady shape read?) : Steady (.list shape) (list? read?) := by
  intro old new edit
  cases edit with
  | item inside => exact mapM_kept (steady _ _ inside)

theorem Steady.nullable (steady : Steady shape read?) :
    Steady (.nullable shape) (nullable? read?) := by
  intro old new edit
  cases edit with
  | content inside =>
    obtain ⟨content, content'⟩ := inside.ne_null
    rw [nullable_of_ne_null content, nullable_of_ne_null content']
    exact (steady _ _ inside).map some

theorem named_iff {members : List (Text × Json)} {named : List (String × Json)} :
    named? members = some named ↔ named.map (fun (key, value) => (some key, value)) = members := by
  constructor
  · intro spelled
    induction members generalizing named with
    | nil =>
      cases spelled
      rfl
    | cons member rest ih =>
      obtain ⟨key, value⟩ := member
      simp only [named?, List.mapM_cons, Option.bind_eq_bind, Option.bind_eq_some_iff,
        Option.map_eq_some_iff] at spelled
      obtain ⟨_, ⟨name, rfl, rfl⟩, others, later, made⟩ := spelled
      cases made
      rw [List.map_cons, ih later]
  · rintro rfl
    exact named_record named

theorem named_append_iff {before after : List (Text × Json)} {named : List (String × Json)} :
    named? (before ++ after) = some named ↔ ∃ first second, named = first ++ second ∧
      named? before = some first ∧ named? after = some second := by
  simp only [named_iff, List.map_eq_append_iff]

theorem named_cons_iff {key : Text} {value : Json} {rest : List (Text × Json)}
    {named : List (String × Json)} :
    named? ((key, value) :: rest) = some named ↔ ∃ name others, named = (name, value) :: others ∧
      key = some name ∧ named? rest = some others := by
  simp only [named_iff, List.map_eq_cons_iff]
  constructor
  · intro given
    obtain ⟨⟨name, _⟩, others, rfl, made, rest⟩ := given
    cases made
    exact ⟨name, others, rfl, rfl, rest⟩
  · intro given
    obtain ⟨name, others, rfl, rfl, rest⟩ := given
    exact ⟨(name, value), others, rfl, rfl, rest⟩

theorem named_perm {members others : List (Text × Json)} {named : List (String × Json)}
    (same : others.Perm members) (spelled : named? members = some named) :
    ∃ moved, named? others = some moved ∧ moved.Perm named := by
  induction same generalizing named with
  | nil => exact ⟨named, spelled, .refl _⟩
  | cons member _ ih =>
    obtain ⟨name, rest, rfl, key, later⟩ := named_cons_iff.mp spelled
    obtain ⟨moved, spelled', same⟩ := ih later
    exact ⟨_, named_cons_iff.mpr ⟨name, moved, rfl, key, spelled'⟩, same.cons _⟩
  | swap first second rest =>
    obtain ⟨name, _, rfl, key, later⟩ := named_cons_iff.mp spelled
    obtain ⟨name', last, rfl, key', later⟩ := named_cons_iff.mp later
    refine ⟨_, named_cons_iff.mpr ⟨name', _, rfl, key', ?_⟩, .swap _ _ _⟩
    exact named_cons_iff.mpr ⟨name, last, rfl, key, later⟩
  | trans _ _ first second =>
    obtain ⟨middle, spelled, later⟩ := second spelled
    obtain ⟨moved, spelled, earlier⟩ := first spelled
    exact ⟨moved, spelled, earlier.trans later⟩

theorem named_between {before after : List (Text × Json)} {key : Text} {old : Json}
    {named : List (String × Json)} (spelled : named? (before ++ (key, old) :: after) = some named) :
    ∃ first name second, key = some name ∧ named = first ++ (name, old) :: second ∧
      named? (before ++ after) = some (first ++ second) ∧
      ∀ new, named? (before ++ (key, new) :: after) = some (first ++ (name, new) :: second) := by
  obtain ⟨first, _, rfl, opened, rest⟩ := named_append_iff.mp spelled
  obtain ⟨name, second, rfl, rfl, closed⟩ := named_cons_iff.mp rest
  refine ⟨first, name, second, rfl, rfl, named_append_iff.mpr ⟨_, _, rfl, opened, closed⟩, ?_⟩
  intro new
  exact named_append_iff.mpr ⟨_, _, rfl, opened, named_cons_iff.mpr ⟨_, _, rfl, rfl, closed⟩⟩

theorem Steady.dictionary (steady : Steady shape read?) :
    Steady (.dictionary shape) (dictionary? read?) := by
  intro old new edit
  cases edit with
  | @entry _ before after key old new inside =>
    intro a read
    obtain ⟨named, spelled, read⟩ := Option.bind_eq_some_iff.mp read
    obtain ⟨first, name, second, rfl, rfl, _, others⟩ := named_between spelled
    refine Option.bind_eq_some_iff.mpr ⟨_, others new, ?_⟩
    let pair? : String × Json → Option (String × α) := fun (key, value) =>
      (read? value).map (key, ·)
    have kept : Kept (pair? (name, old)) (pair? (name, new)) := (steady _ _ inside).map _
    exact (mapM_kept kept).bind (fun _ => .refl _) a read

inductive Slot (shape : Shape) (default : Option Json) : Option Json → Option Json → Prop where
  | same {stated : Option Json} : Slot shape default stated stated
  | changed {old new : Json} (inside : Edit shape old new) :
      Slot shape default (some old) (some new)
  | leftOut {document stated : Json} (known : default = some document)
      (unchanged : Edits shape document stated) : Slot shape default (some stated) none

def Slots (spec : List (String × Shape × Option Json)) (before after : Fields) : Prop :=
  ∀ name shape default, spec.lookup name = some (shape, default) →
    Slot shape default (before.lookup name) (after.lookup name)

namespace Slots

variable {spec : List (String × Shape × Option Json)} {before after : Fields} {name : String}

theorem required (slots : Slots spec before after)
    (field : spec.lookup name = some (shape, none)) (steady : Steady shape read?) :
    Kept (before.required name read?) (after.required name read?) := by
  have slot := slots name shape none field
  rw [Fields.required, Fields.required]
  generalize before.lookup name = old at slot ⊢
  generalize after.lookup name = new at slot ⊢
  cases slot with
  | same => exact .refl _
  | changed inside => exact steady _ _ inside
  | leftOut known => cases known

theorem withDefault {default : Json} {absent : α} (slots : Slots spec before after)
    (field : spec.lookup name = some (shape, some default)) (steady : Steady shape read?)
    (read : read? default = some absent) :
    Kept (before.withDefault name read? absent) (after.withDefault name read? absent) := by
  have slot := slots name shape (some default) field
  rw [Fields.withDefault, Fields.withDefault]
  generalize before.lookup name = old at slot ⊢
  generalize after.lookup name = new at slot ⊢
  cases slot with
  | same => exact .refl _
  | changed inside => exact steady _ _ inside
  | leftOut known unchanged =>
    cases known
    have stated := steady.edits unchanged absent read
    intro a given
    rw [← given]
    exact stated.symm

theorem optional (slots : Slots spec before after)
    (field : spec.lookup name = some (.nullable shape, some .null)) (steady : Steady shape read?) :
    Kept (before.optional name read?) (after.optional name read?) :=
  slots.withDefault field steady.nullable rfl

end Slots

section

variable {spec : List (String × Shape × Option Json)} {before after : Fields} {name : String}
  {default : Option Json} {old : Json}

theorem fields_obj_iff {names : List String} {members : List (Text × Json)} {fields : Fields} :
    (Json.obj members).fields? names = some fields ↔ ∃ named, named? members = some named ∧
      ((known names named).map (·.1)).Nodup ∧ known names named = fields := by
  rw [fields_obj, Option.bind_eq_some_iff]
  simp only [Option.ite_none_right_eq_some, Option.some.injEq]

/-- The fields around one of them are read with any value for it, and without it. -/
theorem fields_between {names : List String} {first second : List (Text × Json)}
    (field : name ∈ names)
    (read : (Json.obj (first ++ (some name, old) :: second)).fields? names = some before) :
    ∃ earlier later, before = earlier ++ (name, old) :: later ∧
      ((earlier ++ (name, old) :: later).map (·.1)).Nodup ∧
      (Json.obj (first ++ second)).fields? names = some (earlier ++ later) ∧
      ∀ new, (Json.obj (first ++ (some name, new) :: second)).fields? names =
        some (earlier ++ (name, new) :: later) := by
  obtain ⟨_, spelled, distinct, rfl⟩ := fields_obj_iff.mp read
  obtain ⟨front, _, back, key, rfl, without, changed⟩ := named_between spelled
  cases key
  have split := known_between field front back
  have keys (new : Json) : (known names front ++ (name, new) :: known names back).map (·.1) =
      (known names front ++ (name, old) :: known names back).map (·.1) := by simp
  rw [split] at distinct
  refine ⟨_, _, split old, distinct, ?_, fun new => ?_⟩
  · have shorter : (known names front ++ known names back).Sublist
        (known names front ++ (name, old) :: known names back) :=
      (List.Sublist.refl _).append (List.sublist_cons_self _ _)
    have whole : known names (front ++ back) = known names front ++ known names back :=
      List.filter_append ..
    refine fields_obj_iff.mpr ⟨_, without, ?_, whole⟩
    rw [whole]
    exact distinct.sublist (shorter.map _)
  · refine fields_obj_iff.mpr ⟨_, changed new, ?_, split new⟩
    rw [split, keys]
    exact distinct

theorem mem_of_field {named : Shape × Option Json} (field : spec.lookup name = some named) :
    name ∈ spec.map (·.1) :=
  List.mem_map_of_mem (mem_of_lookup field)

theorem Slots.of_one (field : spec.lookup name = some (shape, default))
    (slot : Slot shape default (before.lookup name) (after.lookup name))
    (others : ∀ other, other ≠ name → after.lookup other = before.lookup other) :
    Slots spec before after := by
  intro other shape' default' found
  by_cases here : other = name
  · subst here
    cases field.symm.trans found
    exact slot
  · rw [others other here]
    exact .same

theorem fields_edit {new : Json} (edit : Edit (.record spec) old new)
    (read : old.fields? (spec.map (·.1)) = some before) :
    ∃ after, new.fields? (spec.map (·.1)) = some after ∧ Slots spec before after := by
  cases edit with
  | reorder same =>
    obtain ⟨named, spelled, distinct, rfl⟩ := fields_obj_iff.mp read
    obtain ⟨moved, spelled', same⟩ := named_perm same spelled
    have fields : (known (spec.map (·.1)) moved).Perm (known (spec.map (·.1)) named) :=
      same.filter _
    refine ⟨_, fields_obj_iff.mpr ⟨moved, spelled', (fields.map _).nodup_iff.mpr distinct, rfl⟩, ?_⟩
    intro name _ _ _
    rw [lookup_perm distinct fields]
    exact .same
  | @add _ first second key value unknown =>
    obtain ⟨_, spelled, distinct, rfl⟩ := fields_obj_iff.mp read
    obtain ⟨front, back, rfl, opened, closed⟩ := named_append_iff.mp spelled
    have ignored : known (spec.map (·.1)) (front ++ (key, value) :: back) =
        known (spec.map (·.1)) (front ++ back) := by
      simp only [known, List.filter_append]
      rw [List.filter_cons_of_neg (by simpa using unknown)]
    have spelled' := named_append_iff.mpr
      ⟨front, (key, value) :: back, rfl, opened, named_cons_iff.mpr ⟨_, _, rfl, rfl, closed⟩⟩
    refine ⟨_, fields_obj_iff.mpr ⟨_, spelled', ?_, ignored⟩, fun _ _ _ _ => .same⟩
    rw [ignored]
    exact distinct
  | @leaveOut _ first second name shape default stated field unchanged =>
    obtain ⟨earlier, later, rfl, distinct, without, _⟩ := fields_between (mem_of_field field) read
    have found := lookup_between distinct
    have absent : (earlier ++ later).lookup name = none := by
      have once := distinct.perm (List.perm_middle.map _)
      exact lookup_eq_none (List.nodup_cons.mp once).1
    refine ⟨_, without, .of_one field ?_ fun other different => ?_⟩
    · rw [found, if_pos rfl, absent]
      exact .leftOut rfl unchanged
    · rw [found, if_neg different]
  | @field _ first second name shape default old new field inside =>
    obtain ⟨earlier, later, rfl, distinct, _, changed⟩ := fields_between (mem_of_field field) read
    have distinct' : ((earlier ++ (name, new) :: later).map (·.1)).Nodup := by
      simpa using distinct
    have found := lookup_between distinct
    have found' := lookup_between distinct'
    refine ⟨_, changed new, .of_one field ?_ fun other different => ?_⟩
    · rw [found, found', if_pos rfl, if_pos rfl]
      exact .changed inside
    · rw [found, found', if_neg different, if_neg different]

theorem Steady.record {build : Fields → Option α}
    (kept : ∀ before after, Slots spec before after → Kept (build before) (build after)) :
    Steady (.record spec) fun json => (json.fields? (spec.map (·.1))).bind build := by
  intro old new edit a read
  obtain ⟨before, opened, read⟩ := Option.bind_eq_some_iff.mp read
  obtain ⟨after, opened', slots⟩ := fields_edit edit opened
  exact Option.bind_eq_some_iff.mpr ⟨after, opened', kept before after slots a read⟩

end

/-- A value is read back from what is written for it, on one line or with an item to a line, and
from every text for that document with any number of changes. -/
structure Restored (shape : Shape) (write : α → Json) (read? : Json → Option α) (a : α) : Prop where
  compact : (ofString? (write a).compact).bind read? = some a
  pretty : (ofString? (write a).pretty).bind read? = some a
  edited : ∀ bytes document, ofBytes? bytes = some document → Edits shape (write a) document →
    (ofBytes? bytes).bind read? = some a

theorem Steady.restored {write : α → Json} {a : α} (steady : Steady shape read?)
    (plain : (write a).sound (fun _ => false) = true) (read : read? (write a) = some a) :
    Restored shape write read? a where
  compact := by rw [ofString_compact plain, Option.bind_some, read]
  pretty := by rw [ofString_pretty plain, Option.bind_some, read]
  edited := by
    intro bytes document spelled edits
    rw [spelled, Option.bind_some]
    exact steady.edits edits a read

end Attestor.Json
