namespace Attestor.Associations

variable {α β : Type} [BEq α] [LawfulBEq α]

theorem lookup_cons_ite [DecidableEq α] (key other : α) (value : β) (rest : List (α × β)) :
    ((other, value) :: rest).lookup key = if key = other then some value else rest.lookup key := by
  rw [List.lookup_cons]
  by_cases same : key = other
  · subst same
    simp
  · rw [beq_eq_false_iff_ne.mpr same, if_neg same]

theorem mem_of_lookup {key : α} {value : β} {entries : List (α × β)}
    (found : entries.lookup key = some value) : (key, value) ∈ entries := by
  obtain ⟨before, after, rfl, _⟩ := List.lookup_eq_some_iff.mp found
  simp

theorem lookup_of_mem {key : α} {value : β} {entries : List (α × β)}
    (distinct : (entries.map (·.1)).Nodup) (member : (key, value) ∈ entries) :
    entries.lookup key = some value := by
  obtain ⟨before, after, rfl⟩ := List.append_of_mem member
  refine List.lookup_eq_some_iff.mpr ⟨before, after, rfl, ?_⟩
  intro entry earlier
  rw [List.map_append, List.nodup_append] at distinct
  have different := distinct.2.2 entry.1 (List.mem_map_of_mem earlier) key (by simp)
  simpa using Ne.symm different

theorem lookup_perm {entries others : List (α × β)} (distinct : (entries.map (·.1)).Nodup)
    (perm : others.Perm entries) (key : α) : others.lookup key = entries.lookup key := by
  have distinct' : (others.map (·.1)).Nodup := (perm.map _).nodup_iff.mpr distinct
  refine Option.ext fun value => ?_
  constructor
  · intro found
    exact lookup_of_mem distinct (perm.mem_iff.mp (mem_of_lookup found))
  · intro found
    exact lookup_of_mem distinct' (perm.mem_iff.mpr (mem_of_lookup found))

theorem lookup_eq_none {key : α} {entries : List (α × β)} (fresh : key ∉ entries.map (·.1)) :
    entries.lookup key = none := by
  refine List.lookup_eq_none_iff.mpr fun entry member => ?_
  have inside : entry.1 ∈ entries.map (·.1) := List.mem_map_of_mem member
  simpa using fun same : key = entry.1 => fresh (same ▸ inside)

theorem exists_lookup_iff {key : α} {entries : List (α × β)} :
    (∃ value, entries.lookup key = some value) ↔ key ∈ entries.map (·.1) := by
  rw [← Option.isSome_iff_exists, List.lookup_isSome_iff, List.mem_map]
  simp only [beq_iff_eq, eq_comm (b := key)]

theorem lookup_between [DecidableEq α] {key : α} {value : β} {before after : List (α × β)}
    (distinct : ((before ++ (key, value) :: after).map (·.1)).Nodup) (other : α) :
    (before ++ (key, value) :: after).lookup other =
      if other = key then some value else (before ++ after).lookup other := by
  have moved : ((key, value) :: (before ++ after)).Perm (before ++ (key, value) :: after) :=
    List.perm_middle.symm
  rw [← lookup_perm distinct moved, lookup_cons_ite]

theorem lookup_filter_key [DecidableEq α] {keeps : α → Bool} {key : α} (kept : keeps key = true)
    (entries : List (α × β)) :
    (entries.filter fun entry => keeps entry.1).lookup key = entries.lookup key := by
  induction entries with
  | nil => rfl
  | cons entry rest ih =>
    obtain ⟨other, value⟩ := entry
    by_cases stays : keeps other = true
    · rw [List.filter_cons_of_pos (by exact stays), lookup_cons_ite, lookup_cons_ite, ih]
    · rw [List.filter_cons_of_neg (by exact stays), ih, lookup_cons_ite, if_neg]
      rintro rfl
      exact stays kept

theorem nodup_concat_iff {γ : Type} {items : List γ} {item : γ} (fresh : item ∉ items) :
    (items ++ [item]).Nodup ↔ items.Nodup :=
  (List.perm_append_singleton item items).nodup_iff.trans (by simp [fresh])

theorem nodup_keys_concat {key : α} {entries : List (α × β)} (fresh : entries.lookup key = none)
    (value : β) :
    ((entries ++ [(key, value)]).map (·.1)).Nodup ↔ (entries.map (·.1)).Nodup := by
  have absent : key ∉ entries.map (·.1) := by
    intro member
    obtain ⟨entry, inside, same⟩ := List.mem_map.mp member
    simpa [same] using List.lookup_eq_none_iff.mp fresh entry inside
  rw [List.map_append]
  exact nodup_concat_iff absent

theorem eq_of_lookup {entries others : List (α × β)} (keys : entries.map (·.1) = others.map (·.1))
    (distinct : (entries.map (·.1)).Nodup)
    (same : ∀ key, entries.lookup key = others.lookup key) : entries = others := by
  have whole {list : List (α × β)} (distinct : (list.map (·.1)).Nodup) :
      list.map (fun entry => (entry.1, some entry.2)) =
        (list.map (·.1)).map fun key => (key, list.lookup key) := by
    rw [List.map_map]
    refine List.map_congr_left ?_
    intro entry member
    simp only [Function.comp_apply, lookup_of_mem distinct member]
  have paired := whole distinct
  rw [keys] at distinct paired
  simp only [same, ← whole distinct] at paired
  refine (List.map_inj_right ?_).mp paired
  intro first second equal
  cases first
  cases second
  cases equal
  rfl

end Attestor.Associations
