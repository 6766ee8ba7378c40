import Attestor.Proofs.Associations
import Attestor.Toml.Document

namespace Attestor.Toml

open Associations

mutual

def Distinct : Toml → Prop
  | table _ members => (members.map (·.1)).Nodup ∧ DistinctInside members
  | _ => True

def DistinctInside : List (String × Toml) → Prop
  | [] => True
  | (_, value) :: rest => value.Distinct ∧ DistinctInside rest

end

structure Members.Once (members : Members) : Prop where
  keys : (members.map (·.1)).Nodup
  inside : ∀ entry ∈ members, entry.2.Distinct

theorem distinctInside_iff {members : Members} :
    DistinctInside members ↔ ∀ entry ∈ members, entry.2.Distinct := by
  induction members with
  | nil => simp [DistinctInside]
  | cons first rest ih => rw [DistinctInside, ih, List.forall_mem_cons]

theorem distinct_table_iff {origin : Origin} {members : Members} :
    (table origin members).Distinct ↔ members.Once := by
  rw [Distinct, distinctInside_iff]
  exact ⟨fun ⟨keys, inside⟩ => ⟨keys, inside⟩, fun once => ⟨once.keys, once.inside⟩⟩

theorem keys_put (key : String) (value : Toml) (members : Members) :
    (put key value members).map (·.1) =
      if key ∈ members.map (·.1) then members.map (·.1) else members.map (·.1) ++ [key] := by
  induction members with
  | nil => rfl
  | cons first rest ih =>
    obtain ⟨head, old⟩ := first
    rw [put]
    by_cases here : head = key
    · simp [here]
    · rw [if_neg here, List.map_cons, ih]
      by_cases later : key ∈ rest.map (·.1)
      · simp [later]
      · simp [later, Ne.symm here]

theorem mem_put {key : String} {value : Toml} {members : Members} {entry : String × Toml}
    (member : entry ∈ put key value members) : entry = (key, value) ∨ entry ∈ members := by
  induction members with
  | nil => exact .inl (List.mem_singleton.mp member)
  | cons first rest ih =>
    obtain ⟨head, old⟩ := first
    rw [put] at member
    split at member
    · exact (List.mem_cons.mp member).imp_right (List.mem_cons_of_mem _)
    · rcases List.mem_cons.mp member with rfl | behind
      · exact .inr (List.mem_cons_self ..)
      · exact (ih behind).imp_right (List.mem_cons_of_mem _)

namespace Members.Once

variable {members inner later : Members} {key : String} {value : Toml} {origin : Origin}

theorem nil : Members.Once [] :=
  ⟨List.nodup_nil, by simp⟩

theorem lookup (once : members.Once) (found : members.lookup key = some value) : value.Distinct :=
  once.inside _ (mem_of_lookup found)

theorem table (once : members.Once) (found : members.lookup key = some (.table origin inner)) :
    inner.Once :=
  distinct_table_iff.mp (once.lookup found)

theorem append (once : members.Once) (fresh : members.lookup key = none) (distinct : value.Distinct) :
    Members.Once (members ++ [(key, value)]) := by
  constructor
  · exact (nodup_keys_concat fresh value).mpr once.keys
  · intro entry member
    rcases List.mem_append.mp member with old | new
    · exact once.inside entry old
    · rw [List.mem_singleton.mp new]
      exact distinct

theorem put (once : members.Once) (distinct : value.Distinct) : Members.Once (put key value members) := by
  constructor
  · rw [keys_put]
    split
    · exact once.keys
    · rename_i fresh
      exact (nodup_concat_iff fresh).mpr once.keys
  · intro entry member
    rcases mem_put member with rfl | old
    · exact distinct
    · exact once.inside entry old

theorem put_table (once : members.Once) (grown : inner.Once) (origin : Origin) :
    Members.Once (Toml.put key (.table origin inner) members) :=
  once.put (distinct_table_iff.mpr grown)

theorem define {path : List String} (once : members.Once) (distinct : value.Distinct)
    (made : define path value members = some later) : later.Once := by
  fun_induction Toml.define path value members generalizing later with
  | case1 | case2 | case6 | case8 | case10 => cases made
  | case3 key value members fresh =>
    cases made
    exact once.append (Option.not_isSome_iff_eq_none.mp fresh) distinct
  | case4 value members key path _ absent ih =>
    obtain ⟨inner, begun, rfl⟩ := Option.map_eq_some_iff.mp made
    exact once.put_table (ih .nil distinct begun) _
  | case5 value members key path _ inner found ih =>
    obtain ⟨grown, begun, rfl⟩ := Option.map_eq_some_iff.mp made
    exact once.put_table (ih (once.table found) distinct begun) _
  | case7 value members key path _ inner found _ ih =>
    obtain ⟨grown, begun, rfl⟩ := Option.map_eq_some_iff.mp made
    exact once.put_table (ih (once.table found) distinct begun) _
  | case9 value members key path _ earlier last found _ ih =>
    obtain ⟨grown, begun, rfl⟩ := Option.map_eq_some_iff.mp made
    exact once.put trivial

theorem within {change : Members → Option Members} {path : List String}
    (keeps : ∀ members later : Members, members.Once → change members = some later → later.Once)
    (once : members.Once) (made : within change path members = some later) : later.Once := by
  fun_induction Toml.within change path members generalizing later with
  | case1 members => exact keeps members later once made
  | case3 | case6 => cases made
  | case2 key path members absent ih =>
    obtain ⟨inner, begun, rfl⟩ := Option.map_eq_some_iff.mp made
    exact once.put_table (ih .nil begun) _
  | case4 key path members origin inner _ found ih =>
    obtain ⟨grown, begun, rfl⟩ := Option.map_eq_some_iff.mp made
    exact once.put_table (ih (once.table found) begun) _
  | case5 key path members earlier last found ih =>
    obtain ⟨grown, begun, rfl⟩ := Option.map_eq_some_iff.mp made
    exact once.put trivial

theorem beginTable (once : members.Once) (made : beginTable key members = some later) :
    later.Once := by
  unfold Toml.beginTable at made
  split at made
  · cases made
    exact once.put_table .nil _
  · rename_i inner found
    cases made
    exact once.put_table (once.table found) _
  · cases made

theorem beginItem (once : members.Once) (made : beginItem key members = some later) : later.Once := by
  unfold Toml.beginItem at made
  split at made
  · cases made
    exact once.put trivial
  · cases made
    exact once.put trivial
  · cases made

theorem atLast {change : String → Members → Option Members} {path : List String}
    (keeps : ∀ key (members later : Members), members.Once → change key members = some later →
      later.Once)
    (once : members.Once) (made : atLast change path members = some later) : later.Once := by
  obtain ⟨key, _, made⟩ := Option.bind_eq_some_iff.mp made
  exact once.within (keeps key) made

end Members.Once

section

variable {value? : List Char → Option (Toml × List Char)} {input rest : List Char} {value : Toml}

theorem simple_distinct (read : simple? input = some (value, rest)) : value.Distinct := by
  unfold simple? at read
  split at read
  · cases read
    trivial
  · cases read
    trivial
  · split at read
    · cases read
      trivial
    · unfold number at read
      split at read
      · cases read
        trivial
      · split at read
        · cases read
          trivial
        · obtain ⟨_, _, made⟩ := Option.map_eq_some_iff.mp read
          cases made
          trivial

def ReadsDistinct (value? : List Char → Option (Toml × List Char)) : Prop :=
  ∀ input value rest, value? input = some (value, rest) → value.Distinct

theorem pair_distinct {path : List String} (reads : ReadsDistinct value?)
    (read : pair? value? input = some ((path, value), rest)) : value.Distinct := by
  simp only [pair?, Option.bind_eq_bind, Option.bind_eq_some_iff] at read
  obtain ⟨⟨path, after⟩, _, read⟩ := read
  split at read
  · obtain ⟨⟨found, behind⟩, first, made⟩ := Option.bind_eq_some_iff.mp read
    cases made
    exact reads _ _ _ first
  · cases read

theorem pairs_distinct {steps : Nat} {pairs : List (List String × Toml)} (reads : ReadsDistinct value?)
    (read : pairs? value? steps input = some (pairs, rest)) : ∀ pair ∈ pairs, pair.2.Distinct := by
  induction steps generalizing input pairs with
  | zero => cases read
  | succ steps ih =>
    simp only [pairs?, Option.bind_eq_bind, Option.bind_eq_some_iff] at read
    obtain ⟨⟨⟨path, value⟩, after⟩, first, read⟩ := read
    have distinct := pair_distinct reads first
    split at read
    · obtain ⟨⟨others, behind⟩, later, made⟩ := Option.bind_eq_some_iff.mp read
      cases made
      exact List.forall_mem_cons.mpr ⟨distinct, ih later⟩
    · cases read
      exact List.forall_mem_singleton.mpr distinct
    · cases read

theorem foldlM_define {pairs : List (List String × Toml)} {members later : Members}
    (once : members.Once) (distinct : ∀ pair ∈ pairs, pair.2.Distinct)
    (made : pairs.foldlM (fun members (path, value) => define path value members) members =
      some later) : later.Once := by
  induction pairs generalizing members with
  | nil =>
    cases made
    exact once
  | cons pair rest ih =>
    obtain ⟨first, others⟩ := List.forall_mem_cons.mp distinct
    rw [List.foldlM_cons] at made
    obtain ⟨middle, begun, made⟩ := Option.bind_eq_some_iff.mp made
    exact ih (once.define first begun) others made

theorem inlineTable_distinct (reads : ReadsDistinct value?)
    (read : inlineTable? value? input = some (value, rest)) : value.Distinct := by
  unfold inlineTable? at read
  split at read
  · cases read
    exact distinct_table_iff.mpr .nil
  · obtain ⟨⟨pairs, after⟩, parts, read⟩ := Option.bind_eq_some_iff.mp read
    obtain ⟨members, made, read⟩ := Option.bind_eq_some_iff.mp read
    cases read
    exact distinct_table_iff.mpr (foldlM_define .nil (pairs_distinct reads parts) made)

theorem value_distinct (depth : Nat) : ReadsDistinct (Toml.value? depth) := by
  induction depth with
  | zero =>
    intro input value rest read
    exact simple_distinct read
  | succ depth ih =>
    intro input value rest read
    unfold Toml.value? at read
    split at read
    · obtain ⟨_, _, made⟩ := Option.map_eq_some_iff.mp read
      cases made
      trivial
    · rename_i other _ same
      cases same
      exact inlineTable_distinct ih read
    · exact simple_distinct read

theorem line_once {draft later : Draft} (once : draft.members.Once)
    (read : draft.line? input = some (later, rest)) : later.members.Once := by
  unfold Draft.line? at read
  split at read
  · obtain ⟨⟨path, after⟩, _, read⟩ := Option.bind_eq_some_iff.mp read
    obtain ⟨members, begun, made⟩ := Option.bind_eq_some_iff.mp read
    cases made
    exact once.atLast (fun _ _ _ before grown => before.beginItem grown) begun
  · obtain ⟨⟨path, after⟩, _, read⟩ := Option.bind_eq_some_iff.mp read
    obtain ⟨members, begun, made⟩ := Option.bind_eq_some_iff.mp read
    cases made
    exact once.atLast (fun _ _ _ before grown => before.beginTable grown) begun
  · obtain ⟨⟨⟨path, value⟩, after⟩, pair, read⟩ := Option.bind_eq_some_iff.mp read
    obtain ⟨members, grown, read⟩ := Option.bind_eq_some_iff.mp read
    obtain ⟨_, _, made⟩ := Option.bind_eq_some_iff.mp read
    cases made
    have distinct := pair_distinct (value_distinct depthLimit) pair
    exact once.within (fun _ _ before added => before.define distinct added) grown

theorem lines_once {steps : Nat} {draft : Draft} {members : Members} (once : draft.members.Once)
    (read : Draft.lines? steps draft input = some members) : members.Once := by
  induction steps generalizing draft input with
  | zero => cases read
  | succ steps ih =>
    unfold Draft.lines? at read
    split at read
    · cases read
      exact once
    · split at read
      · exact ih once read
      · obtain ⟨⟨later, behind⟩, line, read⟩ := Option.bind_eq_some_iff.mp read
        exact ih (line_once once line) read

theorem document_once {members : Members} (read : document? input = some members) : members.Once :=
  lines_once .nil read

end

end Attestor.Toml
