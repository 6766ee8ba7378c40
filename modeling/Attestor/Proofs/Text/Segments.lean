import Attestor.Text.Segments

namespace Attestor.Text

variable {separator : Char} {text first rest : List Char}

theorem cut_append (plain : separator ∉ first) :
    cut separator (first ++ separator :: rest) = (first, some rest) := by
  induction first with
  | nil => simp [cut]
  | cons c first ih =>
    obtain ⟨different, tail⟩ := not_or.mp (mt List.mem_cons.mpr plain)
    simp only [List.cons_append, cut, if_neg (Ne.symm different), ih tail]

theorem cut_plain (plain : separator ∉ text) : cut separator text = (text, none) := by
  induction text with
  | nil => rfl
  | cons c text ih =>
    obtain ⟨different, tail⟩ := not_or.mp (mt List.mem_cons.mpr plain)
    simp only [cut, if_neg (Ne.symm different), ih tail]

theorem cut_cases (separator : Char) (text : List Char) :
    (separator ∉ text ∧ cut separator text = (text, none)) ∨
      ∃ first rest, separator ∉ first ∧ text = first ++ separator :: rest ∧
        cut separator text = (first, some rest) := by
  by_cases member : separator ∈ text
  · obtain ⟨first, rest, split, plain⟩ := List.eq_append_cons_of_mem member
    refine .inr ⟨first, rest, plain, split, ?_⟩
    rw [split, cut_append plain]
  · exact .inl ⟨member, cut_plain member⟩

theorem segments_plain (plain : separator ∉ text) : segments separator text = [text] := by
  induction text with
  | nil => rfl
  | cons c text ih =>
    obtain ⟨different, tail⟩ := not_or.mp (mt List.mem_cons.mpr plain)
    simp only [segments, if_neg (Ne.symm different), ih tail]

theorem segments_append (plain : separator ∉ first) :
    segments separator (first ++ separator :: rest) = first :: segments separator rest := by
  induction first with
  | nil => simp [segments]
  | cons c first ih =>
    obtain ⟨different, tail⟩ := not_or.mp (mt List.mem_cons.mpr plain)
    simp only [List.cons_append, segments, if_neg (Ne.symm different), ih tail]

theorem mem_segments {c : Char} (different : c ≠ separator) :
    c ∈ text ↔ ∃ piece ∈ segments separator text, c ∈ piece := by
  induction text with
  | nil => simp [segments]
  | cons head tail ih =>
    by_cases same : head = separator
    · subst same
      simp only [segments, ↓reduceIte, List.mem_cons, exists_eq_or_imp, ih]
      simp [different]
    · simp only [segments, if_neg same, List.mem_cons, ih]
      cases segments separator tail with
      | nil => simp
      | cons piece pieces => simp [or_assoc]

theorem segments_ne_nil (separator : Char) (text : List Char) : segments separator text ≠ [] := by
  cases text with
  | nil => simp [segments]
  | cons c text =>
    simp only [segments]
    split
    · simp
    · split <;> simp

theorem segments_separator (separator : Char) (text : List Char) :
    segments separator (separator :: text) = [] :: segments separator text := by
  simp only [segments, if_true]

theorem segments_cons {c : Char} (different : c ≠ separator) (text : List Char) :
    ∃ piece pieces, segments separator text = piece :: pieces ∧
      segments separator (c :: text) = (c :: piece) :: pieces := by
  obtain ⟨piece, pieces, split⟩ := List.exists_cons_of_ne_nil (segments_ne_nil separator text)
  exact ⟨piece, pieces, split, by simp only [segments, if_neg different, split]⟩

/-- The segments of one text are the first ones of another if and only if the other text is the same or
goes on with a separator. -/
theorem segments_prefix_iff :
    segments separator first <+: segments separator text ↔
      text = first ∨ first ++ [separator] <+: text := by
  induction first generalizing text with
  | nil =>
    cases text with
    | nil => simp [segments]
    | cons d text =>
      by_cases cut : d = separator
      · subst cut
        simp [segments]
      · obtain ⟨piece, pieces, _, split⟩ := segments_cons cut text
        rw [split]
        simp [segments, Ne.symm cut]
  | cons c first ih =>
    by_cases same : c = separator
    · subst same
      rw [segments_separator]
      cases text with
      | nil => simp [segments, segments_ne_nil]
      | cons d text =>
        by_cases cut : d = c
        · subst cut
          rw [segments_separator]
          simp [List.cons_prefix_cons, ih]
        · obtain ⟨piece, pieces, _, split⟩ := segments_cons cut text
          rw [split]
          simp [cut, Ne.symm cut]
    · obtain ⟨piece, pieces, whole, split⟩ := segments_cons same first
      rw [split]
      cases text with
      | nil => simp [segments]
      | cons d text =>
        by_cases cut : d = separator
        · subst cut
          rw [segments_separator]
          simp [same, Ne.symm same]
        · -- Both texts go on inside their first segments, which differ unless the characters agree.
          obtain ⟨other, others, left, parts⟩ := segments_cons cut text
          have later := @ih text
          rw [whole, left] at later
          rw [parts]
          by_cases equal : d = c
          · subst equal
            simpa [List.cons_prefix_cons] using later
          · simp [List.cons_prefix_cons, equal, Ne.symm equal]

end Attestor.Text
