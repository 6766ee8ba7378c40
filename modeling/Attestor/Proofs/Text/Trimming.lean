import Attestor.Text.Segments

namespace Attestor.Text

variable {trailing : Char} {text kept : List Char}

structure Trimmed (trailing : Char) (text kept : List Char) : Prop where
  whole : ∃ count, text = kept ++ List.replicate count trailing
  bare : kept.getLast? ≠ some trailing

theorem trimEnd_replicate (trailing : Char) (count : Nat) :
    trimEnd trailing (List.replicate count trailing) = [] := by
  induction count with
  | zero => rfl
  | succ count ih => simp [List.replicate_succ, trimEnd, ih]

theorem trimEnd_append_replicate (bare : kept.getLast? ≠ some trailing) (count : Nat) :
    trimEnd trailing (kept ++ List.replicate count trailing) = kept := by
  induction kept with
  | nil => exact trimEnd_replicate trailing count
  | cons c rest ih =>
    cases rest with
    | nil =>
      have different : c ≠ trailing := by simpa using bare
      simp [trimEnd, trimEnd_replicate, different]
    | cons d rest =>
      rw [List.getLast?_cons_cons] at bare
      rw [List.cons_append, trimEnd, ih bare]

theorem trimEnd_trimmed (trailing : Char) (text : List Char) :
    Trimmed trailing text (trimEnd trailing text) := by
  induction text with
  | nil => exact ⟨⟨0, rfl⟩, by simp [trimEnd]⟩
  | cons c rest ih =>
    obtain ⟨⟨count, whole⟩, bare⟩ := ih
    cases left : trimEnd trailing rest with
    | nil =>
      have last : trimEnd trailing (c :: rest) = if c = trailing then [] else [c] := by
        simp only [trimEnd, left]
      rw [left, List.nil_append] at whole
      rw [last, whole]
      split
      · rename_i same
        subst same
        exact ⟨⟨count + 1, rfl⟩, by simp⟩
      · rename_i different
        exact ⟨⟨count, rfl⟩, by simpa using different⟩
    | cons d kept =>
      have more : trimEnd trailing (c :: rest) = c :: d :: kept := by simp only [trimEnd, left]
      rw [left] at whole bare
      rw [more]
      exact ⟨⟨count, by rw [whole]; rfl⟩, by rwa [List.getLast?_cons_cons]⟩

theorem trimmed_iff : Trimmed trailing text kept ↔ kept = trimEnd trailing text := by
  constructor
  · rintro ⟨⟨count, rfl⟩, bare⟩
    exact (trimEnd_append_replicate bare count).symm
  · rintro rfl
    exact trimEnd_trimmed trailing text

theorem trimEnd_append_copies (trailing : Char) (text : List Char) (count : Nat) :
    trimEnd trailing (text ++ List.replicate count trailing) = trimEnd trailing text := by
  obtain ⟨⟨before, whole⟩, bare⟩ := trimEnd_trimmed trailing text
  refine (trimmed_iff.mp ⟨⟨before + count, ?_⟩, bare⟩).symm
  rw [← List.replicate_append_replicate, ← List.append_assoc, ← whole]

theorem trimSlashes_trimmed (url : String) : Trimmed '/' url.toList (trimSlashes url).toList := by
  rw [trimSlashes, String.toList_ofList]
  exact trimEnd_trimmed '/' url.toList

theorem trimSlashes_bare {url : String} (bare : url.toList.getLast? ≠ some '/') :
    trimSlashes url = url := by
  have itself : Trimmed '/' url.toList url.toList := ⟨⟨0, (List.append_nil _).symm⟩, bare⟩
  rw [trimSlashes, ← trimmed_iff.mp itself, String.ofList_toList]

end Attestor.Text
