namespace Attestor.Results

variable {ε δ α β : Type}

theorem bind_ok_iff {first : Except ε α} {next : α → Except ε β} {b : β} :
    first >>= next = .ok b ↔ ∃ a, first = .ok a ∧ next a = .ok b := by
  cases first with
  | error e =>
    constructor
    · intro h
      cases h
    · intro given
      obtain ⟨a, h, _⟩ := given
      cases h
  | ok a =>
    constructor
    · intro h
      exact ⟨a, rfl, h⟩
    · intro given
      obtain ⟨other, same, h⟩ := given
      cases same
      exact h

theorem bind_error_iff {first : Except ε α} {next : α → Except ε β} {e : ε} :
    first >>= next = .error e ↔ first = .error e ∨ ∃ a, first = .ok a ∧ next a = .error e := by
  cases first with
  | error other =>
    constructor
    · intro h
      cases h
      exact .inl rfl
    · intro given
      obtain h | ⟨a, h, _⟩ := given
      · cases h
        rfl
      · cases h
  | ok a =>
    constructor
    · intro h
      exact .inr ⟨a, rfl, h⟩
    · intro given
      obtain h | ⟨other, same, h⟩ := given
      · cases h
      · cases same
        exact h

theorem mapError_ok_iff {result : Except ε α} {f : ε → δ} {a : α} :
    result.mapError f = .ok a ↔ result = .ok a := by
  cases result with
  | error e =>
    constructor
    · intro h
      cases h
    · intro h
      cases h
  | ok b =>
    constructor
    · intro h
      cases h
      rfl
    · intro h
      cases h
      rfl

theorem foldlM_preserves {f : β → α → Except ε β} {items : List α} {start last : β}
    (Keeps : β → Prop) (h : items.foldlM f start = .ok last) (first : Keeps start)
    (step : ∀ before item after, item ∈ items → f before item = .ok after → Keeps before →
      Keeps after) : Keeps last := by
  induction items generalizing start with
  | nil =>
    cases h
    exact first
  | cons item rest ih =>
    rw [List.foldlM_cons] at h
    obtain ⟨middle, made, later⟩ := bind_ok_iff.mp h
    refine ih later (step _ _ _ (List.mem_cons_self ..) made first) ?_
    intro before other after member
    exact step before other after (List.mem_cons_of_mem _ member)

/-- Two computations over the same items stay related if each step of the first has one of the second. -/
theorem foldlM_relates {γ : Type} {f : β → α → Except ε β} {g : γ → α → Except ε γ} {items : List α}
    {start last : β} {other : γ} (Related : β → γ → Prop) (h : items.foldlM f start = .ok last)
    (first : Related start other)
    (step : ∀ before beside item after, f before item = .ok after → Related before beside →
      ∃ next, g beside item = .ok next ∧ Related after next) :
    ∃ final, items.foldlM g other = .ok final ∧ Related last final := by
  induction items generalizing start other with
  | nil =>
    cases h
    exact ⟨other, rfl, first⟩
  | cons item rest ih =>
    rw [List.foldlM_cons] at h
    obtain ⟨middle, made, later⟩ := bind_ok_iff.mp h
    obtain ⟨next, made', related⟩ := step _ _ _ _ made first
    obtain ⟨final, later', ends⟩ := ih later related
    refine ⟨final, ?_, ends⟩
    rw [List.foldlM_cons]
    exact bind_ok_iff.mpr ⟨next, made', later'⟩

/-- Two computations end with the same error, or with related values. -/
inductive Agrees {γ : Type} (Related : β → γ → Prop) : Except ε β → Except ε γ → Prop where
  | ok {b : β} {c : γ} (related : Related b c) : Agrees Related (.ok b) (.ok c)
  | error (e : ε) : Agrees Related (.error e) (.error e)

theorem Agrees.map_eq {γ : Type} {Related : β → γ → Prop} {result : Except ε β} {other : Except ε γ}
    {f : β → δ} {g : γ → δ} (agrees : Agrees Related result other)
    (same : ∀ b c, Related b c → f b = g c) : result.map f = other.map g := by
  cases agrees with
  | ok related => exact congrArg Except.ok (same _ _ related)
  | error e => rfl

theorem foldlM_agrees {γ : Type} {f : β → α → Except ε β} {g : γ → α → Except ε γ} {items : List α}
    {start : β} {other : γ} {Related : β → γ → Prop} (first : Related start other)
    (step : ∀ before beside item, Related before beside →
      Agrees Related (f before item) (g beside item)) :
    Agrees Related (items.foldlM f start) (items.foldlM g other) := by
  induction items generalizing start other with
  | nil => exact .ok first
  | cons item rest ih =>
    have here := step start other item first
    rw [List.foldlM_cons, List.foldlM_cons]
    generalize f start item = left at here
    generalize g other item = right at here
    cases here with
    | ok related => exact ih related
    | error e => exact .error e

def FailsFirst (Fails : α → ε → Prop) (items : List α) (error : ε) : Prop :=
  ∃ earlier item later, items = earlier ++ item :: later ∧
    (∀ other ∈ earlier, ∀ e, ¬ Fails other e) ∧ Fails item error

theorem failsFirst_cons {Fails : α → ε → Prop} {item : α} {rest : List α} {error : ε} :
    FailsFirst Fails (item :: rest) error ↔
      Fails item error ∨ (∀ e, ¬ Fails item e) ∧ FailsFirst Fails rest error := by
  constructor
  · intro given
    obtain ⟨earlier, first, later, split, fine, fails⟩ := given
    cases earlier with
    | nil =>
      obtain ⟨rfl, rfl⟩ := List.cons_eq_cons.mp split
      exact .inl fails
    | cons head earlier =>
      obtain ⟨rfl, rfl⟩ := List.cons_eq_cons.mp split
      obtain ⟨now, after⟩ := List.forall_mem_cons.mp fine
      exact .inr ⟨now, earlier, first, later, rfl, after, fails⟩
  · intro given
    rcases given with fails | ⟨fine, earlier, first, later, rfl, rest, fails⟩
    · exact ⟨[], item, rest, rfl, by simp, fails⟩
    · exact ⟨item :: earlier, first, later, rfl, List.forall_mem_cons.mpr ⟨fine, rest⟩, fails⟩

section

variable {f : β → α → Except ε β} (Keeps : β → Prop) (Fails : α → ε → Prop)
  (step : ∀ before item after, Keeps before → f before item = .ok after → Keeps after)
  (fails : ∀ before item error, Keeps before → (f before item = .error error ↔ Fails item error))

include step fails

/-- Where it depends on the items alone which of them fail, the first of these stops the computation. -/
theorem foldlM_error_iff {items : List α} {start : β} {error : ε} (first : Keeps start) :
    items.foldlM f start = .error error ↔ FailsFirst Fails items error := by
  induction items generalizing start with
  | nil =>
    constructor
    · intro impossible
      cases impossible
    · rintro ⟨earlier, item, later, split, _⟩
      simp at split
  | cons item rest ih =>
    rw [List.foldlM_cons, failsFirst_cons, ← fails start item error first]
    cases made : f start item with
    | error other =>
      have bad := (fails start item other first).mp made
      constructor
      · exact .inl
      · rintro (here | ⟨fine, _⟩)
        · exact here
        · exact absurd bad (fine other)
    | ok middle =>
      have fine : ∀ e, ¬ Fails item e := by
        intro e bad
        rw [← fails start item e first, made] at bad
        cases bad
      have later := ih (step start item middle first made)
      constructor
      · intro stopped
        exact .inr ⟨fine, later.mp stopped⟩
      · rintro (impossible | ⟨_, stopped⟩)
        · cases impossible
        · exact later.mpr stopped

theorem foldlM_ok_iff {items : List α} {start : β} (first : Keeps start) :
    (∃ last, items.foldlM f start = .ok last) ↔ ∀ item ∈ items, ∀ error, ¬ Fails item error := by
  induction items generalizing start with
  | nil => exact ⟨fun _ _ member => (List.not_mem_nil member).elim, fun _ => ⟨start, rfl⟩⟩
  | cons item rest ih =>
    simp only [List.foldlM_cons, bind_ok_iff, List.forall_mem_cons]
    constructor
    · rintro ⟨last, middle, made, later⟩
      refine ⟨?_, (ih (step start item middle first made)).mp ⟨last, later⟩⟩
      intro e bad
      rw [← fails start item e first, made] at bad
      cases bad
    · rintro ⟨fine, others⟩
      cases made : f start item with
      | error other => exact absurd ((fails start item other first).mp made) (fine other)
      | ok middle =>
        obtain ⟨last, later⟩ := (ih (step start item middle first made)).mpr others
        exact ⟨last, middle, rfl, later⟩

end
end Attestor.Results
