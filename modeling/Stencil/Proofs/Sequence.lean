import Mathlib.Data.List.Forall2

/-!
# Computations in sequence

When computations that may fail succeed one after another: each of them does, and the result is made
of their results. When they fail, one of them does.

`BothEnd` compares two computations: they succeed with related results or fail with related errors,
and so do computations that are put together of such ones in the same way. Where nothing lays down
which of several errors is met first, the errors are the same up to that choice (`SameOrBoth`).
-/

namespace Stencil

variable {ε α β : Type}

theorem bind_eq_ok_iff {first : Except ε α} {next : α → Except ε β} {result : β} :
    (first >>= next) = .ok result ↔ ∃ value, first = .ok value ∧ next value = .ok result := by
  cases first <;> simp [bind, Except.bind]

theorem map_eq_ok_iff {first : Except ε α} {f : α → β} {result : β} :
    (f <$> first) = .ok result ↔ ∃ value, first = .ok value ∧ f value = result := by
  cases first <;> simp [Functor.map, Except.map]

@[simp] theorem pure_eq_ok_iff {value result : α} :
    (pure value : Except ε α) = .ok result ↔ value = result := by
  simp [pure, Except.pure]

theorem mapError_eq_ok_iff {ε' : Type} {f : ε → ε'} {first : Except ε α} {result : α} :
    first.mapError f = .ok result ↔ first = .ok result := by
  cases first <;> simp [Except.mapError]

theorem mapM_eq_ok_iff {f : α → Except ε β} {values : List α} {results : List β} :
    values.mapM f = .ok results ↔ List.Forall₂ (fun value result => f value = .ok result)
      values results := by
  induction values generalizing results with
  | nil => cases results <;> simp [pure, Except.pure]
  | cons value rest ih =>
      simp only [List.mapM_cons, bind_eq_ok_iff, pure_eq_ok_iff, ih, List.forall₂_cons_left_iff]
      constructor
      · intro h
        obtain ⟨result, hresult, more, hmore, rfl⟩ := h
        exact ⟨result, more, hresult, hmore, rfl⟩
      · intro h
        obtain ⟨result, more, hresult, hmore, rfl⟩ := h
        exact ⟨result, hresult, more, hmore, rfl⟩

/-- Every result belongs to one of the values. -/
theorem exists_of_mem_forall₂ {R : α → β → Prop} {values : List α} {results : List β} {result : β}
    (h : List.Forall₂ R values results) (hresult : result ∈ results) :
    ∃ value ∈ values, R value result := by
  induction h with
  | nil => cases hresult
  | @cons value first values results head _ ih =>
      rcases List.mem_cons.1 hresult with rfl | hresult
      · exact ⟨value, List.mem_cons_self, head⟩
      · obtain ⟨value, hvalue, hrelated⟩ := ih hresult
        exact ⟨value, List.mem_cons_of_mem _ hvalue, hrelated⟩

theorem mapM_congr {f g : α → Except ε β} {values : List α}
    (h : ∀ value ∈ values, f value = g value) :
    values.mapM f = values.mapM g := by
  induction values with
  | nil => rfl
  | cons value rest ih =>
      rw [List.mapM_cons, List.mapM_cons, h value (List.mem_cons_self ..),
        ih fun other hother => h other (List.mem_cons_of_mem _ hother)]

/-! ### Failures -/

theorem bind_eq_error_iff {first : Except ε α} {next : α → Except ε β} {error : ε} :
    (first >>= next) = .error error ↔
      first = .error error ∨ ∃ value, first = .ok value ∧ next value = .error error := by
  cases first <;> simp [bind, Except.bind]

theorem map_eq_error_iff {first : Except ε α} {f : α → β} {error : ε} :
    (f <$> first) = .error error ↔ first = .error error := by
  cases first <;> simp [Functor.map, Except.map]

/-- What is made of a result at the end does not fail. -/
theorem bind_pure_eq_error_iff {first : Except ε α} {f : α → β} {error : ε} :
    (first >>= fun value => pure (f value)) = .error error ↔ first = .error error := by
  rw [bind_pure_comp, map_eq_error_iff]

/-- The failure of a list of computations is that of one of them. -/
theorem exists_of_mapM_error {f : α → Except ε β} {values : List α} {error : ε}
    (h : values.mapM f = .error error) : ∃ value ∈ values, f value = .error error := by
  induction values with
  | nil => cases h
  | cons value rest ih =>
      rw [List.mapM_cons] at h
      rcases bind_eq_error_iff.1 h with here | ⟨result, -, h⟩
      · exact ⟨value, List.mem_cons_self, here⟩
      · rcases bind_eq_error_iff.1 h with later | ⟨results, -, h⟩
        · obtain ⟨value, hvalue, hfails⟩ := ih later
          exact ⟨value, List.mem_cons_of_mem _ hvalue, hfails⟩
        · cases h

/-- A fold that fails succeeds up to the value where it fails. -/
theorem exists_of_foldlM_error {f : β → α → Except ε β} {values : List α} {start : β} {error : ε}
    (h : values.foldlM f start = .error error) :
    ∃ before value after state, values = before ++ value :: after
      ∧ before.foldlM f start = .ok state ∧ f state value = .error error := by
  induction values generalizing start with
  | nil => cases h
  | cons value rest ih =>
      rw [List.foldlM_cons] at h
      rcases bind_eq_error_iff.1 h with here | ⟨next, hnext, h⟩
      · exact ⟨[], value, rest, start, rfl, rfl, here⟩
      · obtain ⟨before, found, after, state, rfl, hbefore, hfails⟩ := ih h
        refine ⟨value :: before, found, after, state, rfl, ?_, hfails⟩
        rw [List.foldlM_cons, hnext]
        exact hbefore

/-! ### Two computations -/

/-- Two computations both succeed with results in `V` or both fail with errors in `E`. -/
inductive BothEnd {ε ε' α β : Type} (E : ε → ε' → Prop) (V : α → β → Prop) :
    Except ε α → Except ε' β → Prop
  | ok {a b} (related : V a b) : BothEnd E V (.ok a) (.ok b)
  | error {e e'} (related : E e e') : BothEnd E V (.error e) (.error e')

namespace BothEnd

variable {ε' α' β' : Type} {E : ε → ε' → Prop} {E' : ε → ε → Prop} {V : α → α' → Prop}
  {W : β → β' → Prop}

/-- Two computations that end alike may each be followed by others that do. -/
theorem bind {x : Except ε α} {y : Except ε' α'} {f : α → Except ε β} {g : α' → Except ε' β'}
    (h : BothEnd E V x y) (next : ∀ a b, V a b → BothEnd E W (f a) (g b)) :
    BothEnd E W (x >>= f) (y >>= g) := by
  cases h with
  | ok related => exact next _ _ related
  | error related => exact .error related

theorem map {x : Except ε α} {y : Except ε' α'} {f : α → β} {g : α' → β'} (h : BothEnd E V x y)
    (next : ∀ a b, V a b → W (f a) (g b)) : BothEnd E W (f <$> x) (g <$> y) := by
  cases h with
  | ok related => exact .ok (next _ _ related)
  | error related => exact .error related

/-- A computation ends as it does itself, if errors are related to themselves. -/
theorem refl (same : ∀ error : ε, E' error error) (x : Except ε α) : BothEnd E' Eq x x := by
  cases x with
  | ok value => exact .ok rfl
  | error error => exact .error (same error)

theorem mapError {δ δ' : Type} {D : δ → δ' → Prop} {x : Except ε α} {y : Except ε' α'} {f : ε → δ}
    {g : ε' → δ'} (h : BothEnd E V x y) (next : ∀ e e', E e e' → D (f e) (g e')) :
    BothEnd D V (x.mapError f) (y.mapError g) := by
  cases h with
  | ok related => exact .ok related
  | error related => exact .error (next _ _ related)

/-- Lists of computations end alike if they do one by one. The first error is at the same index. -/
theorem mapM {f : α → Except ε β} {g : α' → Except ε' β'} {values : List α} {others : List α'}
    (h : List.Forall₂ V values others) (each : ∀ a b, V a b → BothEnd E W (f a) (g b)) :
    BothEnd E (List.Forall₂ W) (values.mapM f) (others.mapM g) := by
  induction h with
  | nil => exact .ok .nil
  | cons head _ ih =>
      rw [List.mapM_cons, List.mapM_cons]
      refine (each _ _ head).bind fun a b hab => ?_
      exact ih.bind fun more more' hmore => .ok (.cons hab hmore)

/-- Computations that carry a state end alike if each step keeps the states related. -/
theorem foldlM {f : β → α → Except ε β} {g : β' → α' → Except ε' β'} {values : List α}
    {others : List α'} {start : β} {start' : β'} (h : List.Forall₂ V values others)
    (hstart : W start start') (each : ∀ s s' a b, W s s' → V a b → BothEnd E W (f s a) (g s' b)) :
    BothEnd E W (values.foldlM f start) (others.foldlM g start') := by
  induction h generalizing start start' with
  | nil => exact .ok hstart
  | cons head _ ih =>
      rw [List.foldlM_cons, List.foldlM_cons]
      exact (each _ _ _ _ hstart head).bind fun s s' hs => ih hs

end BothEnd

/-- Are two errors the same, or both such that either of them may be met first? -/
def SameOrBoth (P : ε → Prop) (first second : ε) : Prop :=
  first = second ∨ P first ∧ P second

namespace SameOrBoth

variable {ε' : Type} {P : ε → Prop} {Q : ε' → Prop} {first second : ε}

theorem refl (error : ε) : SameOrBoth P error error := .inl rfl

theorem map {f : ε → ε'} (keeps : ∀ error, P error → Q (f error)) (h : SameOrBoth P first second) :
    SameOrBoth Q (f first) (f second) :=
  h.imp (congrArg f) fun both => ⟨keeps _ both.1, keeps _ both.2⟩

end SameOrBoth

end Stencil
