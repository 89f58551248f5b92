import Mathlib.Data.List.Induction
import Stencil.Place

/-!
# Lines and columns

The place that is reached behind a text counts its line feeds, and the characters behind the last of
them (`after_start`). Reading on from a place leads to a later line, or to a later column of the same
line (`isBefore_after`). So the places in a text are in the order of their offsets
(`IsIn.offset_lt_iff`), and line and column together tell a place (`IsIn.eq_of_line_eq`).
-/

namespace Stencil.Place

/-- The place is on an earlier line, or on the same line in an earlier column. -/
def IsBefore (place other : Place) : Prop :=
  place.line < other.line ∨ place.line = other.line ∧ place.column < other.column

/-- The place of a character of the text. Its line is one more than the number of line feeds in front
of it, and its column one more than the number of characters behind the last of these. -/
structure IsIn (text : Text) (place : Place) : Prop where
  nonneg : 0 ≤ place.offset
  lt_length : place.offset < text.length
  line_eq : place.line = 1 + (text.take place.offset.toNat).count '\n'
  column_eq : place.column
    = 1 + ((text.take place.offset.toNat).reverse.takeWhile (· ≠ '\n')).length

variable {place other last : Place} {text front rest : Text} {c : Char}

/-! ### Counting -/

theorem after_cons : place.after (c :: text) = (place.step c).after text := rfl

theorem after_concat : place.after (text ++ [c]) = (place.after text).step c :=
  after_append place text [c]

theorem line_after : (place.after text).line = place.line + text.count '\n' := by
  induction text generalizing place with
  | nil => simp
  | cons c text ih =>
      rw [after_cons, ih, List.count_cons, step]
      by_cases h : c = '\n'
      · simp only [h, if_true, beq_self_eq_true]
        omega
      · simp [h]

theorem column_after :
    (Place.after {} text).column = 1 + (text.reverse.takeWhile (· ≠ '\n')).length := by
  induction text using List.reverseRecOn with
  | nil => rfl
  | append_singleton text c ih =>
      rw [after_concat, step, List.reverse_concat]
      by_cases h : c = '\n'
      · simp [h]
      · rw [if_neg h, List.takeWhile_cons_of_pos (by simpa using h), List.length_cons]
        dsimp only
        omega

/-- **The place behind a text** counts its characters, its line feeds, and the characters behind the
last line feed. -/
theorem after_start :
    Place.after {} text = ⟨text.length, 1 + text.count '\n',
      1 + (text.reverse.takeWhile (· ≠ '\n')).length⟩ :=
  calc Place.after {} text
    _ = ⟨(Place.after {} text).offset, (Place.after {} text).line,
          (Place.after {} text).column⟩ := rfl
    _ = _ := by rw [offset_after, line_after, column_after, Int.zero_add]

/-- The places in a text are those that are reached in front of its characters. -/
theorem isIn_iff :
    place.IsIn text ↔ ∃ front rest, text = front ++ rest ∧ rest ≠ []
      ∧ place = Place.after {} front := by
  constructor
  · intro h
    obtain ⟨offset, line, column⟩ := place
    obtain ⟨nonneg, lt_length, line_eq, column_eq⟩ := h
    obtain ⟨n, rfl⟩ := Int.eq_ofNat_of_zero_le nonneg
    dsimp only at lt_length line_eq column_eq
    have hlt : n < text.length := Int.ofNat_lt.1 lt_length
    rw [Int.toNat_natCast] at line_eq column_eq
    refine ⟨text.take n, text.drop n, (List.take_append_drop n text).symm, ?_, ?_⟩
    · exact List.drop_eq_nil_iff.not.2 (Nat.not_le.2 hlt)
    · rw [after_start, List.length_take, Nat.min_eq_left (Nat.le_of_lt hlt), line_eq, column_eq]
  · rintro ⟨front, rest, rfl, nonempty, rfl⟩
    have hlength := List.length_pos_iff.2 nonempty
    rw [after_start]
    refine ⟨Int.natCast_nonneg _, ?_, ?_, ?_⟩
    · rw [List.length_append]
      dsimp only
      omega
    · dsimp only
      rw [Int.toNat_natCast, List.take_left]
    · dsimp only
      rw [Int.toNat_natCast, List.take_left]

/-! ### Order -/

theorem IsBefore.trans (h : place.IsBefore other) (h' : other.IsBefore last) :
    place.IsBefore last := by
  unfold IsBefore at h h' ⊢
  omega

theorem not_isBefore_self : ¬place.IsBefore place := by
  unfold IsBefore
  omega

/-- Every character moves the place on, a line break as well. -/
theorem isBefore_step : place.IsBefore (place.step c) := by
  unfold IsBefore step
  split
  · exact .inl (Int.lt_succ _)
  · exact .inr ⟨rfl, Int.lt_succ _⟩

/-- Every character leads to a later place. -/
theorem isBefore_after (nonempty : text ≠ []) : place.IsBefore (place.after text) := by
  induction text generalizing place with
  | nil => exact absurd rfl nonempty
  | cons c text ih =>
      rw [after_cons]
      by_cases empty : text = []
      · rw [empty]
        exact isBefore_step
      · exact isBefore_step.trans (ih empty)

theorem offset_lt_after (nonempty : text ≠ []) : place.offset < (place.after text).offset := by
  have := List.length_pos_iff.2 nonempty
  rw [offset_after]
  omega

/-- Of two places in a text, the one with the greater offset is reached from the other one. -/
theorem IsIn.exists_after (h : place.IsIn text) (h' : other.IsIn text)
    (hlt : place.offset < other.offset) : ∃ between, between ≠ [] ∧ other = place.after between := by
  obtain ⟨front, rest, rfl, -, rfl⟩ := isIn_iff.1 h
  obtain ⟨front', rest', htext, -, rfl⟩ := isIn_iff.1 h'
  rw [offset_after, offset_after] at hlt
  rcases List.append_eq_append_iff.1 htext with ⟨between, rfl, -⟩ | ⟨between, rfl, -⟩
  · refine ⟨between, ?_, after_append ..⟩
    rintro rfl
    simp at hlt
  · simp only [List.length_append] at hlt
    omega

/-- In one text the offset alone determines the place. -/
theorem IsIn.eq_of_offset_eq (h : place.IsIn text) (h' : other.IsIn text)
    (same : place.offset = other.offset) : place = other := by
  obtain ⟨offset, line, column⟩ := place
  obtain ⟨-, -, line_eq, column_eq⟩ := h
  obtain ⟨-, -, line_eq', column_eq'⟩ := h'
  dsimp only at same line_eq column_eq
  rw [line_eq, column_eq, same, ← line_eq', ← column_eq']

/-- **The places in a text have the order of their offsets.** -/
theorem IsIn.offset_lt_iff (h : place.IsIn text) (h' : other.IsIn text) :
    place.offset < other.offset ↔ place.IsBefore other := by
  have forward {place other : Place} (h : place.IsIn text) (h' : other.IsIn text)
      (hlt : place.offset < other.offset) : place.IsBefore other := by
    obtain ⟨between, nonempty, rfl⟩ := h.exists_after h' hlt
    exact isBefore_after nonempty
  constructor
  · exact forward h h'
  · intro before
    rcases Int.lt_trichotomy place.offset other.offset with lt | same | gt
    · exact lt
    · rw [h.eq_of_offset_eq h' same] at before
      exact absurd before not_isBefore_self
    · exact absurd (before.trans (forward h' h gt)) not_isBefore_self

/-- **Line and column tell a place** in a text. -/
theorem IsIn.eq_of_line_eq (h : place.IsIn text) (h' : other.IsIn text)
    (line : place.line = other.line) (column : place.column = other.column) : place = other := by
  refine h.eq_of_offset_eq h' ?_
  have not_lt := mt (h.offset_lt_iff h').1 (by unfold IsBefore; omega)
  have not_gt := mt (h'.offset_lt_iff h).1 (by unfold IsBefore; omega)
  omega

end Stencil.Place
