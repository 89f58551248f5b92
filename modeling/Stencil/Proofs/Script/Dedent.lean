import Stencil.Proofs.Script.Reading
import Stencil.Script.Body

/-!
# Lines without their margin

A text and the same text with its lines moved to the left, as a relation between the two
(`Lexeme.Dedents`): from some place on lines lose a margin, lines of spaces and tabs become empty,
and the line in front of that place loses the blanks at its end.

A text that can be read with care (`Lexeme.Care.dedent`) is read as the same lexemes after that
(`Lexeme.Reads.dedents`). Care means that no line is moved where a statement begins, and that no
literal goes over the end of a line that is changed.
-/

namespace Stencil.Script.Lexeme

/-- The new text is the old one with lines moved to the left. The first argument after the numbers
says whether the texts begin at the start of a line. Only what is among the last `far` characters is
moved, and the line in front of these loses the blanks at its end. -/
inductive Dedents (margin : Text) (far : Nat) : Bool → Text → Text → Prop
  | nil : Dedents margin far false [] []
  | char {c : Char} {old new : Text} (inside : c ≠ '\n') (more : Dedents margin far false old new) :
      Dedents margin far false (c :: old) (c :: new)
  | lineEnd {old new : Text} (more : Dedents margin far true old new) :
      Dedents margin far false ('\n' :: old) ('\n' :: new)
  | firstEnd {blanks old new : Text} (blank : ∀ c ∈ blanks, isBlank c) (first : old.length = far)
      (more : Dedents margin far true old new) :
      Dedents margin far false (blanks ++ '\n' :: old) ('\n' :: new)
  | same {old new : Text} (more : Dedents margin far false old new) :
      Dedents margin far true old new
  | moved {old new : Text} (near : (margin ++ old).length ≤ far)
      (more : Dedents margin far false old new) : Dedents margin far true (margin ++ old) new
  | emptied {blanks old new : Text} (blank : ∀ c ∈ blanks, Body.isMargin c)
      (near : (blanks ++ '\n' :: old).length ≤ far) (more : Dedents margin far true old new) :
      Dedents margin far true (blanks ++ '\n' :: old) ('\n' :: new)
  | dropped {blanks : Text} (blank : ∀ c ∈ blanks, Body.isMargin c) :
      Dedents margin far true (blanks ++ ['\n']) []

/-- The pieces that stay as they are: where one goes over the end of a line, no blanks in front of
that end are taken off, the next line is not moved, and it is not emptied. -/
def IsKept (margin : Text) (far : Nat) (piece rest : Text) : Prop :=
  ∀ front back, piece = front ++ '\n' :: back → (back ++ rest).length ≤ far →
    margin = []
    ∧ ((back ++ rest).length = far → ∀ c ∈ front.getLast?, ¬isBlank c)
    ∧ ∀ blanks more, back = blanks ++ '\n' :: more → (∀ c ∈ blanks, Body.isMargin c) → blanks = []

/-- The care with which a text is read so that its lines can be moved. -/
def Care.dedent (margin : Text) (far : Nat) : Care where
  line text := margin = [] ∨ far < text.length
  join text := ∃ c ∈ text.takeWhile (· ≠ '\n'), ¬isBlank c
  piece := IsKept margin far

/-- A piece on one line stays as it is. -/
theorem isKept_of_not_mem {margin piece rest : Text} {far : Nat} (h : '\n' ∉ piece) :
    IsKept margin far piece rest := by
  intro front back hpiece
  exact absurd (by rw [hpiece]; simp) h

variable {margin : Text} {far : Nat} {atStart : Bool} {c : Char} {old new rest blanks text : Text}
  {care : Care} {reading : Reading} {lexemes : List Lexeme}

theorem isSpace_of_isMargin {c : Char} (h : Body.isMargin c) : isSpace c := by
  rw [isSpace, Bool.or_eq_true]
  exact .inl h

/-! ### Characters -/

/-- No character is new. -/
theorem Dedents.mem_of_mem (h : Dedents margin far atStart old new) : ∀ c ∈ new, c ∈ old := by
  induction h with
  | nil => simp
  | char inside more ih => exact List.cons_subset_cons _ ih
  | lineEnd more ih => exact List.cons_subset_cons _ ih
  | firstEnd blank first more ih =>
      exact fun c hc => List.mem_append_right _ (List.cons_subset_cons _ ih hc)
  | same more ih => exact ih
  | moved near more ih => exact fun c hc => List.mem_append_right _ (ih c hc)
  | emptied blank near more ih =>
      exact fun c hc => List.mem_append_right _ (List.cons_subset_cons _ ih hc)
  | dropped blank => simp

/-- Only blanks are taken away. -/
theorem Dedents.mem_of_not_isBlank (hmargin : ∀ c ∈ margin, Body.isMargin c)
    (h : Dedents margin far atStart old new) (hc : c ∈ old) (solid : ¬isBlank c) : c ∈ new := by
  have outside {blanks : Text} (blank : ∀ d ∈ blanks, Body.isMargin d) : c ∉ blanks :=
    fun hc => solid (isBlank_of_isSpace (isSpace_of_isMargin (blank c hc)))
  induction h with
  | nil => exact hc
  | char inside more ih => exact (List.mem_cons.1 hc).elim (· ▸ List.mem_cons_self) (.tail _ <| ih ·)
  | lineEnd more ih => exact (List.mem_cons.1 hc).elim (· ▸ List.mem_cons_self) (.tail _ <| ih ·)
  | firstEnd blank first more ih =>
      rcases List.mem_append.1 hc with hc | hc
      · exact absurd (blank c hc) solid
      · exact (List.mem_cons.1 hc).elim (· ▸ List.mem_cons_self) (.tail _ <| ih ·)
  | same more ih => exact ih hc
  | moved near more ih => exact ih ((List.mem_append.1 hc).resolve_left (outside hmargin))
  | emptied blank near more ih =>
      rcases List.mem_append.1 hc with hc | hc
      · exact absurd hc (outside blank)
      · exact (List.mem_cons.1 hc).elim (· ▸ List.mem_cons_self) (.tail _ <| ih ·)
  | dropped blank =>
      rcases List.mem_append.1 hc with hc | hc
      · exact absurd hc (outside blank)
      · obtain rfl := List.mem_singleton.1 hc
        exact absurd (by decide) solid

/-- What becomes of the first character of a text within a line: it is kept, or it ends the line, or
it is one of the blanks that are taken off the end of the first line. -/
theorem Dedents.cons_cases (h : Dedents margin far false (c :: rest) new) :
    (c ≠ '\n' ∧ ∃ new', new = c :: new' ∧ Dedents margin far false rest new')
    ∨ (c = '\n' ∧ ∃ new', new = '\n' :: new' ∧ Dedents margin far true rest new')
    ∨ ∃ blanks old new', isBlank c ∧ (∀ d ∈ blanks, isBlank d) ∧ rest = blanks ++ '\n' :: old
      ∧ new = '\n' :: new' ∧ old.length = far ∧ Dedents margin far true old new' := by
  generalize htext : c :: rest = text at h
  generalize hmode : false = mode at h
  cases h with
  | nil => cases htext
  | char inside more =>
      cases htext
      exact .inl ⟨inside, _, rfl, more⟩
  | lineEnd more =>
      cases htext
      exact .inr (.inl ⟨rfl, _, rfl, more⟩)
  | @firstEnd blanks old new blank first more =>
      cases blanks with
      | nil =>
          cases htext
          exact .inr (.inl ⟨rfl, _, rfl, more⟩)
      | cons b blanks =>
          cases htext
          obtain ⟨hc, hblanks⟩ := List.forall_mem_cons.1 blank
          exact .inr (.inr ⟨blanks, old, new, hc, hblanks, rfl, rfl, first, more⟩)
  | same more => cases hmode
  | moved near more => cases hmode
  | emptied blank near more => cases hmode
  | dropped blank => cases hmode

/-- What becomes of a text at the start of a line: nothing, or a margin is taken off, or the line is
emptied, or it is the last one and is left out. -/
theorem Dedents.start_cases (h : Dedents margin far true text new) :
    Dedents margin far false text new
    ∨ (∃ old, text = margin ++ old ∧ text.length ≤ far ∧ Dedents margin far false old new)
    ∨ (∃ blanks old new', text = blanks ++ '\n' :: old ∧ (∀ d ∈ blanks, Body.isMargin d)
      ∧ text.length ≤ far ∧ new = '\n' :: new' ∧ Dedents margin far true old new')
    ∨ ∃ blanks, text = blanks ++ ['\n'] ∧ (∀ d ∈ blanks, Body.isMargin d) ∧ new = [] := by
  cases h with
  | same more => exact .inl more
  | moved near more => exact .inr (.inl ⟨_, rfl, near, more⟩)
  | emptied blank near more => exact .inr (.inr (.inl ⟨_, _, _, rfl, blank, near, rfl, more⟩))
  | dropped blank => exact .inr (.inr (.inr ⟨_, rfl, blank, rfl⟩))

/-- A line end is kept, or it is one of those blanks. -/
theorem Dedents.lineEnd_cases (h : Dedents margin far false ('\n' :: rest) new) :
    ∃ new', new = '\n' :: new'
      ∧ (Dedents margin far true rest new' ∨ Dedents margin far false rest new) := by
  rcases h.cons_cases with ⟨hne, -⟩ | ⟨-, new', hnew, more⟩ |
    ⟨blanks, old, new', -, hblanks, rfl, rfl, first, more⟩
  · exact absurd rfl hne
  · exact ⟨new', hnew, .inl more⟩
  · exact ⟨new', rfl, .inr (.firstEnd hblanks first more)⟩

/-- A character that is not blank is kept. -/
theorem Dedents.exists_of_not_isBlank (h : Dedents margin far false (c :: rest) new)
    (solid : ¬isBlank c) : ∃ new', new = c :: new' ∧ Dedents margin far false rest new' := by
  rcases h.cons_cases with ⟨-, kept⟩ | ⟨rfl, -⟩ | ⟨_, _, _, blank, -⟩
  · exact kept
  · exact absurd (by decide) solid
  · exact absurd blank solid

/-- A text within a line agrees with the new one up to a blank. -/
theorem Dedents.agree (h : Dedents margin far false old new) : Agree old new := by
  generalize hmode : false = mode at h
  induction h with
  | nil => exact .stop (by simp) (by simp)
  | char inside more ih => exact .cons _ (ih rfl)
  | lineEnd more ih => exact .stop (by simp; decide) (by simp)
  | @firstEnd blanks old new blank first more ih =>
      refine .stop (fun c hc => ?_) (by simp)
      cases blanks with
      | nil =>
          obtain rfl : '\n' = c := Option.some.inj hc
          decide
      | cons b blanks => exact blank c (List.mem_of_mem_head? hc)
  | same more ih => cases hmode
  | moved near more ih => cases hmode
  | emptied blank near more ih => cases hmode
  | dropped blank => cases hmode

/-- What follows a comment. -/
theorem Dedents.afterComment (h : Dedents margin far false old new) :
    Dedents margin far false (afterComment old) (afterComment new) := by
  generalize hmode : false = mode at h
  induction h with
  | nil => exact .nil
  | @char c old new inside more ih =>
      rw [Lexeme.afterComment, Lexeme.afterComment, List.dropWhile_cons_of_pos (by simpa using inside),
        List.dropWhile_cons_of_pos (by simpa using inside)]
      exact ih rfl
  | lineEnd more ih => exact .lineEnd more
  | @firstEnd blanks old new blank first more ih =>
      clear ih
      show Dedents margin far false (List.dropWhile _ (blanks ++ '\n' :: old)) ('\n' :: new)
      induction blanks with
      | nil => exact .lineEnd more
      | cons b blanks ihBlanks =>
          obtain ⟨hb, hblanks⟩ := List.forall_mem_cons.1 blank
          by_cases newline : b = '\n'
          · rw [newline] at blank ⊢
            exact .firstEnd blank first more
          · rw [List.cons_append, List.dropWhile_cons_of_pos (by simpa using newline)]
            exact ihBlanks hblanks
  | same more ih => cases hmode
  | moved near more ih => cases hmode
  | emptied blank near more ih => cases hmode
  | dropped blank => cases hmode

/-! ### Pieces -/

/-- A piece that does not end in a blank, in front of a text in which a line of blanks ends: the
piece goes on behind that line. -/
theorem exists_of_append_eq {piece : Text} (nonempty : piece ≠ [])
    (last : ∀ c ∈ piece.getLast?, ¬isBlank c) (blank : ∀ c ∈ blanks, isBlank c)
    (h : piece ++ rest = blanks ++ '\n' :: text) :
    ∃ more, piece = blanks ++ '\n' :: more ∧ text = more ++ rest := by
  rw [← List.singleton_append, ← List.append_assoc] at h
  rcases List.append_eq_append_iff.1 h with ⟨more, hblanks, -⟩ | ⟨more, hpiece, htext⟩
  · refine absurd ?_ (last _ (List.getLast?_eq_some_getLast nonempty))
    have hmem : piece.getLast nonempty ∈ blanks ++ ['\n'] := by
      rw [hblanks]
      exact List.mem_append_left _ (List.getLast_mem nonempty)
    rcases List.mem_append.1 hmem with hmem | hmem
    · exact blank _ hmem
    · rw [List.mem_singleton.1 hmem]
      decide
  · exact ⟨more, by rw [hpiece, List.append_assoc, List.singleton_append], htext⟩

/-- A piece that stays as it is is still there, in front of a text that agrees with what followed
it. -/
theorem Dedents.exists_piece {piece : Text} (last : ∀ c ∈ piece.getLast?, ¬isBlank c)
    (kept : IsKept margin far piece rest) (h : Dedents margin far false (piece ++ rest) new) :
    ∃ new', new = piece ++ new' ∧ Dedents margin far false rest new' := by
  induction piece generalizing new with
  | nil => exact ⟨new, rfl, h⟩
  | cons c piece ih =>
      have hlast : ∀ d ∈ piece.getLast?, ¬isBlank d := fun d hd => last d (by
        rw [List.getLast?_cons, Option.mem_def.1 hd]
        rfl)
      have hkept : IsKept margin far piece rest := by
        intro front back hpiece near
        obtain ⟨hmargin, hfirst, hempty⟩ := kept (c :: front) back (by rw [hpiece]; rfl) near
        refine ⟨hmargin, fun first d hd => hfirst first d ?_, hempty⟩
        rw [List.getLast?_cons, Option.mem_def.1 hd]
        rfl
      have finish {new' : Text} (more : Dedents margin far false (piece ++ rest) new') :
          ∃ new'', c :: new' = c :: piece ++ new'' ∧ Dedents margin far false rest new'' := by
        obtain ⟨new'', rfl, h⟩ := ih hlast hkept more
        exact ⟨new'', rfl, h⟩
      rcases h.cons_cases with ⟨-, new', rfl, more⟩ | ⟨rfl, new', rfl, more⟩ |
        ⟨blanks, old, new', hc, hblanks, hold, rfl, first, more⟩
      · exact finish more
      · have nonempty : piece ≠ [] := by
          rintro rfl
          exact last '\n' rfl (by decide)
        have hmargins {blanks : Text} (blank : ∀ c ∈ blanks, Body.isMargin c) :
            ∀ c ∈ blanks, isBlank c :=
          fun c hc => isBlank_of_isSpace (isSpace_of_isMargin (blank c hc))
        refine finish ?_
        -- The piece goes over a line end: what could happen to the line behind it is excluded.
        rcases (more : Dedents margin far true (piece ++ rest) new').start_cases with
          same | ⟨old, htext, near, more⟩ | ⟨blanks, old, new, htext, blank, near, rfl, more⟩ |
          ⟨blanks, htext, blank, -⟩
        · exact same
        · obtain ⟨rfl, -⟩ := kept [] piece rfl near
          obtain rfl : piece ++ rest = old := htext
          exact more
        · obtain ⟨back, hpiece, rfl⟩ := exists_of_append_eq nonempty hlast (hmargins blank) htext
          obtain ⟨-, -, hempty⟩ := kept [] piece rfl near
          obtain rfl := hempty blanks back hpiece blank
          rw [show piece ++ rest = '\n' :: (back ++ rest) from htext]
          exact .lineEnd more
        · obtain ⟨back, rfl, hback⟩ := exists_of_append_eq nonempty hlast (hmargins blank) htext
          obtain ⟨rfl, rfl⟩ := List.append_eq_nil_iff.1 hback.symm
          exact absurd (by decide) (hlast '\n' (by simp))
      · have hblank : ∀ d ∈ c :: blanks, isBlank d := List.forall_mem_cons.2 ⟨hc, hblanks⟩
        have htext : c :: piece ++ rest = c :: blanks ++ '\n' :: old := congrArg (c :: ·) hold
        obtain ⟨back, hpiece, rfl⟩ :=
          exists_of_append_eq (List.cons_ne_nil c piece) last hblank htext
        obtain ⟨-, hfirst, -⟩ := kept (c :: blanks) back hpiece (Nat.le_of_eq first)
        have hlast := List.getLast?_eq_some_getLast (List.cons_ne_nil c blanks)
        exact absurd (hblank _ (List.getLast_mem _)) (hfirst first _ hlast)

/-! ### Blanks at the start of a line -/

theorem not_isSpace_newline : ¬isSpace '\n' := by
  decide

/-- Spaces are kept, unless a line end follows. -/
theorem Dedents.exists_spaces (blank : ∀ c ∈ blanks, isSpace c)
    (h : Dedents margin far false (blanks ++ text) new) :
    ∃ kept new', new = kept ++ new' ∧ (∀ c ∈ kept, isSpace c) ∧ Dedents margin far false text new'
      ∧ (kept = blanks ∨ new'.head? = some '\n') := by
  induction blanks generalizing new with
  | nil => exact ⟨[], new, rfl, by simp, h, .inl rfl⟩
  | cons c blanks ih =>
      obtain ⟨hc, hblanks⟩ := List.forall_mem_cons.1 blank
      rcases h.cons_cases with ⟨-, new', rfl, more⟩ | ⟨rfl, -⟩ |
        ⟨others, old, new', -, hothers, hold, rfl, first, more⟩
      · obtain ⟨kept, new', rfl, hkept, more, hor⟩ := ih hblanks more
        refine ⟨c :: kept, new', rfl, List.forall_mem_cons.2 ⟨hc, hkept⟩, more, hor.imp_left ?_⟩
        rintro rfl
        rfl
      · exact absurd hc not_isSpace_newline
      · have hold : blanks ++ text = others ++ '\n' :: old := hold
        have more : Dedents margin far false (blanks ++ text) ('\n' :: new') := by
          rw [hold]
          exact .firstEnd hothers first more
        obtain ⟨kept, new'', hnew, hkept, more, -⟩ := ih hblanks more
        cases kept with
        | nil =>
            have hnew : new'' = '\n' :: new' := hnew.symm
            exact ⟨[], new'', by rw [hnew]; rfl, hkept, more, .inr (by rw [hnew]; rfl)⟩
        | cons k kept =>
            obtain rfl := (List.cons.inj hnew).1
            exact absurd (hkept '\n' List.mem_cons_self) not_isSpace_newline

/-- At the start of a line, spaces are taken away, or the last line is. -/
theorem Dedents.exists_inside (hmargin : ∀ c ∈ margin, Body.isMargin c)
    (h : Dedents margin far atStart old new) :
    (∃ blanks old', old = blanks ++ old' ∧ (∀ c ∈ blanks, isSpace c)
      ∧ Dedents margin far false old' new)
    ∨ ∃ blanks, old = blanks ++ ['\n'] ∧ (∀ c ∈ blanks, isSpace c) ∧ new = [] := by
  cases atStart with
  | false => exact .inl ⟨[], old, rfl, by simp, h⟩
  | true =>
      rcases h.start_cases with same | ⟨old', rfl, -, more⟩ |
        ⟨blanks, old', new', rfl, blank, -, rfl, more⟩ | ⟨blanks, rfl, blank, rfl⟩
      · exact .inl ⟨[], old, rfl, by simp, same⟩
      · exact .inl ⟨margin, old', rfl, fun c hc => isSpace_of_isMargin (hmargin c hc), more⟩
      · exact .inl ⟨blanks, _, rfl, fun c hc => isSpace_of_isMargin (blank c hc), .lineEnd more⟩
      · exact .inr ⟨blanks, rfl, fun c hc => isSpace_of_isMargin (blank c hc), rfl⟩

/-- Behind spaces that are taken away there are the other spaces and the rest of the line. -/
theorem exists_of_spaces_append {front : Text} (hfront : ∀ c ∈ front, isSpace c) (hc : ¬isSpace c)
    (h : blanks ++ c :: rest = front ++ old) :
    ∃ back, blanks = front ++ back ∧ old = back ++ c :: rest := by
  rcases List.append_eq_append_iff.1 h with ⟨back, hblanks, hrest⟩ | ⟨back, hfront', hold⟩
  · cases back with
    | nil => exact ⟨[], by simpa using hblanks.symm, by simpa using hrest.symm⟩
    | cons d back =>
        obtain rfl := (List.cons.inj hrest).1
        exact absurd (hfront c (by rw [hblanks]; simp)) hc
  · exact ⟨back, hfront', hold⟩

/-- A line with something visible on it is no line of spaces. -/
theorem append_ne_append_newline {front : Text} (blank : ∀ c ∈ blanks, isSpace c)
    (visible : ¬isBlank c) (hfront : ∀ c ∈ front, isSpace c) :
    blanks ++ c :: rest ≠ front ++ '\n' :: old := by
  intro h
  have hspace : ¬isSpace c := fun h => visible (isBlank_of_isSpace h)
  obtain ⟨back, rfl, hback⟩ := exists_of_spaces_append hfront hspace h
  cases back with
  | nil =>
      obtain rfl := (List.cons.inj hback).1
      exact visible (by decide)
  | cons b back =>
      obtain rfl := (List.cons.inj hback).1
      exact not_isSpace_newline (blank '\n' (by simp))

/-- A line of spaces stays one, or it is taken away at the end. -/
theorem Dedents.blankLine (hmargin : ∀ c ∈ margin, Body.isMargin c)
    (blank : ∀ c ∈ blanks, isSpace c)
    (h : Dedents margin far atStart (blanks ++ '\n' :: rest) new) :
    (∃ kept new', new = kept ++ '\n' :: new' ∧ (∀ c ∈ kept, isSpace c)
      ∧ (Dedents margin far true rest new' ∨ Dedents margin far false rest ('\n' :: new')))
    ∨ rest = [] ∧ new = [] := by
  rcases h.exists_inside hmargin with ⟨front, old, hold, hfront, more⟩ | ⟨front, hold, hfront, rfl⟩
  · obtain ⟨back, rfl, rfl⟩ := exists_of_spaces_append hfront not_isSpace_newline hold
    obtain ⟨kept, new', rfl, hkept, more, -⟩ :=
      more.exists_spaces fun c hc => blank c (List.mem_append_right _ hc)
    obtain ⟨new'', rfl, hrest⟩ := more.lineEnd_cases
    exact .inl ⟨kept, new'', rfl, hkept, hrest⟩
  · obtain ⟨back, -, hback⟩ := exists_of_spaces_append hfront not_isSpace_newline hold
    refine .inr ⟨?_, rfl⟩
    cases back with
    | nil => exact (List.cons.inj hback).2.symm
    | cons b back => simp at hback

/-- The rest of a line that is not blank. -/
theorem Dedents.visibleLine (hmargin : ∀ c ∈ margin, Body.isMargin c)
    (blank : ∀ c ∈ blanks, isSpace c) (visible : ¬isBlank c)
    (h : Dedents margin far atStart (blanks ++ c :: rest) new) :
    ∃ kept new', new = kept ++ c :: new' ∧ (∀ c ∈ kept, isSpace c)
      ∧ Dedents margin far false rest new' := by
  have hspace : ¬isSpace c := fun h => visible (isBlank_of_isSpace h)
  rcases h.exists_inside hmargin with ⟨front, old, hold, hfront, more⟩ | ⟨front, hold, hfront, rfl⟩
  · obtain ⟨back, rfl, rfl⟩ := exists_of_spaces_append hfront hspace hold
    obtain ⟨kept, new', rfl, hkept, more, -⟩ :=
      more.exists_spaces fun c hc => blank c (List.mem_append_right _ hc)
    obtain ⟨new'', rfl, hrest⟩ := more.exists_of_not_isBlank visible
    exact ⟨kept, new'', rfl, hkept, hrest⟩
  · exact absurd hold (append_ne_append_newline blank visible hfront)

/-- A line on which a statement begins is not moved. -/
theorem Dedents.statementLine (blank : ∀ c ∈ blanks, isSpace c) (visible : ¬isBlank c)
    (still : margin = [] ∨ far < (blanks ++ c :: rest).length)
    (h : Dedents margin far atStart (blanks ++ c :: rest) new) :
    ∃ new', new = blanks ++ c :: new' ∧ Dedents margin far false (c :: rest) (c :: new') := by
  have hspace : ¬isSpace c := fun h => visible (isBlank_of_isSpace h)
  have hinside : Dedents margin far false (blanks ++ c :: rest) new := by
    cases atStart with
    | false => exact h
    | true =>
        rcases h.start_cases with same | ⟨old, htext, near, more⟩ |
          ⟨others, old, new', htext, hothers, -⟩ | ⟨others, htext, hothers, -⟩
        · exact same
        · rcases still with rfl | far
          · obtain rfl : blanks ++ c :: rest = old := htext
            exact more
          · exact absurd near (Nat.not_le.2 far)
        · have hothers := fun c hc => isSpace_of_isMargin (hothers c hc)
          exact absurd htext (append_ne_append_newline blank visible hothers)
        · have hothers := fun c hc => isSpace_of_isMargin (hothers c hc)
          exact absurd htext (append_ne_append_newline blank visible hothers)
  obtain ⟨kept, new', rfl, -, more, hor⟩ := hinside.exists_spaces blank
  obtain ⟨new'', rfl, -⟩ := more.exists_of_not_isBlank visible
  rcases hor with rfl | hhead
  · exact ⟨new'', rfl, more⟩
  · obtain rfl : c = '\n' := Option.some.inj hhead
    exact absurd (by decide) visible

/-! ### Readings -/

/-- A blank that a reading within a line begins with is a space, which is passed over. -/
theorem Reads.of_isBlank (h : Reads care reading (c :: rest) lexemes)
    (inside : ¬reading.atLineStart) (blank : isBlank c) (open_ : c ≠ '\n') :
    isSpace c ∧ Reads care reading rest lexemes := by
  generalize htext : c :: rest = text at h
  cases h with
  | lastLine start => exact absurd start inside
  | emptyLine start => exact absurd start inside
  | commentLine start => exact absurd start inside
  | line => exact absurd rfl inside
  | finish => cases htext
  | space _ space more =>
      cases htext
      exact ⟨space, more⟩
  | comment =>
      cases htext
      cases blank
  | bracketed =>
      cases htext
      exact absurd rfl open_
  | lineEnd =>
      cases htext
      exact absurd rfl open_
  | joined =>
      cases htext
      cases blank
  | lexeme text_eq next brackets_eq careful more =>
      obtain ⟨p, firm, rfl, -⟩ := exists_next next
      obtain ⟨x, p, rfl⟩ := List.exists_cons_of_ne_nil firm.ne_nil
      obtain rfl : c = x := (List.cons.inj htext).1
      exact absurd blank (firm.first c rfl)

/-- An open bracket has to be closed. -/
theorem Reads.exists_not_isBlank (h : Reads care reading text lexemes)
    (inside : ¬reading.atLineStart) (open_ : 0 < reading.brackets) : ∃ c ∈ text, ¬isBlank c := by
  induction h with
  | lastLine start blank finish => exact absurd start inside
  | emptyLine start blank more ih => exact absurd start inside
  | commentLine start blank more ih => exact absurd start inside
  | line => exact absurd rfl inside
  | finish inside finish =>
      rw [finish?, if_pos open_] at finish
      cases finish
  | space inside blank more ih => exact (ih inside open_).imp fun c hc => ⟨.tail _ hc.1, hc.2⟩
  | comment inside more ih => exact ⟨'#', List.mem_cons_self, by decide⟩
  | bracketed inside open_ more ih =>
      exact (ih inside open_).imp fun c hc => ⟨.tail _ hc.1, hc.2⟩
  | lineEnd more ih => exact absurd open_ (Nat.lt_irrefl 0)
  | joined inside nonempty careful more ih => exact ⟨'\\', List.mem_cons_self, by decide⟩
  | lexeme text_eq next brackets_eq careful more ih =>
      obtain ⟨p, firm, rfl, -⟩ := exists_next next
      obtain ⟨c, p, rfl⟩ := List.exists_cons_of_ne_nil firm.ne_nil
      exact ⟨c, List.mem_cons_self, firm.first c rfl⟩

/-- An empty line at the start can be left out. -/
theorem Reads.of_lineEnd (h : Reads care reading ('\n' :: rest) lexemes)
    (start : reading.atLineStart) : Reads care reading rest lexemes := by
  generalize htext : '\n' :: rest = text at h
  -- At the start of a line a line end can only have been read as an empty line, which leaves no
  -- trace.
  have visible {blanks more : Text} {c : Char} (blank : ∀ d ∈ blanks, isSpace d)
      (h : '\n' :: rest = blanks ++ c :: more) : blanks = [] := by
    cases blanks with
    | nil => rfl
    | cons b blanks =>
        obtain rfl := (List.cons.inj h).1
        exact absurd (blank '\n' List.mem_cons_self) not_isSpace_newline
  cases h with
  | lastLine _ blank finish =>
      exact absurd (blank '\n' (by rw [← htext]; simp)) not_isSpace_newline
  | emptyLine _ blank more =>
      obtain rfl := visible blank htext
      cases htext
      exact more
  | commentLine _ blank more =>
      obtain rfl := visible blank htext
      cases htext
  | line blank _ open_ _ _ _ _ more =>
      obtain rfl := visible blank htext
      cases htext
      exact absurd rfl open_
  | finish inside => exact absurd start inside
  | space inside => exact absurd start inside
  | comment inside => exact absurd start inside
  | bracketed inside => exact absurd start inside
  | lineEnd => cases start
  | joined inside => exact absurd start inside
  | lexeme => cases start

/-- A statement at the start of a source. -/
theorem Reads.firstLine (visible : ¬isSpace c) (open_ : c ≠ '\n') (code : c ≠ '#')
    (careful : care.line (c :: rest)) (more : Reads care ⟨[], 0, false⟩ (c :: rest) lexemes) :
    Reads care {} (c :: rest) lexemes := by
  have nothing : ∀ c ∈ ([] : Text), isSpace c := by simp
  have hline : Reads care ⟨[], 0, true⟩ ([] ++ c :: rest) ([] ++ lexemes) :=
    .line nothing visible open_ code rfl (Nat.zero_le _) careful more
  exact hline

/-- A lexeme on one line. -/
theorem Reads.word {blocks : List (Nat × Nat)} {brackets inner : Nat} {lexeme : Lexeme}
    (piece : Text) (next : next? (piece ++ rest) = some (lexeme, rest))
    (brackets_eq : bracketsAfterLexeme? brackets lexeme = some inner) (h : '\n' ∉ piece)
    (more : Reads (.dedent margin far) ⟨blocks, inner, false⟩ rest lexemes) :
    Reads (.dedent margin far) ⟨blocks, brackets, false⟩ (piece ++ rest) (lexeme :: lexemes) :=
  .lexeme rfl next brackets_eq (isKept_of_not_mem h) more

/-- Nothing is in front of a text that does not begin with a space. -/
theorem front_eq_nil {front : Text} (hfront : ∀ c ∈ front, isSpace c) (hc : ¬isSpace c)
    (h : c :: rest = front ++ old) : front = [] := by
  cases front with
  | nil => rfl
  | cons f front =>
      obtain rfl := (List.cons.inj h).1
      exact absurd (hfront c List.mem_cons_self) hc

/-- A line that is joined to the one before it. -/
theorem Dedents.joinedLine (hmargin : ∀ c ∈ margin, Body.isMargin c)
    (careful : ∃ c ∈ rest.takeWhile (· ≠ '\n'), ¬isBlank c)
    (h : Dedents margin far false ('\n' :: rest) new) :
    ∃ new', new = '\n' :: new' ∧ new' ≠ [] ∧ ∃ blanks old, rest = blanks ++ old
      ∧ (∀ c ∈ blanks, isSpace c) ∧ Dedents margin far false old new' := by
  obtain ⟨c, hc, solid⟩ := careful
  have hrest : c ∈ rest := (List.takeWhile_sublist _).mem hc
  rcases h.cons_cases with ⟨hne, -⟩ | ⟨-, new', rfl, more⟩ |
    ⟨blanks, old, new', -, hblanks, rfl, -⟩
  · exact absurd rfl hne
  · have hnew : c ∈ new' := more.mem_of_not_isBlank hmargin hrest solid
    refine ⟨new', rfl, List.ne_nil_of_mem hnew, ?_⟩
    rcases more.exists_inside hmargin with inside | ⟨_, -, -, rfl⟩
    · exact inside
    · cases hnew
  · rw [List.takeWhile_append] at hc
    refine absurd (hblanks c ?_) solid
    split at hc
    · simpa using hc
    · exact (List.takeWhile_sublist _).mem hc

/-- How far the new text has come while the old one is read. At the start of a line it is the old
text with lines moved. Within a line it may have passed over spaces that the old text still has in
front, from the start of that line. -/
inductive Trails (margin : Text) (far : Nat) : Bool → Text → Text → Prop
  | start {atStart : Bool} {old new : Text} (moved : Dedents margin far atStart old new) :
      Trails margin far true old new
  | inside {front old new : Text} (hfront : ∀ c ∈ front, isSpace c)
      (moved : Dedents margin far false old new) : Trails margin far false (front ++ old) new

theorem Dedents.trails (h : Dedents margin far false old new) (atLineStart : Bool) :
    Trails margin far atLineStart old new := by
  have nothing : ∀ c ∈ ([] : Text), isSpace c := by simp
  cases atLineStart with
  | true => exact .start h
  | false => exact .inside nothing h

section

variable {atLineStart : Bool}

theorem Dedents.trailsStart (h : Dedents margin far atStart old new) (start : atLineStart) :
    Trails margin far atLineStart old new := by
  rw [start]
  exact .start h

theorem Dedents.trailsInside (h : Dedents margin far false old new)
    (hblanks : ∀ c ∈ blanks, isSpace c) (inside : ¬atLineStart) :
    Trails margin far atLineStart (blanks ++ old) new := by
  rw [Bool.eq_false_iff.2 inside]
  exact .inside hblanks h

/-- At the start of a line, what trails behind is as the relation of the texts has it. -/
theorem Trails.exists_dedents (h : Trails margin far atLineStart text new) (start : atLineStart) :
    ∃ atStart, Dedents margin far atStart text new := by
  rw [start] at h
  cases h with
  | start moved => exact ⟨_, moved⟩

/-- Inside of a line there may be spaces left over in front, which the new text does not have. -/
theorem Trails.exists_front (h : Trails margin far atLineStart text new) (inside : ¬atLineStart) :
    ∃ front old, text = front ++ old ∧ (∀ c ∈ front, isSpace c)
      ∧ Dedents margin far false old new := by
  rw [Bool.eq_false_iff.2 inside] at h
  cases h with
  | inside hfront moved => exact ⟨_, _, rfl, hfront, moved⟩

/-- In front of anything but a space both texts stand at the same place. -/
theorem Trails.dedents (h : Trails margin far atLineStart (c :: rest) new)
    (inside : ¬atLineStart) (hc : ¬isSpace c) : Dedents margin far false (c :: rest) new := by
  obtain ⟨front, old, htext, hfront, moved⟩ := h.exists_front inside
  obtain rfl := front_eq_nil hfront hc htext
  rwa [htext]

end

/-- **Lines can be moved** if a text is read with care: it is read as the same lexemes after that.

By induction on the reading, with how far the new text has come. -/
theorem Reads.dedents (hmargin : ∀ c ∈ margin, Body.isMargin c)
    (h : Reads (.dedent margin far) reading text lexemes)
    (trails : Trails margin far reading.atLineStart text new) :
    Reads .none reading new lexemes := by
  induction h generalizing new with
  | @lastLine reading blanks lexemes start blank finish =>
      obtain ⟨atStart, moved⟩ := trails.exists_dedents start
      exact .lastLine start (fun c hc => blank c (moved.mem_of_mem c hc)) finish
  | @emptyLine reading blanks rest lexemes start blank more ih =>
      obtain ⟨atStart, moved⟩ := trails.exists_dedents start
      -- The line may be the last one that dedenting leaves, and then a line end is all that is
      -- missing.
      rcases moved.blankLine hmargin blank with ⟨kept, new, rfl, hkept, later | later⟩ | ⟨rfl, rfl⟩
      · exact .emptyLine start hkept (ih (later.trailsStart start))
      · exact .emptyLine start hkept ((ih (later.trails _)).of_lineEnd start)
      · exact ih (Dedents.nil.trails _)
  | @commentLine reading blanks rest lexemes start blank more ih =>
      obtain ⟨atStart, moved⟩ := trails.exists_dedents start
      obtain ⟨kept, new, rfl, hkept, later⟩ := moved.visibleLine hmargin blank (by decide)
      exact .commentLine start hkept (ih (later.afterComment.trails _))
  | line blank visible open_ code align few careful more ih =>
      obtain ⟨atStart, moved⟩ := trails.exists_dedents rfl
      have solid := fun h => visible (more.of_isBlank Bool.false_ne_true h open_).1
      obtain ⟨new, rfl, later⟩ := moved.statementLine blank solid careful
      exact .line blank visible open_ code align few trivial (ih (later.trails _))
  | finish inside finish =>
      obtain ⟨front, old, htext, -, moved⟩ := trails.exists_front inside
      obtain ⟨rfl, rfl⟩ := List.append_eq_nil_iff.1 htext.symm
      have hnew : new = [] := List.eq_nil_iff_forall_not_mem.2 fun c hc =>
        List.not_mem_nil (moved.mem_of_mem c hc)
      rw [hnew]
      exact .finish inside finish
  | @space reading c rest lexemes inside blank more ih =>
      obtain ⟨front, old, htext, hfront, moved⟩ := trails.exists_front inside
      -- Spaces left over in front come first; only then the next space is one of the text.
      cases front with
      | cons f front =>
          obtain ⟨rfl, rfl⟩ := List.cons.inj htext
          exact ih (moved.trailsInside (List.forall_mem_cons.1 hfront).2 inside)
      | nil =>
          obtain rfl : c :: rest = old := htext
          rcases moved.cons_cases with ⟨-, new, rfl, later⟩ | ⟨rfl, -⟩ |
            ⟨blanks, old, new, -, hblanks, rfl, rfl, first, later⟩
          · exact .space inside blank (ih (later.trails _))
          · exact absurd blank not_isSpace_newline
          · exact ih ((Dedents.firstEnd hblanks first later).trails _)
  | @comment reading rest lexemes inside more ih =>
      have moved := trails.dedents inside (by decide)
      obtain ⟨new, rfl, later⟩ := moved.exists_of_not_isBlank (by decide)
      exact .comment inside (ih (later.afterComment.trails _))
  | @bracketed reading rest lexemes inside open_ more ih =>
      obtain ⟨new, rfl, later | later⟩ := (trails.dedents inside not_isSpace_newline).lineEnd_cases
      · rcases later.exists_inside hmargin with ⟨blanks, old, rfl, hblanks, later⟩ |
          ⟨blanks, rfl, hblanks, -⟩
        · exact .bracketed inside open_ (ih (later.trailsInside hblanks inside))
        -- Inside of brackets the text cannot end in blanks, as a closing bracket is still to come.
        · obtain ⟨c, hc, solid⟩ := more.exists_not_isBlank inside open_
          rcases List.mem_append.1 hc with hc | hc
          · exact absurd (isBlank_of_isSpace (hblanks c hc)) solid
          · rw [List.mem_singleton.1 hc] at solid
            exact absurd (by decide) solid
      · exact ih (later.trails _)
  | @lineEnd blocks rest lexemes more ih =>
      have moved := trails.dedents Bool.false_ne_true not_isSpace_newline
      obtain ⟨new, rfl, later | later⟩ := moved.lineEnd_cases
      · exact .lineEnd (ih (.start later))
      · exact .lineEnd ((ih (later.trails _)).of_lineEnd rfl)
  | @joined reading rest lexemes inside nonempty careful more ih =>
      have moved := trails.dedents inside (by decide)
      obtain ⟨new, rfl, later⟩ := moved.exists_of_not_isBlank (by decide)
      obtain ⟨new, rfl, visible, blanks, old, rfl, hblanks, later⟩ :=
        later.joinedLine hmargin careful
      exact .joined inside visible trivial (ih (later.trailsInside hblanks inside))
  | @lexeme blocks brackets inner text piece rest lexeme lexemes text_eq next brackets_eq careful more
      ih =>
      -- A lexeme is read again in the new text, because the texts behind it agree.
      obtain ⟨p, firm, hp, again⟩ := exists_next next
      obtain rfl : p = piece := List.append_cancel_right (hp.symm.trans text_eq)
      have moved : Dedents margin far false (p ++ rest) new := by
        obtain ⟨c, p, rfl⟩ := List.exists_cons_of_ne_nil firm.ne_nil
        have hspace : ¬isSpace c := fun h => firm.first c rfl (isBlank_of_isSpace h)
        rw [text_eq] at trails
        exact trails.dedents Bool.false_ne_true hspace
      obtain ⟨new, rfl, later⟩ := moved.exists_piece firm.last careful
      exact .lexeme rfl (again new later.agree) brackets_eq trivial (ih (later.trails _))

end Stencil.Script.Lexeme
