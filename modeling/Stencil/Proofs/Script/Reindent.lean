import Mathlib.Data.List.Forall2
import Stencil.Proofs.Script.Normalize

/-!
# Sources that are set in further

`SetIn margin` relates a line to the same line with a margin in front of it, and a blank line to any
blank line. Lines that are set in further lose that much more when their common margin is removed
(`dedentLines_setIn`), so a source is normalized as before when everything behind its first line is
moved (`normalize_setIn`), and it keeps its meaning (`evaluateAlike_of_normalize`).

Removing the margin is the converse of setting in: the lines are what is left of them, set in by the
one margin that they lose (`setIn_dedentLines`).
-/

namespace Stencil.Script

namespace Body

variable {w s t line line' : Text} {lines lines' : List Text}

/-- The second line is the first one behind a margin, or both are blank. -/
inductive SetIn (margin : Text) : Text → Text → Prop
  | blank {line line' : Text} (old : isEmptyLine line) (new : isEmptyLine line') :
      SetIn margin line line'
  | visible {line : Text} (visible : ¬isEmptyLine line) : SetIn margin line (margin ++ line)

/-! ### The margins of lines -/

theorem isEmptyLine_append (hw : ∀ c ∈ w, isMargin c) (line : Text) :
    isEmptyLine (w ++ line) = isEmptyLine line := by
  rw [isEmptyLine, List.all_append, List.all_eq_true.2 hw, Bool.true_and, isEmptyLine]

/-- Blanks in front of a line widen its margin. -/
theorem marginOf_append (hw : ∀ c ∈ w, isMargin c) (line : Text) :
    marginOf (w ++ line) = w ++ marginOf line :=
  List.takeWhile_append_of_pos hw

theorem commonStart_append (w s t : Text) :
    commonStart (w ++ s) (w ++ t) = w ++ commonStart s t := by
  induction w with
  | nil => rfl
  | cons c w ih =>
      rw [List.cons_append, List.cons_append, commonStart, if_pos rfl, ih, List.cons_append]

theorem commonStart_isPrefix_left (s t : Text) : commonStart s t <+: s := by
  fun_induction commonStart s t with
  | case1 a s t ih => exact List.cons_prefix_cons.2 ⟨rfl, ih⟩
  | case2 => exact List.nil_prefix
  | case3 => exact List.nil_prefix

theorem commonStart_isPrefix_right (s t : Text) : commonStart s t <+: t := by
  fun_induction commonStart s t with
  | case1 a s t ih => exact List.cons_prefix_cons.2 ⟨rfl, ih⟩
  | case2 => exact List.nil_prefix
  | case3 => exact List.nil_prefix

theorem foldl_commonStart_append (w s : Text) (texts : List Text) :
    (texts.map (w ++ ·)).foldl commonStart (w ++ s) = w ++ texts.foldl commonStart s := by
  induction texts generalizing s with
  | nil => rfl
  | cons t texts ih =>
      rw [List.map_cons, List.foldl_cons, List.foldl_cons, commonStart_append, ih]

theorem foldl_commonStart_isPrefix (s : Text) (texts : List Text) :
    texts.foldl commonStart s <+: s ∧ ∀ t ∈ texts, texts.foldl commonStart s <+: t := by
  induction texts generalizing s with
  | nil => exact ⟨List.prefix_rfl, nofun⟩
  | cons first texts ih =>
      obtain ⟨hstart, htexts⟩ := ih (commonStart s first)
      rw [List.foldl_cons, List.forall_mem_cons]
      exact ⟨hstart.trans (commonStart_isPrefix_left s first),
        hstart.trans (commonStart_isPrefix_right s first), htexts⟩

/-- A line that is not blank begins with the margin. -/
theorem margin_isPrefix (mem : line ∈ lines) (visible : ¬isEmptyLine line) :
    margin lines <+: marginOf line := by
  have hmem : marginOf line ∈ (lines.filter (!isEmptyLine ·)).map marginOf :=
    List.mem_map_of_mem (List.mem_filter.2 ⟨mem, by simpa using visible⟩)
  rw [margin]
  split
  · exact List.nil_prefix
  · rename_i first rest heq
    rw [heq] at hmem
    obtain ⟨hfirst, hrest⟩ := foldl_commonStart_isPrefix first rest
    rcases List.mem_cons.1 hmem with rfl | hmem
    · exact hfirst
    · exact hrest _ hmem

/-- Blank lines have no part in the margin. -/
theorem marginOfLines_eq (lines : List Text) : marginOfLines lines = margin lines := by
  have hfilter : (lines.map fun line => if isEmptyLine line then [] else line).filter
      (!isEmptyLine ·) = lines.filter (!isEmptyLine ·) := by
    induction lines with
    | nil => rfl
    | cons line lines ih =>
        rw [List.map_cons, List.filter_cons, List.filter_cons, ih]
        split <;> simp_all [isEmptyLine]
  rw [marginOfLines, margin, hfilter, margin]

theorem changeLine_of_isEmptyLine (m : Text) (blank : isEmptyLine line) : changeLine m line = [] := by
  rw [changeLine, if_pos blank, removeMargin, List.drop_nil, ite_self]

/-- A line that can be seen loses its margin and nothing else. -/
theorem changeLine_append (m : Text) (visible : ¬isEmptyLine (m ++ line)) :
    changeLine m (m ++ line) = line := by
  rw [changeLine, if_neg visible, removeMargin,
    if_pos (List.isPrefixOf_iff_prefix.2 (List.prefix_append m line)), List.drop_left]

/-! ### Lines that are set in -/

/-- The lines that are not blank get the margin in front of them. -/
theorem filter_setIn (hw : ∀ c ∈ w, isMargin c) (h : List.Forall₂ (SetIn w) lines lines') :
    lines'.filter (!isEmptyLine ·) = (lines.filter (!isEmptyLine ·)).map (w ++ ·) := by
  induction h with
  | nil => rfl
  | cons line _ ih =>
      cases line with
      | blank old new => simp [old, new, ih]
      | visible visible => simp [visible, isEmptyLine_append hw, ih]

/-- So does their common margin, if there is such a line. -/
theorem margin_setIn (hw : ∀ c ∈ w, isMargin c) (h : List.Forall₂ (SetIn w) lines lines')
    (mem : line ∈ lines) (visible : ¬isEmptyLine line) : margin lines' = w ++ margin lines := by
  rw [margin, margin, filter_setIn hw h, List.map_map]
  have hmargins : (lines.filter (!isEmptyLine ·)).map (marginOf ∘ (w ++ ·))
      = ((lines.filter (!isEmptyLine ·)).map marginOf).map (w ++ ·) := by
    rw [List.map_map]
    exact List.map_congr_left fun line _ => marginOf_append hw line
  rw [hmargins]
  cases hlines : (lines.filter (!isEmptyLine ·)).map marginOf with
  | nil =>
      have hmem : line ∈ lines.filter (!isEmptyLine ·) := by
        simpa [mem] using visible
      rw [List.map_eq_nil_iff.1 hlines] at hmem
      cases hmem
  | cons first rest => exact foldl_commonStart_append w first rest

/-- Blank lines do not count for the margin, and all others begin with it. -/
theorem margin_isPrefix_line (mem : line ∈ lines) (visible : ¬isEmptyLine line) :
    margin lines <+: line :=
  (margin_isPrefix mem visible).trans (List.takeWhile_prefix isMargin)

/-- A line that is set in further loses what it was set in by, too. -/
theorem SetIn.changeLine_eq {m m' : Text} (hw : ∀ c ∈ w, isMargin c) (h : SetIn w line line')
    (hm : ¬isEmptyLine line → m <+: line ∧ m' = w ++ m) :
    changeLine m' line' = changeLine m line := by
  cases h with
  | blank old new => rw [changeLine_of_isEmptyLine m' new, changeLine_of_isEmptyLine m old]
  | visible visible =>
      obtain ⟨⟨rest, rfl⟩, rfl⟩ := hm visible
      have hvisible : ¬isEmptyLine (w ++ m ++ rest) := by
        rwa [List.append_assoc, isEmptyLine_append hw]
      rw [changeLine_append m visible, ← List.append_assoc, changeLine_append (w ++ m) hvisible]

/-- **What lines are without their margin** does not change when they are set in further. -/
theorem dedentLines_setIn (hw : ∀ c ∈ w, isMargin c) (h : List.Forall₂ (SetIn w) lines lines') :
    dedentLines lines' = dedentLines lines := by
  have hmargin : ∀ line ∈ lines, ¬isEmptyLine line →
      margin lines <+: line ∧ margin lines' = w ++ margin lines := fun line mem visible =>
    ⟨margin_isPrefix_line mem visible, margin_setIn hw h mem visible⟩
  rw [dedentLines_eq, dedentLines_eq, marginOfLines_eq, marginOfLines_eq]
  -- The margins are those of all lines, also when the lines are taken one by one.
  generalize margin lines' = m' at hmargin ⊢
  generalize margin lines = m at hmargin ⊢
  induction h with
  | nil => rfl
  | cons line _ ih =>
      obtain ⟨hfirst, hlines⟩ := List.forall_mem_cons.1 hmargin
      rw [List.map_cons, List.map_cons, line.changeLine_eq hw hfirst, ih hlines]

/-- **The lines are set in by the margin that they lose.** -/
theorem setIn_dedentLines (lines : List Text) :
    List.Forall₂ (SetIn (margin lines)) (dedentLines lines) lines := by
  rw [dedentLines_eq, marginOfLines_eq, List.forall₂_map_left_iff, List.forall₂_same]
  intro line mem
  by_cases visible : isEmptyLine line
  · rw [changeLine_of_isEmptyLine _ visible]
    exact .blank rfl visible
  · obtain ⟨rest, hrest⟩ := margin_isPrefix_line mem visible
    have hmargin : ∀ c ∈ margin lines, isMargin c := fun c => isMargin_of_mem_margin
    generalize margin lines = m at hrest hmargin ⊢
    subst hrest
    rw [changeLine_append m visible]
    rw [isEmptyLine_append hmargin] at visible
    exact .visible visible

/-! ### Sources that are set in -/

/-- What is behind the first line begins at the first line end. -/
theorem normalize_cons {first rest : Text} (line : '\n' ∉ first) (more : rest ≠ []) :
    normalize (first ++ '\n' :: rest) = Text.trim first ++ '\n' :: dedent rest := by
  rw [normalize, Text.breakAt_cons line]
  exact if_neg (mt List.isEmpty_iff.1 more)

theorem not_mem_changeLine {c : Char} (m : Text) (h : c ∉ line) : c ∉ changeLine m line := by
  have clean : c ∉ if isEmptyLine line then [] else line := by
    split
    · exact List.not_mem_nil
    · exact h
  rw [changeLine]
  generalize (if isEmptyLine line then [] else line) = cleaned at clean ⊢
  rw [removeMargin]
  split
  · exact fun hc => clean (List.mem_of_mem_drop hc)
  · exact clean

/-- The lines of a normalized source. -/
theorem pieces_normalize {first rest : Text} (line : '\n' ∉ first) (more : rest ≠ []) :
    Text.pieces '\n' (normalize (first ++ '\n' :: rest))
      = Text.trim first :: dedentLines (Text.pieces '\n' rest) := by
  have nonempty : dedentLines (Text.pieces '\n' rest) ≠ [] := by
    rw [dedentLines_eq]
    exact mt List.map_eq_nil_iff.1 (Text.pieces_ne_nil '\n' rest)
  have free : ∀ line ∈ dedentLines (Text.pieces '\n' rest), '\n' ∉ line := by
    rw [dedentLines_eq, List.forall_mem_map]
    exact fun line mem => not_mem_changeLine _ (Text.not_mem_of_mem_pieces mem)
  rw [normalize_cons line more, Text.pieces_append_cons fun h => line (Text.mem_of_mem_trim h),
    dedent, Text.pieces_join nonempty free]

/-- Setting all lines but the first in further changes nothing, because the margin grows by as much.
-/
theorem normalize_setIn {first rest rest' : Text} (hw : ∀ c ∈ w, isMargin c) (line : '\n' ∉ first)
    (more : rest ≠ []) (more' : rest' ≠ [])
    (h : List.Forall₂ (SetIn w) (Text.pieces '\n' rest) (Text.pieces '\n' rest')) :
    normalize (first ++ '\n' :: rest') = normalize (first ++ '\n' :: rest) := by
  rw [normalize_cons line more, normalize_cons line more', dedent, dedent, dedentLines_setIn hw h]

/-- Two lines that are set in by one margin keep what sets one of them in further than the other. -/
theorem SetIn.deeper_iff (hw : ∀ c ∈ w, isMargin c) {outer outer' inner inner' : Text}
    (houter : SetIn w outer outer') (hinner : SetIn w inner inner')
    (visibleOuter : ¬isEmptyLine outer') (visibleInner : ¬isEmptyLine inner') (more : Text) :
    marginOf inner = marginOf outer ++ more ↔ marginOf inner' = marginOf outer' ++ more := by
  cases houter with
  | blank old new => exact absurd new visibleOuter
  | visible => cases hinner with
    | blank old new => exact absurd new visibleInner
    | visible =>
        rw [marginOf_append hw, marginOf_append hw, List.append_assoc, List.append_cancel_left_eq]

end Body

/-- The sources have the same value, or they fail for the same reason, and they leave the same
store. -/
def EvaluateAlike (source source' : Text) : Prop :=
  ∀ chain store,
    (∃ value after, evaluate source chain store = .ok value after
      ∧ evaluate source' chain store = .ok value after)
    ∨ ∃ fault after, evaluate source chain store = .error (.evaluation source fault) after
      ∧ evaluate source' chain store = .error (.evaluation source' fault) after

/-- A source is read as it is normalized. -/
theorem evaluateAlike_of_normalize {source source' : Text}
    (h : Body.normalize source' = Body.normalize source) : EvaluateAlike source source' := by
  intro chain store
  have hrun : run source' chain = run source chain := by
    have hread : read source' = read source := by rw [read, read, h]
    rw [run, run, hread]
  rw [evaluate, evaluate, hrun]
  cases run source chain store with
  | ok value after => exact .inl ⟨value, after, rfl, rfl⟩
  | error fault after => exact .inr ⟨fault, after, rfl, rfl⟩

/-- **Moving a source changes nothing.** The lines behind the first one are set in by a further
margin, and the blank ones among them are replaced by other blank ones; then the source is normalized
as before, so it has the same value or fails for the same reason. Normalizing takes one margin away
from all lines behind the first that are not blank, and it keeps what sets one of them in further
than another. -/
theorem reindented_evaluateAlike {w first rest rest' : Text} (margin : ∀ c ∈ w, Body.isMargin c)
    (line : '\n' ∉ first) (more : rest ≠ []) (more' : rest' ≠ [])
    (setIn : List.Forall₂ (Body.SetIn w) (Text.pieces '\n' rest) (Text.pieces '\n' rest')) :
    let source := first ++ '\n' :: rest
    let source' := first ++ '\n' :: rest'
    Body.normalize source' = Body.normalize source
    ∧ EvaluateAlike source source'
    ∧ ∃ common lines, (∀ c ∈ common, Body.isMargin c)
      ∧ Text.pieces '\n' (Body.normalize source) = Text.trim first :: lines
      ∧ List.Forall₂ (Body.SetIn common) lines (Text.pieces '\n' rest)
      ∧ ∀ outer ∈ lines.zip (Text.pieces '\n' rest), ∀ inner ∈ lines.zip (Text.pieces '\n' rest),
          ¬Body.isEmptyLine outer.2 → ¬Body.isEmptyLine inner.2 → ∀ deeper,
            Body.marginOf inner.1 = Body.marginOf outer.1 ++ deeper
              ↔ Body.marginOf inner.2 = Body.marginOf outer.2 ++ deeper := by
  intro source source'
  have same : Body.normalize source' = Body.normalize source :=
    Body.normalize_setIn margin line more more' setIn
  have hcommon : ∀ c ∈ Body.margin (Text.pieces '\n' rest), Body.isMargin c :=
    fun c => Body.isMargin_of_mem_margin
  have hlines := Body.setIn_dedentLines (Text.pieces '\n' rest)
  refine ⟨same, evaluateAlike_of_normalize same, _, _, hcommon, Body.pieces_normalize line more,
    hlines, fun outer houter inner hinner => ?_⟩
  exact Body.SetIn.deeper_iff hcommon (List.forall₂_zip hlines houter)
    (List.forall₂_zip hlines hinner)

/-- A tuple over three lines, with a blank one among them, is set in by a tab and loses it again,
together with the two spaces that its lines had in common before. -/
theorem reindented_evaluateAlike_tuple :
    let source := "return (1,\n  2,\n\n   3)".toList
    let source' := "return (1,\n\t  2,\n \t\n\t   3)".toList
    Body.normalize source = "return (1,\n2,\n\n 3)".toList
    ∧ Body.normalize source' = Body.normalize source
    ∧ EvaluateAlike source source' := by
  intro source source'
  let rest := "  2,\n\n   3)".toList
  let rest' := "\t  2,\n \t\n\t   3)".toList
  have lines : Text.pieces '\n' rest
      = [[' ', ' ', '2', ','], [], [' ', ' ', ' ', '3', ')']] := by decide +kernel
  have lines' : Text.pieces '\n' rest'
      = [['\t', ' ', ' ', '2', ','], [' ', '\t'], ['\t', ' ', ' ', ' ', '3', ')']] := by
    decide +kernel
  have setIn : List.Forall₂ (Body.SetIn ['\t']) (Text.pieces '\n' rest)
      (Text.pieces '\n' rest') := by
    rw [lines, lines']
    exact .cons (.visible (by decide)) <| .cons (.blank rfl (by decide)) <|
      .cons (.visible (by decide)) .nil
  obtain ⟨same, alike, -⟩ := @reindented_evaluateAlike ['\t'] "return (1,".toList rest rest'
    (List.forall_mem_singleton.2 rfl) (by decide +kernel) (by decide +kernel) (by decide +kernel)
    setIn
  exact ⟨by decide +kernel, same, alike⟩

end Stencil.Script
