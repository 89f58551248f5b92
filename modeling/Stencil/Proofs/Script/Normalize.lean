import Stencil.Proofs.Script.Dedent
import Stencil.Proofs.Text.Lines
import Stencil.Proofs.Text.Split
import Stencil.Script.Language

/-!
# Sources as they stand

A source is read after its first line was trimmed and its other lines were moved to the left. This
says when that makes no difference: a source that can be read with care (`Body.IsKept`) and whose
first line is not set in (`Body.IsFlush`) is evaluated as it stands
(`evaluate_eq_evaluateBody`).
-/

namespace Stencil.Script

open Text (unifyLineEnds unifyLineEnds_append exists_unifyLineEnds_line)

/-! ### The last line end -/

namespace Body

variable {s t : Text}

/-- The lines behind a line end, the last one with an end of its own unless it is empty. -/
def endRest (text : Text) : Text :=
  if text.isEmpty then [] else endLine text

/-- Only the end of a text decides about the line end that is added. -/
theorem endLine_append (s : Text) (h : t ≠ []) : endLine (s ++ t) = s ++ endLine t := by
  have hlast : (s ++ t).getLast? = t.getLast? := by
    rw [List.getLast?_append, List.getLast?_eq_some_getLast h]
    rfl
  rw [endLine, endLine, hlast]
  split
  · rfl
  · rw [List.append_assoc]

theorem endRest_append (s : Text) (h : t ≠ []) : endRest (s ++ t) = s ++ endRest t := by
  rw [endRest, if_neg (by simp [h]), endRest, if_neg (by simp [h]), endLine_append s h]

theorem endLine_append_newline (s t : Text) :
    endLine (s ++ '\n' :: t) = s ++ '\n' :: endRest t := by
  cases t with
  | nil => simp [endLine, endRest]
  | cons c t =>
      rw [← List.singleton_append, ← List.append_assoc, endLine_append _ (List.cons_ne_nil c t),
        List.append_assoc]
      rfl

theorem endRest_append_newline (s t : Text) :
    endRest (s ++ '\n' :: t) = s ++ '\n' :: endRest t := by
  rw [endRest, if_neg (by simp), endLine_append_newline]

/-- A text whose last character is no blank gets a line end. -/
theorem endLine_of_last (last : ∀ c ∈ s.getLast?, ¬isBlank c) : endLine s = s ++ ['\n'] := by
  rw [endLine, if_neg]
  exact fun h => last '\n' h (by decide)

/-- Blanks at the end of a text are blanks at the end of its last line. -/
theorem exists_endLine_append (last : ∀ c ∈ s.getLast?, ¬isBlank c) (blank : ∀ c ∈ t, isBlank c) :
    ∃ blanks, (∀ c ∈ blanks, isBlank c) ∧ endLine (s ++ t) = s ++ (blanks ++ ['\n']) := by
  rw [endLine]
  split
  · rename_i ends
    have nonempty : t ≠ [] := by
      rintro rfl
      rw [List.append_nil] at ends
      exact last '\n' ends (by decide)
    refine ⟨t.dropLast, fun c hc => blank c ((List.dropLast_sublist t).mem hc), ?_⟩
    rw [List.getLast?_append, List.getLast?_eq_some_getLast nonempty] at ends
    have hlast : t.getLast nonempty = '\n' := Option.some.inj ends
    rw [← hlast, List.dropLast_concat_getLast nonempty]
  · exact ⟨t, blank, by rw [List.append_assoc]⟩

/-! ### The margin -/

theorem mem_of_mem_commonStart {c : Char} (h : c ∈ commonStart s t) : c ∈ s := by
  fun_induction commonStart s t with
  | case1 a s t ih => exact (List.mem_cons.1 h).elim (· ▸ List.mem_cons_self) (.tail _ <| ih ·)
  | case2 => cases h
  | case3 => cases h

/-- A margin consists of blanks and tabs. -/
theorem isMargin_of_mem_margin {lines : List Text} {c : Char} (h : c ∈ margin lines) :
    isMargin c := by
  have start {first : Text} {rest : List Text} (h : c ∈ rest.foldl commonStart first) :
      c ∈ first := by
    induction rest generalizing first with
    | nil => exact h
    | cons line rest ih => exact mem_of_mem_commonStart (ih h)
  rw [margin] at h
  split at h
  · cases h
  · rename_i first rest heq
    have hfirst : first ∈ ((lines.filter (!isEmptyLine ·)).map marginOf) := by
      rw [heq]
      exact List.mem_cons_self
    obtain ⟨line, -, rfl⟩ := List.mem_map.1 hfirst
    exact List.all_eq_true.1 List.all_takeWhile c (start h)

/-- What a line becomes when lines lose a margin. -/
def changeLine (margin line : Text) : Text :=
  removeMargin margin (if isEmptyLine line then [] else line)

/-- The margin that lines lose. -/
def marginOfLines (lines : List Text) : Text :=
  margin (lines.map fun line => if isEmptyLine line then [] else line)

theorem dedentLines_eq (lines : List Text) :
    dedentLines lines = lines.map (changeLine (marginOfLines lines)) := by
  rw [dedentLines, List.map_map]
  rfl

/-- A line is emptied, or it stays, or it is moved. -/
theorem changeLine_cases {margin : Text} (hmargin : ∀ c ∈ margin, isMargin c) (line : Text) :
    (∀ c ∈ line, isMargin c) ∧ changeLine margin line = []
    ∨ changeLine margin line = line
    ∨ ∃ rest, rest ≠ [] ∧ line = margin ++ rest ∧ changeLine margin line = rest := by
  rw [changeLine]
  split
  · rename_i blank
    refine .inl ⟨List.all_eq_true.1 blank, ?_⟩
    rw [removeMargin, List.drop_nil, ite_self]
  · rename_i visible
    rw [removeMargin]
    split
    · rename_i found
      obtain ⟨rest, rfl⟩ := List.isPrefixOf_iff_prefix.1 found
      refine .inr (.inr ⟨rest, ?_, rfl, List.drop_left⟩)
      rintro rfl
      rw [List.append_nil] at visible
      exact visible (List.all_eq_true.2 hmargin)
    · exact .inr (.inl rfl)

/-! ### The lines behind the first -/

/-- The lines behind the first as the lexer gets them. -/
def behindFirst (text : Text) : Text :=
  endRest (unifyLineEnds text)

/-- Margins have no line ends to unify. -/
theorem unifyLineEnds_margin {blanks : Text} (blank : ∀ c ∈ blanks, isMargin c) (t : Text) :
    unifyLineEnds (blanks ++ t) = blanks ++ unifyLineEnds t := by
  induction blanks with
  | nil => rfl
  | cons c blanks ih =>
      obtain ⟨hc, hblanks⟩ := List.forall_mem_cons.1 blank
      have hne : c ≠ '\r' := by
        rintro rfl
        cases hc
      rw [List.cons_append, Text.unifyLineEnds_cons fun h => absurd h hne, if_neg hne, ih hblanks,
        List.cons_append]

theorem unifyLineEnds_ne_nil (h : t ≠ []) : unifyLineEnds t ≠ [] := by
  fun_cases unifyLineEnds t with
  | case1 => exact absurd rfl h
  | case2 => simp
  | case3 => simp

theorem behindFirst_margin {blanks : Text} (blank : ∀ c ∈ blanks, isMargin c) (h : t ≠ []) :
    behindFirst (blanks ++ t) = blanks ++ behindFirst t := by
  rw [behindFirst, unifyLineEnds_margin blank, endRest_append _ (unifyLineEnds_ne_nil h)]
  rfl

theorem exists_behindFirst_line (s : Text) :
    ∃ line, ∀ t, behindFirst (s ++ '\n' :: t) = line ++ '\n' :: behindFirst t := by
  obtain ⟨line, hline, -⟩ := exists_unifyLineEnds_line s
  refine ⟨line, fun t => ?_⟩
  rw [behindFirst, hline, endRest_append_newline]
  rfl

theorem behindFirst_blankLine {blanks : Text} (blank : ∀ c ∈ blanks, isMargin c) (t : Text) :
    behindFirst (blanks ++ '\n' :: t) = blanks ++ '\n' :: behindFirst t := by
  have hline : unifyLineEnds ('\n' :: t) = '\n' :: unifyLineEnds t :=
    Text.unifyLineEnds_cons fun h => absurd h (by decide)
  rw [behindFirst, unifyLineEnds_margin blank, hline, endRest_append_newline]
  rfl

theorem behindFirst_blank {blanks : Text} (blank : ∀ c ∈ blanks, isMargin c) (h : blanks ≠ []) :
    behindFirst blanks = blanks ++ ['\n'] := by
  have hunify := unifyLineEnds_margin blank []
  rw [List.append_nil, unifyLineEnds, List.append_nil] at hunify
  rw [behindFirst, hunify, endRest, if_neg (by simp [h]), endLine, if_neg]
  intro ends
  cases blank '\n' (List.mem_of_getLast? ends)

end Body

/-! ### Lines that are moved -/

namespace Lexeme

open Body (behindFirst changeLine)

variable {margin : Text} {far : Nat} {old new : Text}

/-- The same characters in front of two texts, where nothing is moved. -/
theorem Dedents.append_left (front : Text) (h : Dedents margin far false old new) :
    Dedents margin far false (front ++ old) (front ++ new) := by
  induction front with
  | nil => exact h
  | cons c front ih =>
      by_cases newline : c = '\n'
      · subst newline
        exact .lineEnd (.same ih)
      · exact .char newline ih

theorem Dedents.refl (text : Text) : Dedents margin far false text text := by
  have := (Dedents.nil : Dedents margin far false [] []).append_left text
  rwa [List.append_nil] at this

/-- What a line becomes, in front of what the text behind it becomes. -/
theorem Dedents.innerLine (hmargin : ∀ c ∈ margin, Body.isMargin c) (line : Text)
    (near : (behindFirst (line ++ '\n' :: old)).length ≤ far)
    (more : Dedents margin far true (behindFirst old) (behindFirst new)) :
    Dedents margin far true (behindFirst (line ++ '\n' :: old))
      (behindFirst (changeLine margin line ++ '\n' :: new)) := by
  rcases Body.changeLine_cases hmargin line with ⟨blank, hline⟩ | hline | ⟨rest, -, rfl, hline⟩
  · have hnew : behindFirst ([] ++ '\n' :: new) = [] ++ '\n' :: behindFirst new :=
      Body.behindFirst_blankLine (by simp) new
    rw [Body.behindFirst_blankLine blank] at near ⊢
    rw [hline, hnew]
    exact .emptied blank near more
  · obtain ⟨read, hread⟩ := Body.exists_behindFirst_line line
    rw [hline, hread, hread]
    exact .same (more.lineEnd.append_left read)
  · obtain ⟨read, hread⟩ := Body.exists_behindFirst_line rest
    rw [List.append_assoc, Body.behindFirst_margin hmargin (by simp), hread] at near ⊢
    rw [hline, hread]
    exact .moved near (more.lineEnd.append_left read)

/-- What the last line becomes. -/
theorem Dedents.lastLine (hmargin : ∀ c ∈ margin, Body.isMargin c) (line : Text)
    (near : (behindFirst line).length ≤ far) :
    Dedents margin far true (behindFirst line) (behindFirst (changeLine margin line)) := by
  rcases Body.changeLine_cases hmargin line with ⟨blank, hline⟩ | hline |
    ⟨rest, nonempty, rfl, hline⟩
  · rw [hline]
    by_cases empty : line = []
    · rw [empty]
      exact .same (.refl _)
    · rw [Body.behindFirst_blank blank empty]
      exact .dropped blank
  · rw [hline]
    exact .same (.refl _)
  · rw [Body.behindFirst_margin hmargin nonempty] at near ⊢
    rw [hline]
    exact .moved near (.refl _)

/-- What lines become that lose a margin. -/
theorem Dedents.allLines (hmargin : ∀ c ∈ margin, Body.isMargin c) {lines : List Text}
    (nonempty : lines ≠ []) (near : (behindFirst (Text.join ['\n'] lines)).length ≤ far) :
    Dedents margin far true (behindFirst (Text.join ['\n'] lines))
      (behindFirst (Text.join ['\n'] (lines.map (changeLine margin)))) := by
  induction lines with
  | nil => exact absurd rfl nonempty
  | cons line more ih =>
      cases more with
      | nil => exact .lastLine hmargin line near
      | cons second more =>
          have hjoin (first second : Text) (more : List Text) :
              Text.join ['\n'] (first :: second :: more)
                = first ++ '\n' :: Text.join ['\n'] (second :: more) := by
            rw [Text.join_cons _ _ (List.cons_ne_nil second more), List.append_assoc]
            rfl
          rw [hjoin] at near ⊢
          rw [List.map_cons, List.map_cons, hjoin]
          refine .innerLine hmargin line near (ih (List.cons_ne_nil second more) ?_)
          obtain ⟨read, hread⟩ := Body.exists_behindFirst_line line
          rw [hread, List.length_append, List.length_cons] at near
          omega

end Lexeme

/-! ### The first line -/

namespace Body

open Lexeme (Dedents Reads)

variable {source : Text}

/-- The first line of a source is not set in, or it is blank. -/
def IsFlush (source : Text) : Prop :=
  (∀ c ∈ source.head?, ¬isBlank c) ∨ ∀ c ∈ (Text.breakAt ['\n'] source).1, isBlank c

/-- The margin that the lines of a source lose. -/
def marginOfSource (source : Text) : Text :=
  marginOfLines (Text.pieces '\n' (Text.breakAt ['\n'] source).2)

/-- The length of a source behind its first line. -/
def lengthBehindFirst (source : Text) : Nat :=
  (behindFirst (Text.breakAt ['\n'] source).2).length

theorem breakAt_cases (source : Text) :
    Text.breakAt ['\n'] source = (source, [])
    ∨ ∃ first rest, Text.breakAt ['\n'] source = (first, rest) ∧ source = first ++ '\n' :: rest := by
  rw [Text.breakAt]
  cases hcut : Text.splitAt? ['\n'] source with
  | none => exact .inl rfl
  | some cut =>
      obtain ⟨first, rest⟩ := cut
      refine .inr ⟨first, rest, rfl, ?_⟩
      rw [← Text.splitAt?_eq_some hcut, List.append_assoc]
      rfl

/-- A source that is not set in begins with its first line trimmed. -/
theorem IsFlush.exists_first (h : IsFlush source) :
    ∃ blanks, (Text.breakAt ['\n'] source).1 = Text.trim (Text.breakAt ['\n'] source).1 ++ blanks
      ∧ ∀ c ∈ blanks, isBlank c := by
  rcases h with head | blank
  · have hfirst : ∀ c ∈ (Text.breakAt ['\n'] source).1.head?, ¬isBlank c := by
      rcases breakAt_cases source with hbreak | ⟨first, rest, hbreak, hsource⟩
      · rwa [hbreak]
      · rw [hbreak]
        intro c hc
        refine head c ?_
        rw [hsource, List.head?_append, Option.mem_def.1 hc]
        rfl
    obtain ⟨blanks, hstart, hblanks⟩ := Text.exists_trim_append (Text.breakAt ['\n'] source).1
    rw [Text.trimStart_of_first hfirst] at hstart
    exact ⟨blanks, hstart.symm, hblanks⟩
  · refine ⟨_, ?_, blank⟩
    rw [Text.trim, Text.trimStart_of_blank blank]
    rfl

section

variable {line blanks : Text} (last : ∀ c ∈ line.getLast?, ¬isBlank c)
  (blank : ∀ c ∈ blanks, isBlank c)

include last

theorem unifyLineEnds_append_of_last (t : Text) :
    unifyLineEnds (line ++ t) = unifyLineEnds line ++ unifyLineEnds t :=
  unifyLineEnds_append fun h => absurd (by decide) (last '\r' h)

theorem endLine_unifyLineEnds_newline (t : Text) :
    endLine (unifyLineEnds (line ++ '\n' :: t)) = unifyLineEnds line ++ '\n' :: behindFirst t := by
  have hnewline : unifyLineEnds ('\n' :: t) = '\n' :: unifyLineEnds t :=
    Text.unifyLineEnds_cons fun h => absurd h (by decide)
  rw [unifyLineEnds_append_of_last last, hnewline, endLine_append_newline]
  rfl

theorem endLine_unifyLineEnds : endLine (unifyLineEnds line) = unifyLineEnds line ++ ['\n'] :=
  endLine_of_last (by rwa [Text.getLast?_unifyLineEnds last])

include blank

/-- Blanks at the end of a source without further lines. -/
theorem exists_endLine_blanks :
    ∃ blanks', (∀ c ∈ blanks', isBlank c)
      ∧ endLine (unifyLineEnds (line ++ blanks)) = unifyLineEnds line ++ (blanks' ++ ['\n']) := by
  rw [unifyLineEnds_append_of_last last]
  refine exists_endLine_append (by rwa [Text.getLast?_unifyLineEnds last]) fun c hc => ?_
  rcases Text.mem_of_mem_unifyLineEnds hc with rfl | hc
  · decide
  · exact blank c hc

/-- Blanks at the end of the first line. -/
theorem exists_endLine_blanks_newline :
    ∃ blanks', (∀ c ∈ blanks', isBlank c) ∧ ∀ t,
      endLine (unifyLineEnds (line ++ blanks ++ '\n' :: t))
        = unifyLineEnds line ++ (blanks' ++ '\n' :: behindFirst t) := by
  obtain ⟨blanks', hline, hmem⟩ := exists_unifyLineEnds_line blanks
  refine ⟨blanks', fun c hc => ?_, fun t => ?_⟩
  · rcases hmem c hc with rfl | hc
    · decide
    · exact blank c hc
  · rw [List.append_assoc, unifyLineEnds_append_of_last last, hline, ← List.append_assoc,
      endLine_append_newline, List.append_assoc]
    rfl

end

/-- **What a source becomes** before it is read: its lines are moved, and its first line loses the
blanks at its end. -/
theorem dedents_normalize (flush : IsFlush source) :
    Dedents (marginOfSource source) (lengthBehindFirst source) false
      (endLine (unifyLineEnds source)) (endLine (unifyLineEnds (normalize source))) := by
  -- The first line loses the blanks at its end only: it was not set in.
  obtain ⟨blanks, hfirst, hblanks⟩ := flush.exists_first
  have hlast : ∀ c ∈ (Text.trim (Text.breakAt ['\n'] source).1).getLast?, ¬isBlank c :=
    Text.trimmed_trim.last
  rw [marginOfSource, lengthBehindFirst, normalize]
  rcases breakAt_cases source with hbreak | ⟨first, rest, hbreak, hsource⟩
  · rw [hbreak] at hfirst hlast ⊢
    obtain ⟨blanks', hblanks', hold⟩ := exists_endLine_blanks hlast hblanks
    show Dedents _ 0 false (endLine (unifyLineEnds source))
      (endLine (unifyLineEnds (Text.trim source)))
    rw [endLine_unifyLineEnds hlast]
    rw [← hfirst] at hold
    rw [hold]
    exact .append_left _ (.firstEnd hblanks' rfl (.same .nil))
  · rw [hbreak] at hfirst hlast ⊢
    dsimp only at hfirst hlast ⊢
    obtain ⟨blanks', hblanks', hold⟩ := exists_endLine_blanks_newline hlast hblanks
    have hnew : endLine (unifyLineEnds
        (if rest.isEmpty then Text.trim first else Text.trim first ++ '\n' :: dedent rest))
          = unifyLineEnds (Text.trim first) ++ '\n' :: behindFirst (dedent rest) := by
      split
      · rename_i empty
        rw [endLine_unifyLineEnds hlast, List.isEmpty_iff.1 empty]
        rfl
      · exact endLine_unifyLineEnds_newline hlast (dedent rest)
    have hrest : Dedents (marginOfLines (Text.pieces '\n' rest)) (behindFirst rest).length true
        (behindFirst rest) (behindFirst (dedent rest)) := by
      have hmargin : ∀ c ∈ marginOfLines (Text.pieces '\n' rest), isMargin c :=
        fun c => isMargin_of_mem_margin
      have hlines := Dedents.allLines hmargin (Text.pieces_ne_nil '\n' rest)
        (by rw [Text.join_pieces])
      rwa [Text.join_pieces, ← dedentLines_eq] at hlines
    rw [← hfirst] at hold
    rw [hnew, hsource, hold]
    exact .append_left _ (.firstEnd hblanks' rfl hrest)

/-- A source can be read with care: no statement begins on a line that is moved, no literal goes over
the end of a line that changes, and no backslash joins a blank line. -/
def IsKept (source : Text) : Prop :=
  ∃ lexemes, Reads (.dedent (marginOfSource source) (lengthBehindFirst source)) {}
    (endLine (unifyLineEnds source)) lexemes

/-- The source is read as the same lexemes as it stands and as it is normalized. -/
theorem IsKept.exists_lexemes (flush : IsFlush source) (kept : IsKept source) :
    ∃ lexemes, Lexeme.ofSource? (endLine (unifyLineEnds source)) = some lexemes
      ∧ Lexeme.ofSource? (endLine (unifyLineEnds (normalize source))) = some lexemes := by
  obtain ⟨lexemes, reads⟩ := kept
  have hnew := reads.dedents (fun c => isMargin_of_mem_margin) (.start (dedents_normalize flush))
  refine ⟨lexemes, reads.scan?_eq ?_, Lexeme.ofSource?_eq_some_iff.2 hnew⟩
  show 2 * _ + 2 ≤ 2 * _ + 4
  omega

/-- A character that is no line end stands in a source just when the lexer gets it. -/
theorem mem_endLine_unifyLineEnds {c : Char} (hreturn : c ≠ '\r') (hfeed : c ≠ '\n') (t : Text) :
    c ∈ endLine (unifyLineEnds t) ↔ c ∈ t := by
  have hend (s : Text) : c ∈ endLine s ↔ c ∈ s := by
    rw [endLine]
    split
    · rfl
    · simp [hfeed]
  rw [hend]
  exact ⟨fun h => (Text.mem_of_mem_unifyLineEnds h).resolve_left hfeed,
    fun h => Text.mem_unifyLineEnds h hreturn⟩

theorem contains_normalize (flush : IsFlush source) :
    (normalize source).contains '\x00' = source.contains '\x00' := by
  have hmoved := dedents_normalize flush
  have hmem (t : Text) := mem_endLine_unifyLineEnds (c := '\x00') (by decide) (by decide) t
  rw [Bool.eq_iff_iff, List.contains_iff_mem, List.contains_iff_mem, ← hmem, ← hmem source]
  exact ⟨hmoved.mem_of_mem _, fun h =>
    hmoved.mem_of_not_isBlank (fun c => isMargin_of_mem_margin) h (by decide)⟩

end Body

/-! ### Evaluation -/

/-- The statements of a source as it stands. A null character cannot stand in a script. -/
def readBody (source : Text) : Except Fault (List Statement) :=
  if source.contains '\x00' then .error (.value "source code string cannot contain null bytes")
  else match ofSource? (Body.endLine (unifyLineEnds source)) with
    | some statements => .ok statements
    | none => .error .malformed

/-- The value of a source in a scope, as the body of a function of the variables of the scope. -/
def runBody (source : Text) (chain : Chain) : Eval Value := do
  let scope ← Eval.scope chain
  let names := parameters scope
  let statements ← Eval.ofExcept (readBody source)
  let statements ← Eval.ofExcept (check names statements)
  let values := arguments scope chain
  runScript statements ⟨values.keys ++ namesOfStatements statements, values⟩

/-- The value of a source as it stands, with the source in every failure. -/
def evaluateBody (source : Text) (chain : Chain) : EStateM Failure Store Value := fun store =>
  match runBody source chain store with
  | .ok value store => .ok value store
  | .error fault store => .error (.evaluation source fault) store

/-- **Normalization changes nothing about how a source is read** if its margins can be taken off and
no literal runs over several lines. -/
theorem read_eq_readBody {source : Text} (flush : Body.IsFlush source) (kept : Body.IsKept source) :
    read source = readBody source := by
  obtain ⟨lexemes, hold, hnew⟩ := kept.exists_lexemes flush
  have hstatements : ofSource? (Body.endLine (unifyLineEnds (Body.normalize source)))
      = ofSource? (Body.endLine (unifyLineEnds source)) := by
    rw [ofSource?, ofSource?, hold, hnew]
  rewrite [read, readBody, Body.contains_normalize flush, hstatements]
  rfl

/-- **Normalizing a source changes nothing** if its first line is not set in and it can be read with
care: it has the value, or the failure, and leaves the store that it has as it stands. -/
theorem evaluate_eq_evaluateBody {source : Text} (flush : Body.IsFlush source)
    (kept : Body.IsKept source) (chain : Chain) :
    evaluate source chain = evaluateBody source chain := by
  have hrun : run source chain = runBody source chain := by
    rw [run, runBody, read_eq_readBody flush kept]
  funext store
  rewrite [evaluate, evaluateBody, hrun]
  rfl

/-- A tuple whose second line is set in can be read with care. -/
theorem Body.isKept_longTuple : Body.IsKept "return (1,\n  2)".toList := by
  have hlength : Body.lengthBehindFirst "return (1,\n  2)".toList = 5 := by decide +kernel
  have hread : Body.endLine (unifyLineEnds "return (1,\n  2)".toList)
      = ['r', 'e', 't', 'u', 'r', 'n', ' ', '(', '1', ',', '\n', ' ', ' ', '2', ')', '\n'] := by
    decide +kernel
  have inside : ¬(⟨[], 1, false⟩ : Lexeme.Reading).atLineStart := by decide
  rw [Body.IsKept, hlength, hread]
  refine ⟨[.name ['r', 'e', 't', 'u', 'r', 'n'], .sign ['('], .constant (.int 1), .sign [','],
    .constant (.int 2), .sign [')'], .lineEnd], ?_⟩
  refine .firstLine (by decide) (by decide) (by decide) (Or.inr (by decide)) ?_
  refine .word ['r', 'e', 't', 'u', 'r', 'n'] rfl rfl (by decide) (.space (by decide) (by decide) ?_)
  refine .word ['('] rfl rfl (by decide) ?_
  refine .word ['1'] rfl rfl (by decide) ?_
  refine .word [','] rfl rfl (by decide) (.bracketed inside (by decide) ?_)
  refine .space inside (by decide) (.space inside (by decide) ?_)
  refine .word ['2'] rfl rfl (by decide) ?_
  refine .word [')'] rfl rfl (by decide) ?_
  exact .lineEnd (.lastLine rfl (by simp) rfl)

/-- The tuple loses its margin and is evaluated as it stands. -/
theorem evaluate_eq_evaluateBody_longTuple :
    Body.normalize "return (1,\n  2)".toList = "return (1,\n2)".toList
    ∧ evaluate "return (1,\n  2)".toList (emptyScope {}).1
      = evaluateBody "return (1,\n  2)".toList (emptyScope {}).1 := by
  have first : ∀ c ∈ "return (1,\n  2)".toList.head?, ¬isBlank c := by
    intro c hc
    obtain rfl : 'r' = c := Option.some.inj hc
    decide
  exact ⟨by decide +kernel,
    evaluate_eq_evaluateBody (.inl first) Body.isKept_longTuple (emptyScope {}).1⟩

/-- The text that an evaluation yields, if it yields one. -/
def textOf? : EStateM.Result Failure Store Value → Option Text
  | .ok (.text value) _ => some value
  | _ => none

/-- Without care the meaning changes: a literal loses the margin of its second line. -/
theorem evaluate_ne_evaluateBody_literal :
    textOf? (evaluateBody "return \"\"\"a\n  b\"\"\"".toList (emptyScope {}).1 (emptyScope {}).2)
      = some "a\n  b".toList
    ∧ textOf? (evaluate "return \"\"\"a\n  b\"\"\"".toList (emptyScope {}).1 (emptyScope {}).2)
      = some "a\nb".toList := by
  decide +kernel

end Stencil.Script
