import Stencil.Proofs.Script.Normalize
import Stencil.Proofs.Script.Result
import Stencil.Proofs.Script.Variables
import Stencil.Script.Source

/-!
# Expressions on one line

The expression that a text on one line is (`Expr.ofText?`), and its value in a scope
(`Expr.valueIn`). The source that returns such an expression has the same value
(`evaluate_returning`), however many blanks stand around the expression.
-/

namespace Stencil.Script

/-- The expression that a text on one line is, if it is one. Blanks may stand around it. -/
def Expr.ofText? (text : Text) : Option Expr :=
  if text.contains '\x00' then none
  else do
    let lexemes ← Lexeme.scan? (2 * text.length + 4) { atLineStart := false } (text ++ ['\n'])
    let (found, rest) ← Grammar.expressions (30 * (lexemes.length + 2)) lexemes
    match rest with
    | [.lineEnd] => some found
    | _ => none

/-- The value of an expression, whose variables are those of a scope. -/
def Expr.valueIn (found : Expr) (chain : Chain) : Eval Value := do
  let scope ← Eval.scope chain
  let values := arguments scope chain
  found.eval ⟨values.keys, values⟩

namespace Lexeme

variable {care : Care} {reading : Reading} {c : Char} {text rest blanks : Text}
  {lexemes : List Lexeme}

/-! ### Blanks around an expression -/

/-- Blanks on one line can be left out in front of a text. -/
theorem Reads.of_blanks (h : Reads care reading (blanks ++ rest) lexemes)
    (inside : ¬reading.atLineStart) (blank : ∀ c ∈ blanks, isBlank c) (line : '\n' ∉ blanks) :
    Reads care reading rest lexemes := by
  induction blanks with
  | nil => exact h
  | cons c blanks ih =>
      obtain ⟨hc, hblanks⟩ := List.forall_mem_cons.1 blank
      obtain ⟨hne, hline⟩ := not_or.1 (mt List.mem_cons.2 line)
      exact ih (h.of_isBlank inside hc (Ne.symm hne)).2 hblanks hline

/-- A line end stands only at the end of the text. -/
def IsLine (text : Text) : Prop :=
  ∀ front back, text = front ++ '\n' :: back → back = []

theorem IsLine.of_append {front : Text} (h : IsLine (front ++ rest)) : IsLine rest :=
  fun front' back heq => h (front ++ front') back (by rw [heq, List.append_assoc])

theorem IsLine.tail (h : IsLine (c :: rest)) : IsLine rest :=
  fun front back heq => h (c :: front) back (by rw [heq, List.cons_append])

/-- A comment goes to the end of its line, so nothing is left behind it but the end. -/
theorem IsLine.afterComment (h : IsLine text) : IsLine (afterComment text) := by
  have htext : text = text.takeWhile (· ≠ '\n') ++ Lexeme.afterComment text :=
    List.takeWhile_append_dropWhile.symm
  rw [htext] at h
  exact h.of_append

theorem isLine_append_newline (h : '\n' ∉ text) : IsLine (text ++ ['\n']) := by
  intro front back heq
  rcases List.eq_nil_or_concat back with rfl | ⟨more, last, rfl⟩
  · rfl
  · rw [List.concat_eq_append, ← List.cons_append, ← List.append_assoc] at heq
    have htext : text = front ++ '\n' :: more := (List.append_inj' heq rfl).1
    rw [htext] at h
    simp at h

/-- Within one line every reading is made with care. -/
theorem Reads.careful (h : Reads .none reading text lexemes) (line : IsLine text) :
    Reads (.dedent [] 0) reading text lexemes := by
  induction h with
  | lastLine start blank finish => exact .lastLine start blank finish
  | emptyLine start blank more ih => exact .emptyLine start blank (ih line.of_append.tail)
  | commentLine start blank more ih =>
      exact .commentLine start blank (ih line.of_append.tail.afterComment)
  | line blank visible open_ code align few careful more ih =>
      exact .line blank visible open_ code align few (.inl rfl) (ih line.of_append)
  | finish inside finish => exact .finish inside finish
  | space inside blank more ih => exact .space inside blank (ih line.tail)
  | comment inside more ih => exact .comment inside (ih line.tail.afterComment)
  | bracketed inside open_ more ih => exact .bracketed inside open_ (ih line.tail)
  | lineEnd more ih => exact .lineEnd (ih line.tail)
  | joined inside nonempty careful more ih => exact absurd (line ['\\'] _ rfl) nonempty
  | @lexeme blocks brackets inner text piece rest lexeme lexemes text_eq next brackets_eq careful more
      ih =>
      rw [text_eq] at line
      refine .lexeme text_eq next brackets_eq ?_ (ih line.of_append)
      -- A piece does not end in a line end, and there is no other line end in the text.
      intro front back hpiece
      have hrest : back ++ rest = [] := line front _ (by rw [hpiece, List.append_assoc]; rfl)
      obtain ⟨p, firm, hp, -⟩ := exists_next next
      obtain rfl : p = piece := List.append_cancel_right (hp.symm.trans text_eq)
      refine absurd (firm.last '\n' ?_) (by decide)
      rw [hpiece, (List.append_eq_nil_iff.1 hrest).1]
      simp

/-- Blanks around a text do not change what it is read as. -/
theorem Reads.trim {blocks : List (Nat × Nat)} {brackets : Nat} (line : '\n' ∉ text)
    (h : Reads .none ⟨blocks, brackets, false⟩ (text ++ ['\n']) lexemes) :
    Reads .none ⟨blocks, brackets, false⟩ (Text.trim text ++ ['\n']) lexemes := by
  obtain ⟨⟨left, right, htext, hleft, hright⟩, -, -⟩ : Text.Trimmed text (Text.trim text) :=
    Text.trimmed_trim
  generalize Text.trim text = content at htext ⊢
  subst htext
  simp only [List.mem_append, not_or] at line
  rw [List.append_assoc, List.append_assoc] at h
  -- On one line every reading is made with care, so the blanks behind the content go like those at
  -- the end of a first line, with no margin and no further lines.
  have careful : Reads (.dedent [] 0) ⟨blocks, brackets, false⟩ (content ++ (right ++ ['\n']))
      lexemes := by
    refine (h.of_blanks Bool.false_ne_true hleft line.1.1).careful ?_
    rw [← List.append_assoc]
    exact isLine_append_newline (by simp [line])
  have ends : Dedents [] 0 false (right ++ ['\n']) ['\n'] := .firstEnd hright rfl (.same .nil)
  exact careful.dedents (by simp) ((ends.append_left content).trails _)

/-! ### The source that returns an expression -/

theorem next?_return (text : Text) :
    next? ("return".toList ++ ' ' :: text) = some (.name "return".toList, ' ' :: text) := by
  have hspace : isWordLike ' ' = false ∧ isQuote ' ' = false := by decide +kernel
  exact next?_name (by decide +kernel) hspace.1 hspace.2

/-- What stands behind `return` is read as it would be alone. -/
theorem reads_return (h : Reads .none ⟨[], 0, false⟩ text lexemes) :
    Reads .none {} ("return".toList ++ ' ' :: text) (Grammar.returnLine lexemes) := by
  refine .firstLine (by decide) (by decide) (by decide) trivial ?_
  have htext : "return".toList ++ ' ' :: text = "return".toList ++ ' ' :: text := rfl
  exact .lexeme htext (next?_return text) rfl trivial (.space Bool.false_ne_true rfl h)

end Lexeme

open Lexeme (Reads)

variable {text : Text} {found : Expr}

/-- The lexemes of an expression on one line. -/
theorem Expr.exists_lexemes (h : Expr.ofText? text = some found) :
    '\x00' ∉ text ∧ ∃ lexemes, Reads .none ⟨[], 0, false⟩ (text ++ ['\n']) lexemes
      ∧ Grammar.expressions (30 * (lexemes.length + 2)) lexemes = some (found, [.lineEnd]) := by
  obtain ⟨hnull, h⟩ := Option.ite_none_left_eq_some.1 h
  obtain ⟨lexemes, hscan, h⟩ := Option.bind_eq_some_iff.1 h
  obtain ⟨⟨first, rest⟩, hexpressions, h⟩ := Option.bind_eq_some_iff.1 h
  refine ⟨by simpa using hnull, lexemes, Lexeme.reads_of_scan? hscan, ?_⟩
  dsimp only at h
  split at h
  · cases h
    exact hexpressions
  · cases h

/-- The source that returns what a text stands for. -/
def returning (text : Text) : Text :=
  "return".toList ++ ' ' :: text

/-- Preparing a text without a semicolon makes a source that returns it. -/
theorem prepare_trim (line : '\n' ∉ text) (noSemicolon : ';' ∉ text) :
    prepare (Text.trim text) = returning (Text.trim text) := by
  have single : isExpression (Text.trim text) = true := by
    simp [isExpression, mt Text.mem_of_mem_trim line, mt Text.mem_of_mem_trim noSemicolon]
  rw [prepare, if_pos single]
  rfl

/-- An expression is not blank. -/
theorem Expr.trim_ne_nil (h : Expr.ofText? text = some found) (line : '\n' ∉ text) :
    Text.trim text ≠ [] := by
  intro empty
  obtain ⟨-, lexemes, hreads, hexpressions⟩ := Expr.exists_lexemes h
  have htrim := hreads.trim line
  rw [empty] at htrim
  have hscan : Lexeme.scan? 3 ⟨[], 0, false⟩ ([] ++ ['\n']) = some lexemes :=
    htrim.scan?_eq (by decide)
  obtain rfl : [Lexeme.lineEnd] = lexemes := Option.some.inj hscan
  have begins := Grammar.mayBegin_of_expressions hexpressions
  cases begins

/-- A single line has no margin to lose. -/
theorem normalize_of_line {source : Text} (line : '\n' ∉ source)
    (first : ∀ c ∈ source.head?, ¬isBlank c) (last : ∀ c ∈ source.getLast?, ¬isBlank c) :
    Body.normalize source = source := by
  have hcut : Text.splitAt? ['\n'] source = none := by
    rw [Text.splitAt?_eq_none_iff]
    exact Text.not_isInfix_of_forall_not_mem (by simp) (by simpa using line)
  rw [Body.normalize, Text.breakAt, hcut]
  show Text.trim source = source
  rw [Text.trim_eq_iff]
  exact ⟨⟨[], [], by simp, by simp, by simp⟩, first, last⟩

/-- **The source that returns an expression** is read as the statement that does. -/
theorem read_returning (h : Expr.ofText? text = some found) (line : '\n' ∉ text)
    (noReturn : '\r' ∉ text) : read (returning (Text.trim text)) = .ok [.result (some found)] := by
  obtain ⟨hnull, lexemes, hreads, hexpressions⟩ := Expr.exists_lexemes h
  have last : ∀ c ∈ (Text.trim text).getLast?, ¬isBlank c :=
    (Text.trimmed_trim : Text.Trimmed text (Text.trim text)).last
  -- Normalizing and unifying line ends change nothing here: the source is one line with no blank at
  -- either end.
  have outside {c : Char} (hc : c ∉ text) (hword : c ∉ "return ".toList) :
      c ∉ returning (Text.trim text) := by
    show c ∉ "return ".toList ++ Text.trim text
    exact fun h => (List.mem_append.1 h).elim hword (mt Text.mem_of_mem_trim hc)
  have hlast : ∀ c ∈ (returning (Text.trim text)).getLast?, ¬isBlank c := by
    have hreturning : (returning (Text.trim text)).getLast? = (Text.trim text).getLast? := by
      show ("return ".toList ++ Text.trim text).getLast? = _
      rw [List.getLast?_append, List.getLast?_eq_some_getLast (Expr.trim_ne_nil h line)]
      rfl
    rwa [hreturning]
  have first : ∀ c ∈ (returning (Text.trim text)).head?, ¬isBlank c := by
    intro c hc
    obtain rfl : 'r' = c := Option.some.inj hc
    decide
  have hnormal : Body.normalize (returning (Text.trim text)) = returning (Text.trim text) :=
    normalize_of_line (outside line (by decide)) first hlast
  have hlexemes := Lexeme.ofSource?_eq_some_iff.2 (Lexeme.reads_return (hreads.trim line))
  have hread : ofSource? (Body.endLine (Text.unifyLineEnds (returning (Text.trim text))))
      = some [.result (some found)] := by
    rw [Text.unifyLineEnds_of_not_mem (outside noReturn (by decide)), Body.endLine_of_last hlast]
    have hstatements : Grammar.statements (30 * (lexemes.length + 1 + 2))
        (Grammar.returnLine lexemes) = some ([.result (some found)], []) := by
      -- With `return` in front there is one lexeme more, and so more levels than the expression was
      -- read with.
      have hlevels : 30 * (lexemes.length + 1 + 2) = 30 * (lexemes.length + 2) + 28 + 2 := by omega
      rw [hlevels]
      exact Grammar.statements_return (Grammar.expressions_of_le (by omega) hexpressions)
    show (Lexeme.ofSource? (returning (Text.trim text) ++ ['\n'])).bind _ = _
    rw [show returning (Text.trim text) ++ ['\n'] = "return".toList ++ ' ' :: (Text.trim text ++ ['\n'])
      from rfl, hlexemes, Option.bind_some]
    show (Grammar.statements (30 * (lexemes.length + 1 + 2)) _).bind _ = _
    rw [hstatements]
    rfl
  have hcontains : ¬(returning (Text.trim text)).contains '\x00' := by
    rw [List.contains_iff_mem]
    exact outside hnull (by decide)
  rw [read, hnormal, hread, if_neg hcontains]

/-! ### Its value -/

/-- A script that only returns an expression makes sense in every scope without a constant among its
keys. -/
theorem check_result {scope : Scope Value Value} (plain : .text constantName ∉ scope.keys)
    (found : Expr) :
    check (parameters scope) [.result (some found)] = .ok [.result (some found)] := by
  have hnames : ¬(parameters scope ++ namesOfStatements [.result (some found)]).contains
      constantName := by
    rw [List.contains_iff_mem]
    show constantName ∉ parameters scope ++ ([] ++ [])
    rw [List.append_nil, List.append_nil]
    exact fun h => plain (mem_parameters.1 h).1
  have hwell : areWellFormed 0 [.result (some found)] = true := rfl
  rw [check, hwell, if_pos]
  simpa using hnames

/-- **The source that returns an expression** has its value. -/
theorem run_returning (h : Expr.ofText? text = some found) (line : '\n' ∉ text)
    (noReturn : '\r' ∉ text) {chain : Chain} {store : Store}
    (plain : .text constantName ∉ (store.scope chain).keys) :
    run (returning (Text.trim text)) chain store = found.valueIn chain store := by
  have hread := read_returning h line noReturn
  have hcheck := check_result plain found
  show ((Eval.ofExcept (read _) >>= fun statements =>
    Eval.ofExcept (check (parameters (store.scope chain)) statements) >>= fun statements => _ :
      Eval Value)) store = _
  rw [hread]
  show ((Eval.ofExcept (check (parameters (store.scope chain)) _) >>= fun statements => _ :
      Eval Value)) store = _
  rw [hcheck]
  show runScript [.result (some found)]
    ⟨(arguments (store.scope chain) chain).keys ++ [], arguments (store.scope chain) chain⟩ store = _
  rw [List.append_nil, runScript_result]
  rfl

/-- The value of an expression in a scope, with the source that returns it in every failure. -/
def Expr.valueOf (found : Expr) (text : Text) (chain : Chain) : EStateM Failure Store Value :=
  fun store =>
    match found.valueIn chain store with
    | .ok value store => .ok value store
    | .error fault store => .error (.evaluation (returning (Text.trim text)) fault) store

/-- A source that returns an expression has the expression's value. The hypothesis on the scope
keeps away the one key that no script can be compiled with. -/
theorem evaluate_returning (h : Expr.ofText? text = some found) (line : '\n' ∉ text)
    (noReturn : '\r' ∉ text) {chain : Chain} {store : Store}
    (plain : .text constantName ∉ (store.scope chain).keys) :
    evaluate (returning (Text.trim text)) chain store = found.valueOf text chain store := by
  show (match run (returning (Text.trim text)) chain store with
    | .ok value store => _
    | .error fault store => _) = _
  rw [run_returning h line noReturn plain, Expr.valueOf]

end Stencil.Script
