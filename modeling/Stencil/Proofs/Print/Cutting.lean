import Stencil.Options.Validate
import Stencil.Proofs.Print.Basic

/-!
# A printed template is cut where it was printed

The characters of delimiters occur in nothing that is printed between them. So a delimiter stands in a
printed template only where it was printed, whatever delimiters touch each other, and of two opening
delimiters only one can stand at a place.
-/

namespace Stencil

namespace Delimiters

variable {d : Delimiters} {text more word : Text} {kind : BlockKind}

/-! ### Valid delimiters -/

theorem fault?_eq_none (valid : d.fault? = none) :
    d.AreNonempty ∧ ¬d.expressionStart <+: d.statementStart
      ∧ ¬d.statementStart <+: d.expressionStart := by
  simp only [fault?] at valid
  split at valid
  · cases valid
  · rename_i nonempty
    simp only [fields, List.find?_eq_none, List.mem_cons, List.not_mem_nil, or_false,
      forall_eq_or_imp, forall_eq, List.isEmpty_iff] at nonempty
    obtain ⟨hes, hee, hss, hse⟩ := nonempty
    split at valid
    · cases valid
    · split at valid
      · cases valid
      · rename_i statement
        split at valid
        · cases valid
        · rename_i expression
          rw [List.isPrefixOf_iff_prefix] at statement expression
          refine ⟨fun kind => ?_, expression, statement⟩
          cases kind with
          | expression => exact ⟨hes, hee⟩
          | statement => exact ⟨hss, hse⟩

/-- Where the delimiter of a statement stands, that of an expression does not. -/
theorem not_expressionStart (valid : d.fault? = none) :
    ¬d.expressionStart <+: d.statementStart ++ text := by
  intro h
  obtain ⟨-, expression, statement⟩ := fault?_eq_none valid
  rcases List.prefix_or_prefix_of_prefix h (List.prefix_append ..) with h | h
  · exact expression h
  · exact statement h

/-! ### Clear texts -/

theorem IsClear.append (h : d.IsClear text) (h' : d.IsClear more) : d.IsClear (text ++ more) := by
  intro c hc
  rcases List.mem_append.1 hc with hc | hc
  · exact h c hc
  · exact h' c hc

/-- What cannot stand in plain delimiters is clear of them. -/
theorem ArePlain.isClear (plain : d.ArePlain)
    (h : ∀ c ∈ text, isWord c ∨ isBlank c ∨ c = ',') : d.IsClear text := by
  intro c hc kind
  have apart : ¬(∃ kind, c ∈ d.opener kind ∨ c ∈ d.closer kind) := by
    intro hmem
    obtain ⟨word, blank, comma⟩ := plain c hmem
    rcases h c hc with h | h | h
    · exact word h
    · exact blank h
    · exact comma h
  exact ⟨fun hmem => apart ⟨kind, .inl hmem⟩, fun hmem => apart ⟨kind, .inr hmem⟩⟩

/-- Text without the beginning of a delimiter has no stray closer. -/
theorem IsClear.unclosed (valid : d.AreNonempty) (h : d.IsClear text) : d.Unclosed text :=
  fun kind => Text.not_isInfix_of_forall_not_mem (valid kind).2
    fun c hc hmem => (h c hmem kind).2 hc

/-- No opener begins in such a text, not even one that would end in the text behind it. -/
theorem IsClear.unopened (valid : d.AreNonempty) (h : d.IsClear text) : d.Unopened text more := by
  rintro before after rfl hne kind ⟨tail, htail⟩
  obtain ⟨c, opener, hopener⟩ := List.exists_cons_of_ne_nil (valid kind).1
  obtain ⟨x, after, rfl⟩ := List.exists_cons_of_ne_nil hne
  rw [hopener] at htail
  obtain ⟨rfl, -⟩ := List.cons.inj htail
  exact (h c (by simp) kind).1 (by simp [hopener])

/-- A clear text ends where the closing delimiter was put behind it. -/
theorem IsClear.firstCut (valid : d.AreNonempty) (h : d.IsClear text) :
    Text.FirstCut (d.closer kind) (text ++ d.closer kind ++ more) text more where
  text_eq := rfl
  first b a hcut := by
    rw [List.append_assoc, List.append_assoc] at hcut
    rcases List.append_eq_append_iff.1 hcut with ⟨c', rfl, -⟩ | ⟨c', rfl, hrest⟩
    · simp
    · -- What is left of the text begins with a closing delimiter, so there is none left.
      cases c' with
      | nil => simp
      | cons x c' =>
          obtain ⟨c, closer, hcloser⟩ := List.exists_cons_of_ne_nil (valid kind).2
          rw [hcloser] at hrest
          obtain ⟨rfl, -⟩ := List.cons.inj hrest
          exact absurd (by simp [hcloser]) (h c (by simp) kind).2

end Delimiters

/-- What is admitted as a source is admitted in the form in which it is printed. -/
theorem Delimiters.AdmitsSource.clear_bare {d : Delimiters} {source : Text}
    (h : d.AdmitsSource source) : d.IsClear (Script.bare source) :=
  fun c hc => h.clear c (Script.mem_of_mem_bare hc)

namespace Segment

variable {d : Delimiters} {text raw rest : Text} {kind : BlockKind} {shapes : List Shape}

/-! ### One more segment -/

/-- A printed literal is cut off as one. No literal may follow, or the two would be one. -/
theorem Cutting.cons_literal (valid : d.fault? = none) (ne : text ≠ []) (clear : d.IsClear text)
    (apart : NoLiteral shapes) (more : Cutting d rest shapes) :
    Cutting d (Shape.source d (.literal text) ++ rest) (.literal text :: shapes) := by
  have nonempty := (Delimiters.fault?_eq_none valid).1
  exact .literal ne (clear.unopened nonempty) (clear.unclosed nonempty) apart more

/-- A printed block is cut off as one, since its closer is the first one in it. -/
theorem Cutting.cons_block (valid : d.fault? = none) (clear : d.IsClear raw)
    (more : Cutting d rest shapes) :
    Cutting d (Shape.source d (.block kind raw) ++ rest) (.block kind raw :: shapes) := by
  have nonempty := (Delimiters.fault?_eq_none valid).1
  have closed : Text.FirstCut (d.closer kind) (raw ++ d.closer kind ++ rest) raw rest :=
    clear.firstCut nonempty
  have block := Cutting.block (fun _ => Delimiters.not_expressionStart valid) closed more
  simpa [Shape.source] using block

end Segment

/-! ### Printed segments -/

open Segment (Cutting Shape)

theorem Options.fault?_eq_none {options : Options} (valid : options.fault? = none) :
    options.delimiters.fault? = none ∧ options.keywords.fault? = none := by
  simpa [Options.fault?] using valid

section

variable {options : Options} {rest argument source : Text} {shapes : List Shape} {nodes : List Node}
variable {phrase : Phrase}

/-- A block is no literal. -/
theorem noLiteral_block {kind : BlockKind} {raw : Text} : NoLiteral (.block kind raw :: shapes) := by
  simp [NoLiteral]

/-- Nodes that do not begin with a text are printed without a literal at their start. -/
theorem noLiteral_items (h : Phrase.IsPrintable options.delimiters (.items nodes))
    (apart : ∀ text, nodes.head? ≠ some (.text text)) (hshapes : NoLiteral shapes) :
    NoLiteral (Node.writtenList options.keywords nodes ++ shapes) := by
  cases h with
  | nil => simpa [Node.writtenList] using hshapes
  | text => exact absurd rfl (apart _)
  | expression | conditional | iteration | switch =>
      simp only [Node.writtenList, Node.written, Node.writtenBranches, List.cons_append]
      exact noLiteral_block

theorem noLiteral_branches {first other : Keyword} {branches : List (Text × List Node)}
    (hshapes : NoLiteral shapes) :
    NoLiteral (Node.writtenBranches options.keywords first other branches ++ shapes) := by
  cases branches with
  | nil => simpa [Node.writtenBranches] using hshapes
  | cons branch branches =>
      simp only [Node.writtenBranches, List.cons_append]
      exact noLiteral_block

theorem noLiteral_last {keyword : Keyword} {body : Option (List Node)} (hshapes : NoLiteral shapes) :
    NoLiteral (Node.writtenLast options.keywords keyword body ++ shapes) := by
  cases body with
  | none => simpa [Node.writtenLast] using hshapes
  | some body =>
      simp only [Node.writtenLast, List.cons_append]
      exact noLiteral_block

variable (valid : options.fault? = none) (plain : options.delimiters.ArePlain)

include valid plain

omit valid in
theorem clear_blank : options.delimiters.IsClear [' '] := by
  refine plain.isClear fun c hc => .inr (.inl ?_)
  rw [List.mem_singleton.1 hc]
  decide

omit valid in
/-- The blanks that a printed argument stands between are no part of a delimiter. -/
theorem clear_padded (clear : options.delimiters.IsClear argument) :
    options.delimiters.IsClear (' ' :: argument ++ [' ']) :=
  ((clear_blank plain).append clear).append (clear_blank plain)

/-- A printed statement is cut off as one, with an argument or without. -/
theorem cutting_statement (keyword : Keyword) (clear : options.delimiters.IsClear argument)
    (more : Cutting options.delimiters rest shapes) :
    Cutting options.delimiters
      (Shape.source options.delimiters (.ofStatement (options.keywords.spelling keyword) argument)
        ++ rest)
      (.ofStatement (options.keywords.spelling keyword) argument :: shapes) := by
  obtain ⟨hd, hkeywords⟩ := Options.fault?_eq_none valid
  have word := Keywords.isSingleWord_spelling hkeywords keyword
  simp only [Text.isSingleWord, Bool.and_eq_true, List.all_eq_true] at word
  have spelling : options.delimiters.IsClear (options.keywords.spelling keyword) :=
    plain.isClear fun c hc => .inl (word.2 c hc)
  refine Cutting.cons_block hd (clear_padded plain ?_) more
  split
  · exact spelling
  · exact spelling.append ((clear_blank plain).append clear)

theorem cutting_expression (admits : options.delimiters.AdmitsSource source)
    (more : Cutting options.delimiters rest shapes) :
    Cutting options.delimiters
      (Shape.source options.delimiters (.ofExpression source) ++ rest)
      (.ofExpression source :: shapes) :=
  Cutting.cons_block (Options.fault?_eq_none valid).1 (clear_padded plain admits.clear_bare) more

omit valid in
/-- A printed loop header has no delimiter in it: names are words, and the words between them are
blanks and letters. -/
theorem clear_header {header : LoopHeader} (item : LoopHeader.isLoopName header.item)
    (index : LoopHeader.isLoopName header.index)
    (admits : options.delimiters.AdmitsSource header.collection) :
    options.delimiters.IsClear
      (LoopHeader.written header.item header.index (Script.bare header.collection)) := by
  have names : options.delimiters.IsClear (header.item ++ ',' :: ' ' :: header.index
      ++ LoopHeader.inMark) := by
    refine plain.isClear fun c hc => ?_
    simp only [LoopHeader.inMark, List.mem_append, List.mem_cons, List.not_mem_nil, or_false] at hc
    rcases hc with (hc | rfl | rfl | hc) | rfl | rfl | rfl | rfl
    · exact .inl ((LoopHeader.isLoopName_word item).2.1 c hc)
    · exact .inr (.inr rfl)
    · exact .inr (.inl (by decide))
    · exact .inl ((LoopHeader.isLoopName_word index).2.1 c hc)
    all_goals decide
  exact names.append admits.clear_bare

/-- **A printed phrase is cut into its segments**, in front of whatever does not begin with a
literal. -/
theorem cutting_written (h : phrase.IsPrintable options.delimiters)
    (more : Cutting options.delimiters rest shapes) (apart : NoLiteral shapes) :
    Cutting options.delimiters
      ((phrase.written options.keywords).flatMap (Shape.source options.delimiters) ++ rest)
      (phrase.written options.keywords ++ shapes) := by
  have none : options.delimiters.IsClear [] := by simp [Delimiters.IsClear]
  induction h generalizing rest shapes with
  | nil | noBranch | noLast => exact more
  | text ne clear alone hmore ih =>
      simpa using Cutting.cons_literal (Options.fault?_eq_none valid).1 ne clear
        (noLiteral_items hmore alone apart) (ih more apart)
  | expression admits _ _ ih => simpa using cutting_expression valid plain admits (ih more apart)
  | conditional admits _ _ _ _ body others final ih =>
      -- From the back to the front, as each piece needs to know what comes after it.
      have close := cutting_statement valid plain .endif none (ih more apart)
      have last := final close noLiteral_block
      have middle := others last (noLiteral_last noLiteral_block)
      have first := body middle (noLiteral_branches (noLiteral_last noLiteral_block))
      simpa using cutting_statement valid plain .if_ admits.clear_bare first
  | iteration item index _ admits _ _ _ body ih =>
      have close := cutting_statement valid plain .endforeach none (ih more apart)
      have inner := body close noLiteral_block
      simpa using cutting_statement valid plain .foreach (clear_header plain item index admits) inner
  | switch admits _ _ _ _ branches final ih =>
      have close := cutting_statement valid plain .endswitch none (ih more apart)
      have last := final close noLiteral_block
      have cases := branches last (noLiteral_last noLiteral_block)
      simpa using cutting_statement valid plain .switch admits.clear_bare cases
  | branch admits _ _ body others =>
      have inner := body (others more apart) (noLiteral_branches apart)
      simpa using cutting_statement valid plain _ admits.clear_bare inner
  | last _ body => simpa using cutting_statement valid plain _ none (body more apart)

end

end Stencil
