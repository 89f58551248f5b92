import Stencil.Proofs.Block.Completeness
import Stencil.Proofs.Print.Cutting
import Stencil.Proofs.Segment.Tokens
import Stencil.Template

/-!
# Compiling undoes printing

The tokens of a printed tree derive the tree: every block gives back the statement and the argument
that it was printed with, and the grammar puts them together again. With the cutting of a printed
template and the completeness of assembling, compiling a printed template gives the tree that was
printed (`compile_print`).
-/

namespace Stencil

open Segment (Shape)

namespace Segment

variable {d : Delimiters} {place : Place} {shape : Shape} {shapes more : List Shape}
variable {word argument content source : Text}

/-- The tokens of a cutting of a text that begins at `place`. -/
def tokens (d : Delimiters) (place : Place) (shapes : List Shape) : List Token :=
  (placed d place shapes).filterMap token?

theorem tokens_cons_of_yields {token : Token} (h : Yields ⟨place, shape⟩ (some token)) :
    tokens d place (shape :: shapes) = token :: tokens d (place.after (shape.source d)) shapes := by
  rw [tokens, placed, List.filterMap_cons, yields_iff.1 h]
  rfl

/-- The tokens of printed shapes stand where the shapes before them end. -/
@[simp] theorem tokens_append :
    tokens d place (shapes ++ more) =
      tokens d place shapes ++ tokens d (place.after (shapes.flatMap (Shape.source d))) more := by
  rw [tokens, placed_append, List.filterMap_append]
  rfl

/-! ### What printed blocks yield -/

theorem yields_ofExpression (trimmed : Text.trim content = content) (ne : content ≠ []) :
    Yields ⟨place, .ofExpression (Script.prepare content)⟩ (some ⟨.expression, content, place⟩) := by
  rw [Shape.ofExpression, Script.bare_prepare]
  exact .expression (Text.trim_eq_iff.1 trimmed).padded ne

/-- A statement with an argument may have more blanks around its argument than it is printed
with. -/
theorem yields_padded {raw : Text} (hword : Text.isSingleWord word)
    (trimmed : Text.Trimmed raw argument) (hargument : argument ≠ []) :
    Yields ⟨place, .block .statement (' ' :: (word ++ ' ' :: raw) ++ [' '])⟩
      (some ⟨.statement word, argument, place⟩) := by
  simp only [Text.isSingleWord, Bool.and_eq_true, Bool.not_eq_true', List.isEmpty_eq_false_iff,
    List.all_eq_true] at hword
  obtain ⟨ne, hword⟩ := hword
  obtain ⟨-, wfirst, -⟩ := Text.trimmed_word hword
  obtain ⟨⟨left, right, rfl, hleft, hright⟩, first, last⟩ := trimmed
  have content : Text.Trimmed (word ++ ' ' :: (left ++ argument ++ right))
      (word ++ ' ' :: (left ++ argument)) := by
    refine ⟨⟨[], right, by simp, by simp, hright⟩, ?_, ?_⟩
    · rwa [List.head?_append_of_ne_nil _ ne]
    · rw [← List.cons_append, ← List.append_assoc, List.getLast?_append_of_ne_nil _ hargument]
      exact last
  have word_ : Text.Leads isWord (word ++ ' ' :: (left ++ argument)) word
      (' ' :: (left ++ argument)) :=
    ⟨rfl, hword, by rintro c ⟨⟩; decide⟩
  have space : Text.Leads isBlank (' ' :: (left ++ argument)) (' ' :: left) argument :=
    ⟨rfl, List.forall_mem_cons.2 ⟨by decide, hleft⟩, first⟩
  exact .statement content.padded word_ ne space

/-- A printed statement is read back as its word and its argument. Without an argument it has no blank
behind the word, hence the two cases. -/
theorem yields_ofStatement (hword : Text.isSingleWord word)
    (trimmed : Text.trim argument = argument) :
    Yields ⟨place, .ofStatement word argument⟩ (some ⟨.statement word, argument, place⟩) := by
  by_cases hempty : argument = []
  · subst hempty
    simp only [Text.isSingleWord, Bool.and_eq_true, Bool.not_eq_true', List.isEmpty_eq_false_iff,
      List.all_eq_true] at hword
    obtain ⟨ne, hword⟩ := hword
    have word_ : Text.Leads isWord word word [] := ⟨(List.append_nil word).symm, hword, by simp⟩
    have space : Text.Leads isBlank [] [] [] := ⟨rfl, by simp, by simp⟩
    exact .statement (Text.trimmed_word hword).padded word_ ne space
  · have hshape : Shape.ofStatement word argument
        = .block .statement (' ' :: (word ++ ' ' :: argument) ++ [' ']) := by
      simp [Shape.ofStatement, hempty]
    rw [hshape]
    exact yields_padded hword (Text.trim_eq_iff.1 trimmed) hempty

end Segment

/-! ### Tokens of a printed tree -/

/-- A `switch` of cases and a default, of which there is one or the other, is derived without a
lead. -/
theorem derives_switch {keywords : Keywords} {opener closer : Token} {middle tail rest : List Token}
    {cases : List (Text × List Node)} {otherwise : Option (List Node)} {nodes : List Node}
    (opens : opener.Spells keywords .switch) (some_ : cases ≠ [] ∨ otherwise ≠ none)
    (branches : Derives keywords middle (.branches .case cases))
    (final : Derives keywords tail (.last .default otherwise))
    (closes : closer.Spells keywords .endswitch) (more : Derives keywords rest (.items nodes)) :
    Derives keywords (opener :: (middle ++ tail) ++ closer :: rest)
      (.items (.switch (Script.prepare opener.value) cases otherwise :: nodes)) := by
  cases branches with
  | branch begins body others =>
      have := Derives.switchCases opens Family.IsClosed.nil begins body others final closes more
      simpa using this
  | noBranch =>
      cases final with
      | noLast => simp at some_
      | last begins body =>
          have := Derives.switchDefault opens Family.IsClosed.nil begins body closes more
          simpa using this

section

variable {options : Options} {phrase : Phrase} {place : Place} {shapes : List Shape}
variable {argument source : Text} {nodes : List Node}

variable (valid : options.fault? = none)

include valid

theorem tokens_statement (keyword : Keyword) (trimmed : Text.trim argument = argument) :
    Segment.tokens options.delimiters place
        (.ofStatement (options.keywords.spelling keyword) argument :: shapes) =
      ⟨.statement (options.keywords.spelling keyword), argument, place⟩ ::
        Segment.tokens options.delimiters
          (place.after (Shape.source options.delimiters
            (.ofStatement (options.keywords.spelling keyword) argument))) shapes :=
  Segment.tokens_cons_of_yields (Segment.yields_ofStatement
    (Keywords.isSingleWord_spelling (Options.fault?_eq_none valid).2 keyword) trimmed)

/-- **The tokens of a printed phrase** are read as the phrase. -/
theorem derives_written (h : phrase.IsPrintable options.delimiters) :
    ∀ place, Derives options.keywords
      (Segment.tokens options.delimiters place (phrase.written options.keywords)) phrase := by
  have none : Text.trim [] = [] := rfl
  induction h with
  | nil => exact fun place => .nil
  | noBranch => exact fun place => .noBranch
  | noLast => exact fun place => .noLast
  | @text text nodes ne clear alone _ ih =>
      intro place
      have hyields : Segment.Yields ⟨place, .literal text⟩ (some ⟨.text, text, place⟩) := .literal
      simp only [Phrase.written, Node.writtenList, Node.written, List.singleton_append]
      rw [Segment.tokens_cons_of_yields hyields]
      exact .text rfl (ih _)
  | expression admits ne _ ih =>
      obtain ⟨⟨content, trimmed, rfl⟩, -⟩ := admits
      rw [Script.bare_prepare] at ne
      intro place
      simp only [Phrase.written, Node.writtenList, Node.written, List.singleton_append]
      rw [Segment.tokens_cons_of_yields (Segment.yields_ofExpression trimmed ne)]
      exact .expression rfl (ih _)
  | conditional admits _ _ _ _ body others final ih =>
      obtain ⟨⟨content, trimmed, rfl⟩, -⟩ := admits
      intro place
      simp only [Phrase.written, Node.writtenList, Node.written, Node.writtenBranches,
        Script.bare_prepare, List.append_assoc, List.cons_append, List.nil_append]
      rw [tokens_statement valid .if_ trimmed, Segment.tokens_append, Segment.tokens_append,
        Segment.tokens_append, tokens_statement valid .endif none, ← List.append_assoc,
        ← List.append_assoc, ← List.cons_append]
      exact .conditional rfl (body _) (others _) (final _) rfl (ih _)
  | @iteration header tree nodes item index distinct admits ne _ _ body ih =>
      -- Only here an argument is taken apart once more: the printed header has to be read back as
      -- the header (`ofArgument_written`).
      obtain ⟨name, position, collection⟩ := header
      obtain ⟨⟨content, trimmed, rfl⟩, -⟩ := admits
      dsimp only at item index distinct ne
      rw [Script.bare_prepare] at ne
      intro place
      have hwritten : Text.trim (LoopHeader.written name position content) = _ :=
        LoopHeader.trim_written item trimmed ne
      have opens : Token.Spells options.keywords .foreach
          ⟨.statement (options.keywords.spelling .foreach),
            LoopHeader.written name position content, place⟩ := rfl
      have accepted : LoopHeader.ofArgument (options.keywords.spelling .foreach)
          (LoopHeader.written name position content) = .ok ⟨name, position, content⟩ :=
        LoopHeader.ofArgument_written item index distinct trimmed ne
      simp only [Phrase.written, Node.writtenList, Node.written, Script.bare_prepare,
        List.append_assoc, List.cons_append, List.nil_append]
      rw [tokens_statement valid .foreach hwritten, Segment.tokens_append,
        tokens_statement valid .endforeach none, ← List.cons_append]
      exact .iteration opens accepted (body _) rfl (ih _)
  | @switch subject cases otherwise nodes admits some_ _ _ _ branches final ih =>
      obtain ⟨⟨content, trimmed, rfl⟩, -⟩ := admits
      intro place
      simp only [Phrase.written, Node.writtenList, Node.written, Script.bare_prepare,
        List.append_assoc, List.cons_append, List.nil_append]
      rw [tokens_statement valid .switch trimmed, Segment.tokens_append, Segment.tokens_append,
        tokens_statement valid .endswitch none, ← List.append_assoc, ← List.cons_append]
      exact derives_switch rfl some_ (branches _) (final _) rfl (ih _)
  | branch admits _ _ body others =>
      obtain ⟨⟨content, trimmed, rfl⟩, -⟩ := admits
      intro place
      simp only [Phrase.written, Node.writtenBranches, Script.bare_prepare, List.cons_append]
      rw [tokens_statement valid _ trimmed, Segment.tokens_append, ← List.cons_append]
      exact .branch rfl (body _) (others _)
  | last _ body =>
      intro place
      simp only [Phrase.written, Node.writtenLast]
      rw [tokens_statement valid _ none]
      exact .last rfl (body _)

end

/-- **Compiling undoes printing**, with any valid options that do not trim the template and whose
delimiters stand apart from words. -/
theorem compile_print {options : Options} {nodes : List Node} (valid : options.fault? = none)
    (trim : options.trim = false) (plain : options.delimiters.ArePlain)
    (h : Phrase.IsPrintable options.delimiters (.items nodes)) :
    (∃ tokens, tokenize options.delimiters (print options nodes) = .ok tokens
        ∧ assemble options.keywords tokens = .ok nodes)
      ∧ compile options (print options nodes) = .ok nodes := by
  obtain ⟨hd, hkeywords⟩ := Options.fault?_eq_none valid
  have nonempty := (Delimiters.fault?_eq_none hd).1
  have hcut : Segment.Cutting options.delimiters (print options nodes)
      (Node.writtenList options.keywords nodes) := by
    simpa [print] using cutting_written valid plain h .nil (by simp [NoLiteral])
  have htokens : tokenize options.delimiters (print options nodes)
      = .ok (Segment.tokens options.delimiters {} (Node.writtenList options.keywords nodes)) :=
    (tokenize_eq_ok_iff nonempty).2 ⟨_, hcut, Segment.image_iff.2 rfl⟩
  have hnodes : assemble options.keywords
      (Segment.tokens options.delimiters {} (Node.writtenList options.keywords nodes)) = .ok nodes :=
    (derives_written valid h {}).assemble hkeywords
  refine ⟨⟨_, htokens, hnodes⟩, ?_⟩
  simp only [compile, Options.prepare, trim, Bool.false_eq_true, if_false, htokens, hnodes]

/-- The standard delimiters are plain, so the round trip holds of the standard options. -/
theorem Delimiters.arePlain_default : ({} : Delimiters).ArePlain := by
  rintro c ⟨kind, h⟩
  have hc : c ∈ ['{', '}', '%'] := by
    cases kind <;> simp [opener, closer] at h ⊢ <;> grind
  rcases List.mem_cons.1 hc with rfl | hc
  · decide
  · rcases List.mem_cons.1 hc with rfl | hc
    · decide
    · rw [List.mem_singleton.1 hc]
      decide

/-- A loop over a conditional whose last branch is empty, and a `switch` that is all default. -/
theorem compile_print_default :
    let nodes : List Node :=
      [.iteration ⟨['x'], ['i'], Script.prepare ['x', 's']⟩
          [.conditional [(Script.prepare ['i'], [.text ['a', ' ', 'b']])] (some [])],
        .switch (Script.prepare []) [] (some [.expression (Script.prepare ['x'])])]
    ({} : Options).fault? = none ∧ ({} : Options).trim = false
      ∧ ({} : Options).delimiters.ArePlain
      ∧ Phrase.IsPrintable ({} : Options).delimiters (.items nodes)
      ∧ compile {} (print {} nodes) = .ok nodes := by
  have plain := Delimiters.arePlain_default
  have clear : ∀ text : Text, text.all (fun c => isWord c || isBlank c) →
      ({} : Delimiters).IsClear text := by
    intro text h
    refine plain.isClear fun c hc => ?_
    have hchar := List.all_eq_true.1 h c hc
    rw [Bool.or_eq_true] at hchar
    exact hchar.imp_right .inl
  have admits : ∀ content : Text, Text.trim content = content →
      (Script.prepare content).all (fun c => isWord c || isBlank c) →
      ({} : Delimiters).AdmitsSource (Script.prepare content) :=
    fun content trimmed h => ⟨⟨content, trimmed, rfl⟩, clear _ h⟩
  have text : Phrase.IsPrintable {} (.items [.text ['a', ' ', 'b']]) :=
    .text (by decide) (clear _ (by decide)) (by simp) .nil
  have inner := Phrase.IsPrintable.conditional (admits ['i'] (by decide) (by decide)) text .noBranch
    (.last .nil) .nil
  have value := Phrase.IsPrintable.expression (admits ['x'] (by decide) (by decide)) (by decide) .nil
  have block := Phrase.IsPrintable.switch (admits [] (by decide) (by decide)) (by simp) .noBranch
    (.last value) .nil
  have printable : Phrase.IsPrintable {}
      (.items (.iteration ⟨['x'], ['i'], Script.prepare ['x', 's']⟩ _ :: _)) :=
    .iteration (by decide) (by decide) (by decide) (admits ['x', 's'] (by decide) (by decide))
      (by decide) inner block
  exact ⟨by decide, rfl, plain, printable,
    (compile_print (by decide) rfl plain printable).2⟩

end Stencil
