import Stencil.Options.Basic
import Stencil.Proofs.Block.Grammar
import Stencil.Proofs.Loop
import Stencil.Proofs.Segment.Cutting

/-!
# Printing a template

A template tree is printed as the segments of a template: a text as it stands, and everything else in
blocks with one blank inside of each delimiter. `Phrase.IsPrintable` says which trees can be printed
so that they can be told from the text again; the trees of a compilation are not all of this kind,
since a template may be written in more than one way.

Design points:

* A `switch` is printed with the statement of its default, also when it has no case.
* A loop is printed with both names, also when the index has the name it gets by default.
* The source of a block is printed without the `return` that `Script.prepare` puts in front of it.
-/

namespace Stencil

namespace Script

/-- The source that was prepared. -/
def bare (source : Text) : Text :=
  if isExpression source then source.drop 7 else source

/-- The source is a prepared one, of a content without blanks around it. -/
def IsSource (source : Text) : Prop :=
  ∃ content, Text.trim content = content ∧ source = prepare content

variable {source content : Text}

@[simp] theorem bare_prepare : bare (prepare content) = content := by
  by_cases h : isExpression content
  · have hreturn : isExpression (['r', 'e', 't', 'u', 'r', 'n', ' '] ++ content) = true := by
      simpa [isExpression] using h
    rw [prepare, if_pos h, bare, if_pos hreturn]
    rfl
  · rw [prepare, if_neg h, bare, if_neg h]

/-- Bare sources have no characters of their own. -/
theorem mem_of_mem_bare {c : Char} (h : c ∈ bare source) : c ∈ source := by
  rw [bare] at h
  split at h
  · exact List.mem_of_mem_drop h
  · exact h

end Script

namespace Segment.Shape

/-- The block of an expression. -/
def ofExpression (source : Text) : Shape :=
  .block .expression (' ' :: Script.bare source ++ [' '])

/-- The block of a statement, with its argument if it has one. -/
def ofStatement (word argument : Text) : Shape :=
  .block .statement (' ' :: (if argument.isEmpty then word else word ++ ' ' :: argument) ++ [' '])

end Segment.Shape

open Segment (Shape)

namespace Node

variable (keywords : Keywords)

mutual

/-- The segments of a node. -/
@[simp] def written : Node → List Shape
  | text content => [.literal content]
  | expression source => [.ofExpression source]
  | conditional branches otherwise =>
      writtenBranches .if_ .elseif branches ++ writtenLast .else_ otherwise
        ++ [.ofStatement (keywords.spelling .endif) []]
  | iteration header body =>
      .ofStatement (keywords.spelling .foreach)
          (LoopHeader.written header.item header.index (Script.bare header.collection))
        :: writtenList body ++ [.ofStatement (keywords.spelling .endforeach) []]
  | switch subject cases otherwise =>
      .ofStatement (keywords.spelling .switch) (Script.bare subject)
        :: writtenBranches .case .case cases ++ writtenLast .default otherwise
          ++ [.ofStatement (keywords.spelling .endswitch) []]
  | foreign _ => []

/-- The segments of the nodes of a body. -/
@[simp] def writtenList : List Node → List Shape
  | [] => []
  | node :: rest => written node ++ writtenList rest

/-- The segments of branches. The statement of the first one may differ from that of the others. -/
@[simp] def writtenBranches (first other : Keyword) : List (Text × List Node) → List Shape
  | [] => []
  | (source, body) :: rest =>
      .ofStatement (keywords.spelling first) (Script.bare source) :: writtenList body
        ++ writtenBranches other other rest

/-- The segments of a last branch, if there is one. -/
@[simp] def writtenLast (keyword : Keyword) : Option (List Node) → List Shape
  | none => []
  | some body => .ofStatement (keywords.spelling keyword) [] :: writtenList body

end

end Node

/-- **Printing**: the template of a tree. -/
def print (options : Options) (nodes : List Node) : Text :=
  (Node.writtenList options.keywords nodes).flatMap (Shape.source options.delimiters)

/-- The segments of a phrase. -/
@[simp] def Phrase.written (keywords : Keywords) : Phrase → List Shape
  | .items nodes => Node.writtenList keywords nodes
  | .branches keyword trees => Node.writtenBranches keywords keyword keyword trees
  | .last keyword body => Node.writtenLast keywords keyword body

/-! ### Printable trees -/

/-- No character of the text occurs in a delimiter. -/
def Delimiters.IsClear (d : Delimiters) (text : Text) : Prop :=
  ∀ c ∈ text, ∀ kind, c ∉ d.opener kind ∧ c ∉ d.closer kind

/-- The delimiters stand apart from words and blanks. -/
def Delimiters.ArePlain (d : Delimiters) : Prop :=
  ∀ c, (∃ kind, c ∈ d.opener kind ∨ c ∈ d.closer kind) → ¬isWord c ∧ ¬isBlank c ∧ c ≠ ','

/-- A prepared source that is clear of delimiters. -/
structure Delimiters.AdmitsSource (d : Delimiters) (source : Text) : Prop where
  isSource : Script.IsSource source
  clear : d.IsClear source

/-- The shapes do not begin with a literal. -/
def NoLiteral (shapes : List Shape) : Prop :=
  ∀ text, shapes.head? ≠ some (.literal text)

/-- The tree can be read from its template. -/
inductive Phrase.IsPrintable (d : Delimiters) : Phrase → Prop
  | nil : IsPrintable d (.items [])
  | text {text nodes} (ne : text ≠ []) (clear : d.IsClear text)
      (apart : ∀ other, nodes.head? ≠ some (.text other)) (more : IsPrintable d (.items nodes)) :
      IsPrintable d (.items (.text text :: nodes))
  | expression {source nodes} (admits : d.AdmitsSource source) (ne : Script.bare source ≠ [])
      (more : IsPrintable d (.items nodes)) : IsPrintable d (.items (.expression source :: nodes))
  | conditional {source tree branches otherwise nodes} (admits : d.AdmitsSource source)
      (body : IsPrintable d (.items tree)) (others : IsPrintable d (.branches .elseif branches))
      (final : IsPrintable d (.last .else_ otherwise)) (more : IsPrintable d (.items nodes)) :
      IsPrintable d (.items (.conditional ((source, tree) :: branches) otherwise :: nodes))
  | iteration {header tree nodes} (item : LoopHeader.isLoopName header.item)
      (index : LoopHeader.isLoopName header.index) (distinct : header.item ≠ header.index)
      (admits : d.AdmitsSource header.collection) (ne : Script.bare header.collection ≠ [])
      (body : IsPrintable d (.items tree)) (more : IsPrintable d (.items nodes)) :
      IsPrintable d (.items (.iteration header tree :: nodes))
  | switch {subject cases otherwise nodes} (admits : d.AdmitsSource subject)
      (some_ : cases ≠ [] ∨ otherwise ≠ none) (branches : IsPrintable d (.branches .case cases))
      (final : IsPrintable d (.last .default otherwise)) (more : IsPrintable d (.items nodes)) :
      IsPrintable d (.items (.switch subject cases otherwise :: nodes))
  | noBranch {keyword} : IsPrintable d (.branches keyword [])
  | branch {keyword source tree branches} (admits : d.AdmitsSource source)
      (body : IsPrintable d (.items tree)) (others : IsPrintable d (.branches keyword branches)) :
      IsPrintable d (.branches keyword ((source, tree) :: branches))
  | noLast {keyword} : IsPrintable d (.last keyword none)
  | last {keyword tree} (body : IsPrintable d (.items tree)) :
      IsPrintable d (.last keyword (some tree))

end Stencil
