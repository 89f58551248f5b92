import Stencil.Script.Language

/-!
# The names in a script

The names that a script reads or assigns to, wherever in it they stand. The names of attributes and
of arguments are no names of variables.
-/

namespace Stencil.Script

mutual

/-- The names that an expression reads. -/
def Expr.mentioned : Expr → List Text
  | .constant _ => []
  | .name name => [name]
  | .tuple items | .list items | .set items => mentionedAll items
  | .dict entries => mentionedEntries entries
  | .subscript object index => object.mentioned ++ index.mentioned
  | .slice start stop step =>
      mentionedOption start ++ mentionedOption stop ++ mentionedOption step
  | .attribute object _ => object.mentioned
  | .call function arguments named =>
      function.mentioned ++ mentionedAll arguments ++ mentionedNamed named
  | .binary _ left right | .and left right | .or left right => left.mentioned ++ right.mentioned
  | .negative operand | .positive operand | .not operand => operand.mentioned
  | .compare first rest => first.mentioned ++ mentionedComparisons rest
  | .choice condition ifTrue ifFalse =>
      condition.mentioned ++ ifTrue.mentioned ++ ifFalse.mentioned

/-- The names that several expressions read. -/
def mentionedAll : List Expr → List Text
  | [] => []
  | item :: rest => item.mentioned ++ mentionedAll rest

/-- The names that named expressions read. -/
def mentionedNamed : List (Text × Expr) → List Text
  | [] => []
  | (_, item) :: rest => item.mentioned ++ mentionedNamed rest

/-- The names that the entries of a dictionary read. -/
def mentionedEntries : List (Expr × Expr) → List Text
  | [] => []
  | (key, item) :: rest => key.mentioned ++ item.mentioned ++ mentionedEntries rest

/-- The names that an expression reads which may be missing. -/
def mentionedOption : Option Expr → List Text
  | none => []
  | some item => item.mentioned

/-- The names that a chain of comparisons reads. -/
def mentionedComparisons : List (Comparison × Expr) → List Text
  | [] => []
  | (_, item) :: rest => item.mentioned ++ mentionedComparisons rest

end

mutual

/-- The names that a place reads or assigns to. -/
def Target.mentioned : Target → List Text
  | .name name => [name]
  | .subscript object index => object.mentioned ++ index.mentioned
  | .attribute object _ => object.mentioned
  | .items targets => mentionedTargets targets

/-- The names that several places read or assign to. -/
def mentionedTargets : List Target → List Text
  | [] => []
  | target :: rest => target.mentioned ++ mentionedTargets rest

end

mutual

/-- The names that a statement reads or assigns to. -/
def Statement.mentioned : Statement → List Text
  | .expression value => value.mentioned
  | .assign targets value => value.mentioned ++ mentionedTargets targets
  | .update target _ value => target.mentioned ++ value.mentioned
  | .delete targets => mentionedTargets targets
  | .branch condition body otherwise =>
      condition.mentioned ++ mentionedStatements body ++ mentionedStatements otherwise
  | .loop target collection body otherwise =>
      target.mentioned ++ collection.mentioned ++ mentionedStatements body
        ++ mentionedStatements otherwise
  | .repeatWhile condition body otherwise =>
      condition.mentioned ++ mentionedStatements body ++ mentionedStatements otherwise
  | .breakLoop | .continueLoop | .pass => []
  | .result value => mentionedOption value

/-- The names that several statements read or assign to. -/
def mentionedStatements : List Statement → List Text
  | [] => []
  | statement :: rest => statement.mentioned ++ mentionedStatements rest

end

end Stencil.Script
