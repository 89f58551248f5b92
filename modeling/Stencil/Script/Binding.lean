import Stencil.Script.Expr

/-!
# What a script binds

The names that a script assigns to are its own variables, wherever in it the assignment stands; a
loop and a deletion assign too. `isWellFormed` says that leaving and continuing a loop happens
inside one, and that loops do not lie too deeply inside one another.
-/

namespace Stencil.Script

mutual

/-- The names that a place assigns to. -/
def Target.names : Target → List Text
  | .name name => [name]
  | .subscript _ _ | .attribute _ _ => []
  | .items targets => namesOfTargets targets

/-- The names that several places assign to. -/
def namesOfTargets : List Target → List Text
  | [] => []
  | target :: rest => target.names ++ namesOfTargets rest

end

mutual

/-- The names that a statement assigns to. -/
def Statement.names : Statement → List Text
  | .assign targets _ => namesOfTargets targets
  | .update target _ _ => target.names
  | .delete targets => namesOfTargets targets
  | .branch _ body otherwise => namesOfStatements body ++ namesOfStatements otherwise
  | .loop target _ body otherwise =>
      target.names ++ namesOfStatements body ++ namesOfStatements otherwise
  | .repeatWhile _ body otherwise => namesOfStatements body ++ namesOfStatements otherwise
  | .expression _ | .breakLoop | .continueLoop | .pass | .result _ => []

/-- The names that several statements assign to. -/
def namesOfStatements : List Statement → List Text
  | [] => []
  | statement :: rest => statement.names ++ namesOfStatements rest

end

/-- The greatest number of loops inside one another. -/
def loopLimit : Nat := 20

mutual

/-- Does the statement leave or continue only loops that it lies in, `loops` of them around it? -/
def Statement.isWellFormed (loops : Nat) : Statement → Bool
  | .breakLoop | .continueLoop => 0 < loops
  | .branch _ body otherwise => areWellFormed loops body && areWellFormed loops otherwise
  | .loop _ _ body otherwise | .repeatWhile _ body otherwise =>
      loops < loopLimit && areWellFormed (loops + 1) body && areWellFormed loops otherwise
  | _ => true

/-- Is every one of the statements well formed? -/
def areWellFormed (loops : Nat) : List Statement → Bool
  | [] => true
  | statement :: rest => statement.isWellFormed loops && areWellFormed loops rest

end

end Stencil.Script
