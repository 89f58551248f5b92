import Stencil.Text.Basic

/-!
# Scripts as trees

The language of expressions and scripts: expressions, the places that can be assigned to, and
statements. Only what has been read from a source is here; what it means is in
`Stencil.Script.Run`.
-/

namespace Stencil.Script

/-- A value that is written out in a source. -/
inductive Constant
  | none
  | bool (value : Bool)
  | int (value : Int)
  | float (value : Float)
  | text (value : Text)
  | bytes (value : List UInt8)

/-- The operators between two values. -/
inductive Operator
  | add | sub | mul | div | floorDiv | mod | pow
  deriving Repr, DecidableEq

/-- The comparisons. -/
inductive Comparison
  | eq | ne | lt | le | gt | ge | isIn | notIn | is | isNot
  deriving Repr, DecidableEq

/-- An expression. -/
inductive Expr
  | constant (value : Constant)
  | name (name : Text)
  | tuple (items : List Expr)
  | list (items : List Expr)
  | set (items : List Expr)
  | dict (entries : List (Expr × Expr))
  | subscript (object index : Expr)
  /-- The bounds of a slice; it stands only as an index. -/
  | slice (start stop step : Option Expr)
  | attribute (object : Expr) (name : Text)
  | call (function : Expr) (arguments : List Expr) (named : List (Text × Expr))
  | binary (operator : Operator) (left right : Expr)
  | negative (operand : Expr)
  | positive (operand : Expr)
  | not (operand : Expr)
  | and (left right : Expr)
  | or (left right : Expr)
  /-- A chain of comparisons: each stands between its operand and the one before it. -/
  | compare (first : Expr) (rest : List (Comparison × Expr))
  | choice (condition ifTrue ifFalse : Expr)
  deriving Inhabited

/-- A place that can be assigned to. -/
inductive Target
  | name (name : Text)
  | subscript (object index : Expr)
  | attribute (object : Expr) (name : Text)
  /-- The items of a sequence, each to a place of its own. -/
  | items (targets : List Target)
  deriving Inhabited

/-- A statement. -/
inductive Statement
  | expression (value : Expr)
  | assign (targets : List Target) (value : Expr)
  /-- Assign the result of an operator between what a place holds and a value. -/
  | update (target : Target) (operator : Operator) (value : Expr)
  | delete (targets : List Target)
  | branch (condition : Expr) (body otherwise : List Statement)
  | loop (target : Target) (collection : Expr) (body otherwise : List Statement)
  | repeatWhile (condition : Expr) (body otherwise : List Statement)
  | breakLoop
  | continueLoop
  | pass
  | result (value : Option Expr)
  deriving Inhabited

/-- The sign of an operator. -/
def Operator.label : Operator → Text
  | add => ['+']
  | sub => ['-']
  | mul => ['*']
  | div => ['/']
  | floorDiv => ['/', '/']
  | mod => ['%']
  | pow => ['*', '*']

/-- The sign of an operator, as messages about its operands give it. -/
def Operator.messageLabel : Operator → Text
  | pow => "** or pow()".toList
  | operator => operator.label

/-- The sign of a comparison. -/
def Comparison.label : Comparison → Text
  | eq => ['=', '=']
  | ne => ['!', '=']
  | lt => ['<']
  | le => ['<', '=']
  | gt => ['>']
  | ge => ['>', '=']
  | isIn => "in".toList
  | notIn => "not in".toList
  | is => "is".toList
  | isNot => "is not".toList

end Stencil.Script
