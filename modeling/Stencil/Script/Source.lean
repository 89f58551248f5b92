import Stencil.Text.Basic

/-!
# Sources of expressions

What stands in a block is the source of an expression. A source on one line without a semicolon is
a single expression, and its value is the result; any other source is a script that returns its
result itself.
-/

namespace Stencil.Script

/-- Is the source a single expression rather than a script? -/
def isExpression (source : Text) : Bool :=
  !source.contains '\n' && !source.contains ';'

/-- The source as it is evaluated: a single expression is returned. -/
def prepare (source : Text) : Text :=
  if isExpression source then ['r', 'e', 't', 'u', 'r', 'n', ' '] ++ source else source

end Stencil.Script
