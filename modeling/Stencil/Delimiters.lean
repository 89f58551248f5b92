import Stencil.Text.Basic

/-!
# Delimiters

A template marks off two kinds of blocks, expressions and statements. Each kind has an opening and
a closing delimiter of its own.
-/

namespace Stencil

/-- The two kinds of marked off blocks. -/
inductive BlockKind
  | expression
  | statement
  deriving Repr, DecidableEq

/-- The four delimiters of a template. -/
@[ext] structure Delimiters where
  expressionStart : Text := ['{', '{']
  expressionEnd : Text := ['}', '}']
  statementStart : Text := ['{', '%']
  statementEnd : Text := ['%', '}']
  deriving Repr, DecidableEq

namespace Delimiters

/-- The delimiter that opens a block. -/
def opener (d : Delimiters) : BlockKind → Text
  | .expression => d.expressionStart
  | .statement => d.statementStart

/-- The delimiter that closes a block. -/
def closer (d : Delimiters) : BlockKind → Text
  | .expression => d.expressionEnd
  | .statement => d.statementEnd

/-- The kind of block that opens at the very start of a text. An expression wins a tie. -/
def openedBy? (d : Delimiters) (text : Text) : Option BlockKind :=
  if d.expressionStart.isPrefixOf text then some .expression
  else if d.statementStart.isPrefixOf text then some .statement
  else none

end Delimiters

end Stencil
