import Stencil.Place
import Stencil.Text.Quoted

/-!
# Tokens

The flat sequence that a template is read into: literal text, expressions, and statements with the
word that names them. A token remembers where its text or its opening delimiter stands.
-/

namespace Stencil

/-- What a token is. -/
inductive Token.Kind
  /-- Literal text outside all delimiters. -/
  | text
  /-- The source of an expression. -/
  | expression
  /-- A statement; the token's value is what follows its name. -/
  | statement (name : Text)
  deriving Repr, DecidableEq

/-- A piece of a template with the place where it begins. -/
structure Token where
  kind : Token.Kind
  /-- The literal text, the source of the expression, or the argument of the statement. -/
  value : Text
  place : Place := {}
  deriving Repr, DecidableEq

namespace Token

/-- The name of a statement; other tokens have none. -/
def name (token : Token) : Text :=
  match token.kind with
  | .statement name => name
  | _ => []

/-- The kind of a token in a listing. -/
def Kind.label : Kind → Text
  | .text => "TEXT".toList
  | .expression => "EXPRESSION".toList
  | .statement _ => "STATEMENT".toList

/-- A token as it is listed: its kind, its value in quotes, and its line and column. -/
def describe (token : Token) : Text :=
  let label := match token.kind with
    | .statement name => token.kind.label ++ ':' :: name
    | kind => kind.label
  "Token(".toList ++ label ++ ", ".toList ++ Text.quoted token.value ++ ", ".toList
    ++ token.place.toText ++ ")".toList

end Token

end Stencil
