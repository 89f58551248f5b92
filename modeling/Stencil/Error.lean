import Stencil.Token

/-!
# Errors of compilation

What can be wrong with a template before it is rendered, as causes. Every error knows the token at
fault; its wording is made in one place, `CompileError.message`.

Errors fall into classes, which lie one below another: whoever handles a class handles all errors of
the classes below it.
-/

namespace Stencil

/-- The classes of errors. -/
inductive ErrorClass
  /-- Whatever the user of a template can mend. -/
  | user
  /-- A template does not compile. -/
  | malformed
  | delimiter
  | statement
  /-- A template compiles, and a render of it fails. -/
  | render
  | evaluation
  | notSequence
  /-- Options cannot be used. -/
  | options
  /-- A value is of a wrong type, in a template or elsewhere. -/
  | type
  /-- A value is of the right type and still wrong, in a template or elsewhere. -/
  | value
  deriving Repr, DecidableEq

namespace ErrorClass

/-- All classes. -/
def all : List ErrorClass :=
  [user, malformed, delimiter, statement, render, evaluation, notSequence, options, type, value]

/-- The name of a class. -/
def label : ErrorClass → Text
  | user => "TemplateUserError".toList
  | malformed => "TemplateSyntaxError".toList
  | delimiter => "DelimiterError".toList
  | statement => "StatementError".toList
  | render => "TemplateRenderError".toList
  | evaluation => "EvaluationError".toList
  | notSequence => "IncompatibleArgumentError".toList
  | options => "ConfigError".toList
  | type => "TypeError".toList
  | value => "ValueError".toList

/-- The class and the classes that it lies below, from the inside outwards. -/
def upwards : ErrorClass → List ErrorClass
  | user => [user]
  | malformed => [malformed, user]
  | delimiter => [delimiter, malformed, user]
  | statement => [statement, malformed, user]
  | render => [render, user]
  | evaluation => [evaluation, render, user]
  | notSequence => [notSequence, render, user, type]
  | options => [options, user, value]
  | type => [type]
  | value => [value]

end ErrorClass

/-- A delimiter without its partner. `token` is the delimiter that stands alone. -/
structure DelimiterError where
  missing : Text
  token : Token
  deriving Repr, DecidableEq

/-- What can be wrong with the statements of a template. -/
inductive StatementFault
  /-- No keyword has this name. -/
  | unknown (name : Text)
  /-- A block lacks its opening or its closing keyword. -/
  | missing (keyword : Text)
  /-- A second last branch in one block. -/
  | repeatedLast (last opener : Text)
  /-- A branch after the last branch of its block. -/
  | branchAfterLast (last opener : Text)
  /-- The argument of a loop does not name an item and a collection. -/
  | loopShape (keyword : Text)
  /-- The item or the index of a loop cannot be a name. -/
  | loopName (name keyword : Text)
  /-- The item and the index of a loop have one name. -/
  | loopNamesEqual (name keyword : Text)
  deriving Repr, DecidableEq

/-- A fault of the block structure and the statement at which it shows. -/
structure StatementError where
  fault : StatementFault
  token : Token
  deriving Repr, DecidableEq

/-- Why a template does not compile. -/
inductive CompileError
  | delimiter (error : DelimiterError)
  | statement (error : StatementError)
  deriving Repr, DecidableEq

/-- A text between single quotes, as messages name keywords and delimiters. -/
def Text.named (text : Text) : Text :=
  '\'' :: text ++ ['\'']

/-- What is wrong, and the line and the column of the token at fault if there is one. -/
def Text.located (bare : Text) : Option Token → Text
  | none => bare
  | some token => bare ++ " at ".toList ++ token.place.toText

/-- The message for a delimiter without its partner. -/
def DelimiterError.text (error : DelimiterError) : Text :=
  "Missing delimiter: ".toList ++ error.missing.named

/-- The message for a fault of the block structure. -/
def StatementFault.text : StatementFault → Text
  | .unknown name => "Unknown statement: ".toList ++ name.named
  | .missing keyword => "Missing statement: ".toList ++ keyword.named
  | .repeatedLast last opener =>
      "Invalid statement: duplicate ".toList ++ last.named ++ " in ".toList ++ opener.named
  | .branchAfterLast last opener =>
      "Invalid statement: ".toList ++ last.named ++ " must be the last element of ".toList
        ++ opener.named
  | .loopShape keyword =>
      "Invalid statement: ".toList ++ keyword.named
        ++ " expects '<item>[, <index>] in <collection>'".toList
  | .loopName name keyword =>
      "Invalid statement: ".toList ++ name.named ++ " is not a valid name in ".toList
        ++ keyword.named
  | .loopNamesEqual name keyword =>
      "Invalid statement: item and index share the name ".toList ++ name.named ++ " in ".toList
        ++ keyword.named

namespace CompileError

/-- The class of the error. -/
def errorClass : CompileError → ErrorClass
  | delimiter _ => .delimiter
  | statement _ => .statement

/-- The token at fault. -/
def token : CompileError → Token
  | delimiter error => error.token
  | statement error => error.token

/-- What is wrong, without the place. -/
def text : CompileError → Text
  | delimiter error => error.text
  | statement error => error.fault.text

/-- What is wrong, and at which line and column. -/
def message (error : CompileError) : Text :=
  error.text.located (some error.token)

end CompileError

end Stencil
