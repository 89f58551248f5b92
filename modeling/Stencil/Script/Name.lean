import Stencil.Text.Class
import Stencil.Unicode.NameStart
import Stencil.Unicode.NameContinue

/-!
# Names in scripts

Which texts are names in the language of expressions, and which words it keeps for itself.

Two names are one name when they are the same text. Names outside of ASCII are taken to be written
in their normal form (NFKC), in scripts and in the keys of scopes alike: the language of expressions
brings the names of a script into that form before it looks them up, and that step is not part of
the subset described here. A name in another form, such as one with a ligature of `f` and `i`, is a
name of its own.
-/

namespace Stencil.Script

/-- May the character begin a name? -/
def isNameStart (c : Char) : Bool :=
  if c.toNat < 128 then c.isAlpha || c = '_' else Unicode.nameStart.contains c.toNat

/-- May the character continue a name? -/
def isNameContinue (c : Char) : Bool :=
  if c.toNat < 128 then c.isAlphanum || c = '_' else Unicode.nameContinue.contains c.toNat

/-- Is the text a name, reserved words included? Texts that are not in normal form are not singled
out. -/
def isName : Text → Bool
  | [] => false
  | c :: rest => isNameStart c && rest.all isNameContinue

/-- The words of the script language that are never names of variables. -/
def reservedWords : List String :=
  ["False", "None", "True", "and", "as", "assert", "async", "await", "break", "class", "continue",
   "def", "del", "elif", "else", "except", "finally", "for", "from", "global", "if", "import",
   "in", "is", "lambda", "nonlocal", "not", "or", "pass", "raise", "return", "try", "while",
   "with", "yield"]

/-- Is the text one of the reserved words? -/
def isReserved (text : Text) : Bool :=
  reservedWords.any fun word => word.toList = text

end Stencil.Script
