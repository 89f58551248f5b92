import Stencil.Text.Basic
import Stencil.Unicode.Alphanumeric
import Stencil.Unicode.Digit
import Stencil.Unicode.Printable

/-!
# Classes of characters

Which characters are blank, belong to a word, are decimal digits, end a line, or can be printed as
they are. Each test decides ASCII directly and looks the rest up in a table of code points.

`Text.trim` removes blanks at both ends. Blanks include the four information separators, the next
line control and the no-break space; they do not include the zero width space.
-/

namespace Stencil

/-! ### Classes -/

/-- Is the character white space? -/
def isBlank (c : Char) : Bool :=
  let code := c.toNat
  (9 ≤ code && code ≤ 13) || (28 ≤ code && code ≤ 32) || code == 0x85 || code == 0xa0 ||
    code == 0x1680 || (0x2000 ≤ code && code ≤ 0x200a) || code == 0x2028 || code == 0x2029 ||
    code == 0x202f || code == 0x205f || code == 0x3000

/-- Does the character end a line of text? A carriage return followed by a line feed is one end. -/
def isLineEnd (c : Char) : Bool :=
  let code := c.toNat
  (10 ≤ code && code ≤ 13) || (28 ≤ code && code ≤ 30) || code == 0x85 ||
    code == 0x2028 || code == 0x2029

/-- Is the character a letter, a digit of any kind, or another number? -/
def isAlphanumeric (c : Char) : Bool :=
  if c.toNat < 128 then c.isAlphanum else Unicode.alphanumeric.contains c.toNat

/-- May the character stand in a word? -/
def isWord (c : Char) : Bool :=
  c = '_' || isAlphanumeric c

/-- The value of a decimal digit. -/
def digitValue? (c : Char) : Option Nat :=
  if c.toNat < 128 then if c.isDigit then some (c.toNat - 48) else none
  else (Unicode.decimalDigits.find? c.toNat).map fun range => (c.toNat - range.1) % 10

/-- Is the character a decimal digit? -/
def isDigit (c : Char) : Bool :=
  (digitValue? c).isSome

/-- Can the character be shown as it is? -/
def isPrintable (c : Char) : Bool :=
  if c.toNat < 127 then 32 ≤ c.toNat else Unicode.printable.contains c.toNat

/-! ### Trimming -/

namespace Text

/-- The text without the blanks at its start. -/
def trimStart (text : Text) : Text :=
  text.dropWhile isBlank

/-- The text without the blanks at its end. -/
def trimEnd (text : Text) : Text :=
  (text.reverse.dropWhile isBlank).reverse

/-- The text without the blanks at either end. -/
def trim (text : Text) : Text :=
  trimEnd (trimStart text)

/-- Is the text one word: not empty, and made of word characters only? -/
def isSingleWord (text : Text) : Bool :=
  !text.isEmpty && text.all isWord

end Text

end Stencil
