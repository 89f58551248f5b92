import Stencil.Text.Class

/-!
# Quoted text

The written form of a text inside messages and outlines: between single quotes, or between double
quotes when the text has a single quote and no double one. The backslash, the quote in use and the
characters that cannot be shown are escaped, so a quoted text never contains a line end.
-/

namespace Stencil.Text

/-- The lower case hexadecimal digits of `n`, at least `width` of them. -/
def hex (width n : Nat) : Text :=
  let digits := Nat.toDigits 16 n
  List.replicate (width - digits.length) '0' ++ digits

/-- The quote that stands around a text. -/
def quoteFor (text : Text) : Char :=
  if text.contains '\'' && !text.contains '"' then '"' else '\''

/-- One character of a quoted text. -/
def escapeChar (quote c : Char) : Text :=
  if c = quote || c = '\\' then ['\\', c]
  else if c = '\n' then ['\\', 'n']
  else if c = '\r' then ['\\', 'r']
  else if c = '\t' then ['\\', 't']
  else if isPrintable c then [c]
  else if c.toNat < 0x100 then '\\' :: 'x' :: hex 2 c.toNat
  else if c.toNat < 0x10000 then '\\' :: 'u' :: hex 4 c.toNat
  else '\\' :: 'U' :: hex 8 c.toNat

/-- The text between quotes, with escapes. -/
def quoted (text : Text) : Text :=
  let quote := quoteFor text
  quote :: text.flatMap (escapeChar quote) ++ [quote]

/-- A sequence of bytes between quotes, marked by a leading `b`; all beyond printable ASCII is
escaped. -/
def quotedBytes (bytes : List UInt8) : Text :=
  let chars := bytes.map fun byte => Char.ofNat byte.toNat
  let quote := quoteFor chars
  let one (c : Char) : Text :=
    if c.toNat < 127 then escapeChar quote c else '\\' :: 'x' :: hex 2 c.toNat
  'b' :: quote :: chars.flatMap one ++ [quote]

end Stencil.Text
