import Stencil.Yaml.Cursor

/-!
# Quoted scalars

A scalar between quotes is text whatever it looks like. Between single quotes a quote is written
twice and nothing else is special; between double quotes a backslash begins an escape. Spaces at the
ends of lines are not part of the text, and line ends fold as they do in plain scalars.
-/

namespace Stencil.Yaml

/-! ### Escapes -/

/-- The character that an escape of one character stands for. -/
def escaped? (c : Char) : Option Char :=
  match c with
  | '0' => some '\x00'
  | 'a' => some '\x07'
  | 'b' => some '\x08'
  | 't' | '\t' => some '\t'
  | 'n' => some '\n'
  | 'v' => some '\x0b'
  | 'f' => some '\x0c'
  | 'r' => some '\r'
  | 'e' => some '\x1b'
  | ' ' | '"' | '/' | '\\' => some c
  | 'N' => some '\u0085'
  | '_' => some '\u00a0'
  | 'L' => some '\u2028'
  | 'P' => some '\u2029'
  | _ => none

/-- The number of digits in an escape by code point. -/
def codeLength? (c : Char) : Option Nat :=
  match c with
  | 'x' => some 2
  | 'u' => some 4
  | 'U' => some 8
  | _ => none

/-- The value of hexadecimal digits. -/
def hexValue? (digits : Text) : Option Nat :=
  digits.foldlM (fun value c =>
    if c.isDigit then some (value * 16 + (c.toNat - '0'.toNat))
    else if 'a' ≤ c ∧ c ≤ 'f' then some (value * 16 + (c.toNat - 'a'.toNat + 10))
    else if 'A' ≤ c ∧ c ≤ 'F' then some (value * 16 + (c.toNat - 'A'.toNat + 10))
    else none) 0

/-- The code point that `count` hexadecimal digits at the start of a text stand for. -/
def code? (count : Nat) (text : Text) : Option Nat :=
  if (text.take count).length = count then hexValue? (text.take count) else none

/-- The second half of a character beyond the first plane, written as an escape of its own. -/
def lowHalf? : Text → Option Nat
  | '\\' :: 'u' :: text => (code? 4 text).filter fun code => 0xdc00 ≤ code && code ≤ 0xdfff
  | _ => none

/-- The character of an escape and the number of characters after its backslash. A character beyond
the first plane may be written as two escapes, one for each half. -/
def escape? : Text → Option (Char × Nat)
  | [] => none
  | c :: rest =>
      match escaped? c, codeLength? c with
      | some found, _ => some (found, 1)
      | none, none => none
      | none, some count => do
          let code ← code? count rest
          if 0xd800 ≤ code ∧ code ≤ 0xdbff then
            let low ← lowHalf? (rest.drop count)
            some (Char.ofNat (0x10000 + (code - 0xd800) * 0x400 + (low - 0xdc00)), count + 7)
          else if code.isValidChar then some (Char.ofNat code, count + 1)
          else none

/-! ### Text -/

/-- The text up to the closing quote in at most `rounds` pieces, and the cursor after that quote. -/
def quotedRest (quote : Char) : Nat → Cursor → Option (Text × Cursor)
  | 0, _ => none
  | rounds + 1, cursor => do
      match cursor.rest with
      | [] => none
      | c :: rest =>
          if c = quote then
            if quote = '\'' && rest.head? = some '\'' then
              let (more, last) ← quotedRest quote rounds (cursor.advance 2)
              return ('\'' :: more, last)
            else return ([], cursor.advance 1)
          else if isSpace c || isBreak c then
            let (between, after) := cursor.gap isSpace
            if after.atEnd then none
            else
              let (more, last) ← quotedRest quote rounds after
              return (between ++ more, last)
          else if c = '\\' && quote = '"' then
            if rest.head?.any isBreak then
              let (between, after) := (cursor.advance 1).gap isSpace
              if after.atEnd then none
              else
                let (more, last) ← quotedRest quote rounds after
                return (between.filter isBreak ++ more, last)
            else
              let (found, length) ← escape? rest
              let (more, last) ← quotedRest quote rounds (cursor.advance (length + 1))
              return (found :: more, last)
          else
            let (more, last) ← quotedRest quote rounds (cursor.advance 1)
            return (c :: more, last)

/-- The text of a quoted scalar whose opening quote is next, and the cursor after it. -/
def quoted? (quote : Char) (cursor : Cursor) : Option (Text × Cursor) :=
  quotedRest quote cursor.rest.length (cursor.advance 1)

end Stencil.Yaml
