import Stencil.Number.Layout
import Stencil.Script.Expr
import Stencil.Script.Name

/-!
# Lexemes

A source is read into names, constants, signs, and marks for the ends of lines and for blocks that
are set in. Brackets carry a line on, and so does a backslash at its end.

Design points:

* How far a line is set in is measured twice, with tabs up to the next multiple of eight and with
  tabs as one column. Two lines have to compare the same way in both measures.
* A number is followed directly by a letter only where a word such as `if` begins.
* A text literal may have a prefix that keeps backslashes or makes it a sequence of bytes.
* A source with a null character is refused before anything else; that is not done here.
-/

namespace Stencil.Script

/-- A piece of a source. -/
inductive Lexeme
  | name (name : Text)
  | constant (value : Constant)
  /-- A text literal; neighbours are joined later. -/
  | text (value : Text)
  | bytes (value : List UInt8)
  | sign (sign : Text)
  | lineEnd
  | indent
  | dedent

namespace Lexeme

/-! ### Numbers -/

/-- The value of a digit in a base up to sixteen. -/
def digitOf? (base : Nat) (c : Char) : Option Nat :=
  let value? :=
    if c.isDigit then some (c.toNat - '0'.toNat)
    else if 'a' ≤ c && c ≤ 'f' then some (c.toNat - 'a'.toNat + 10)
    else if 'A' ≤ c && c ≤ 'F' then some (c.toNat - 'A'.toNat + 10)
    else none
  value?.filter (· < base)

/-- Digits in a base, where single underscores may stand between two of them, and what follows. -/
def digits (base : Nat) : Text → Text × Text
  | [] => ([], [])
  | [c] => if (digitOf? base c).isSome then ([c], []) else ([], [c])
  | c :: d :: rest =>
      if (digitOf? base c).isNone then ([], c :: d :: rest)
      else if d = '_' then
        match rest with
        | e :: _ =>
            if (digitOf? base e).isSome then
              let (more, after) := digits base rest
              (c :: more, after)
            else ([c], d :: rest)
        | [] => ([c], [d])
      else
        let (more, after) := digits base (d :: rest)
        (c :: more, after)

/-- The value of digits in a base. -/
def valueOf (base : Nat) (text : Text) : Nat :=
  text.foldl (fun value c => value * base + (digitOf? base c).getD 0) 0

/-- May this text follow directly after a number? -/
def mayFollowNumber (rest : Text) : Bool :=
  let word := rest.takeWhile fun c => isNameContinue c || 128 ≤ c.toNat
  word.isEmpty || ["and", "else", "for", "if", "in", "is", "not", "or"].any fun allowed =>
    allowed.toList = word

/-- A number in a base with a two-character mark before its digits. -/
def markedNumber? (base : Nat) (text : Text) : Option (Lexeme × Text) :=
  let body := match text with
    | '_' :: rest => rest
    | text => text
  let (found, rest) := digits base body
  if found.isEmpty || !mayFollowNumber rest then none
  else some (.constant (.int (valueOf base found)), rest)

/-- The exponent of a number, if one follows. -/
def exponent (text : Text) : Option (Int × Text) :=
  match text with
  | e :: rest =>
      if e = 'e' || e = 'E' then
        let (factor, body) : Int × Text := match rest with
          | '-' :: body => (-1, body)
          | '+' :: body => (1, body)
          | body => (1, body)
        let (found, after) := digits 10 body
        if found.isEmpty then none else some (factor * valueOf 10 found, after)
      else none
  | [] => none

/-- The greatest number of decimal digits of an integer in a source. -/
def digitLimit : Nat := 4300

/-- A decimal number. Without a point and an exponent it is an integer, which does not begin with a
zero unless it is zero. -/
def decimalNumber? (text : Text) : Option (Lexeme × Text) :=
  let (whole, afterWhole) := digits 10 text
  let (fraction, afterFraction) : Option Text × Text := match afterWhole with
    | '.' :: rest =>
        let (found, after) := digits 10 rest
        (some found, after)
    | rest => (none, rest)
  match fraction, exponent afterFraction with
  | none, none =>
      if !mayFollowNumber afterWhole then none
      else if whole.head? = some '0' && whole.any (· ≠ '0') then none
      else if digitLimit < whole.length then none
      else some (.constant (.int (valueOf 10 whole)), afterWhole)
  | fraction, power =>
      let fraction := fraction.getD []
      let (power, rest) := power.getD (0, afterFraction)
      if !mayFollowNumber rest then none
      else
        let number := Decimal.toFloat (valueOf 10 (whole ++ fraction)) (power - fraction.length)
        some (.constant (.float number), rest)

/-- A number at the start of a text that begins with a digit or with a point and a digit. -/
def number? (text : Text) : Option (Lexeme × Text) :=
  match text with
  | '0' :: mark :: rest =>
      if mark = 'x' || mark = 'X' then markedNumber? 16 rest
      else if mark = 'o' || mark = 'O' then markedNumber? 8 rest
      else if mark = 'b' || mark = 'B' then markedNumber? 2 rest
      else decimalNumber? text
  | text => decimalNumber? text

/-! ### Text literals -/

/-- The character with the value of digits in a base. -/
def charOf? (base : Nat) (text : Text) : Option Char :=
  if text.all fun c => (digitOf? base c).isSome then
    let code := valueOf base text
    if code < 0x110000 then some (Char.ofNat code) else none
  else none

/-- What a backslash and the text after it stand for, and the rest. In bytes there are no
escapes for characters beyond them. -/
def escape? (isBytes : Bool) (text : Text) : Option (Text × Text) :=
  match text with
  | [] => none
  | c :: rest =>
      if c = '\n' then some ([], rest)
      else if c = '\\' || c = '\'' || c = '"' then some ([c], rest)
      else if c = 'a' then some (['\x07'], rest)
      else if c = 'b' then some (['\x08'], rest)
      else if c = 'f' then some (['\x0c'], rest)
      else if c = 'n' then some (['\n'], rest)
      else if c = 'r' then some (['\r'], rest)
      else if c = 't' then some (['\t'], rest)
      else if c = 'v' then some (['\x0b'], rest)
      else if (digitOf? 8 c).isSome then
        let found := (c :: rest.take 2).takeWhile fun d => (digitOf? 8 d).isSome
        let code := valueOf 8 found
        some ([Char.ofNat (if isBytes then code % 256 else code)], (c :: rest).drop found.length)
      else
        let width := if c = 'x' then 2 else if isBytes then 0
          else if c = 'u' then 4 else if c = 'U' then 8 else 0
        if width = 0 then
          if c = 'N' && !isBytes then none else some (['\\', c], rest)
        else if rest.length < width then none
        else (charOf? 16 (rest.take width)).map fun found => ([found], rest.drop width)

/-- The text of a literal up to its closing quotes, and what follows them. A literal with single
quotes ends on its line. -/
def literalBody? (isRaw isBytes : Bool) (quotes : Text) (text : Text) : Option (Text × Text) :=
  match text with
  | [] => none
  | c :: rest =>
      if quotes.isPrefixOf (c :: rest) then some ([], (c :: rest).drop quotes.length)
      else if c = '\\' then
        if isRaw then
          match rest with
          | [] => none
          | d :: after =>
              (literalBody? isRaw isBytes quotes after).map fun (body, last) =>
                (c :: d :: body, last)
        else
          match escape? isBytes rest with
          | none => none
          | some (found, after) =>
              if after.length < rest.length then
                (literalBody? isRaw isBytes quotes after).map fun (body, last) =>
                  (found ++ body, last)
              else none
      else if c = '\n' && quotes.length = 1 then none
      else if isBytes && 128 ≤ c.toNat then none
      else (literalBody? isRaw isBytes quotes rest).map fun (body, last) => (c :: body, last)
  termination_by text.length

/-- The quotes at the start of a text: three of a kind, or one. -/
def openingQuotes? (text : Text) : Option Text :=
  match text with
  | c :: rest =>
      if c = '\'' || c = '"' then
        if [c, c].isPrefixOf rest then some [c, c, c] else some [c]
      else none
  | [] => none

/-- A text literal at the start of a text, after the letters of its prefix. -/
def literal? (letters : Text) (text : Text) : Option (Lexeme × Text) := do
  let quotes ← openingQuotes? text
  let isRaw := letters.any (· = 'r')
  let isBytes := letters.any (· = 'b')
  let (body, rest) ← literalBody? isRaw isBytes quotes (text.drop quotes.length)
  if isBytes then return (.bytes (body.map fun c => c.toNat.toUInt8), rest)
  else return (.text body, rest)

/-- The prefixes of text literals, in lower case. -/
def literalPrefixes : List String := ["", "r", "u", "b", "br", "rb"]

/-! ### Signs -/

/-- All signs, longer ones first. -/
def signs : List String :=
  ["**=", "//=", ">>=", "<<=", "...", "**", "//", ">>", "<<", "<=", ">=", "==", "!=", "->", "+=",
   "-=", "*=", "/=", "%=", "@=", "&=", "|=", "^=", ":=", "+", "-", "*", "/", "%", "@", "&", "|",
   "^", "~", "<", ">", "(", ")", "[", "]", "\x7b", "\x7d", ",", ":", ".", ";", "="]

/-- The longest sign at the start of a text, and what follows it. -/
def sign? (text : Text) : Option (Text × Text) :=
  (signs.find? fun known => known.toList.isPrefixOf text).map fun known =>
    (known.toList, text.drop known.length)

/-! ### Lines -/

/-- How far a line is set in, measured with wide and with narrow tabs, and the rest of the line. -/
def measure (wide narrow : Nat) : Text → Nat × Nat × Text
  | ' ' :: rest => measure (wide + 1) (narrow + 1) rest
  | '\t' :: rest => measure ((wide / 8 + 1) * 8) (narrow + 1) rest
  | '\x0c' :: rest => measure 0 0 rest
  | rest => (wide, narrow, rest)

/-- The marks for a line set in by two measures, and the measures of the open blocks after it. -/
def align? (wide narrow : Nat) : List (Nat × Nat) → Option (List Lexeme × List (Nat × Nat))
  | [] => if wide = 0 && narrow = 0 then some ([], []) else some ([.indent], [(wide, narrow)])
  | (w, n) :: outer =>
      if wide = w then if narrow = n then some ([], (w, n) :: outer) else none
      else if w < wide then
        if n < narrow then some ([.indent], (wide, narrow) :: (w, n) :: outer) else none
      else
        let (w', n') := outer.head?.getD (0, 0)
        if w' < wide then none
        else if wide = w' && narrow ≠ n' then none
        else (align? wide narrow outer).map fun (marks, open_) => (.dedent :: marks, open_)

/-- The rest of a text after a comment: its line end, or nothing. -/
def afterComment (text : Text) : Text :=
  text.dropWhile (· ≠ '\n')

/-- The greatest number of brackets inside one another. -/
def bracketLimit : Nat := 200

/-- The greatest number of blocks inside one another. -/
def blockLimit : Nat := 99

/-- Where the reading of a source stands. -/
structure Reading where
  /-- The measures of the open blocks, innermost first. -/
  blocks : List (Nat × Nat) := []
  /-- The number of open brackets. -/
  brackets : Nat := 0
  /-- Is the reading at the start of a line? -/
  atLineStart : Bool := true

/-- Does an opening or a closing bracket change the number of open ones? -/
def bracketsAfter? (brackets : Nat) (sign : Text) : Option Nat :=
  if sign = ['('] || sign = ['['] || sign = ['\x7b'] then
    if brackets < bracketLimit then some (brackets + 1) else none
  else if sign = [')'] || sign = [']'] || sign = ['\x7d'] then
    if 0 < brackets then some (brackets - 1) else none
  else some brackets

/-- The marks at the end of a source. -/
def finish? (reading : Reading) : Option (List Lexeme) :=
  if 0 < reading.brackets then none
  else some ((if reading.atLineStart then [] else [.lineEnd])
    ++ reading.blocks.map fun _ => .dedent)

/-- The lexeme at the start of a text that is neither blank nor the end of a line. -/
def next? (text : Text) : Option (Lexeme × Text) :=
  match text with
  | [] => none
  | c :: rest =>
      if c.isDigit || (c = '.' && (rest.head?.map Char.isDigit).getD false) then number? text
      else if isNameStart c || 128 ≤ c.toNat then
        let word := text.takeWhile fun d => isNameContinue d || 128 ≤ d.toNat
        let after := text.drop word.length
        let letters := word.map Char.toLower
        if (openingQuotes? after).isSome
            && literalPrefixes.any fun known => known.toList = letters then
          literal? letters after
        else if isName word then some (.name word, after)
        else none
      else if c = '\'' || c = '"' then literal? [] text
      else (sign? text).map fun found => (.sign found.1, found.2)

/-- The lexemes of a text from a point of the reading on, with at most `limit` steps. -/
def scan? (limit : Nat) (reading : Reading) (text : Text) : Option (List Lexeme) :=
  match limit with
  | 0 => none
  | limit + 1 =>
      if reading.atLineStart then
        let (wide, narrow, rest) := measure 0 0 text
        match rest with
        | [] => finish? reading
        | '\n' :: after => scan? limit reading after
        | '#' :: after => scan? limit reading (afterComment after)
        | rest => do
            let (marks, blocks) ← align? wide narrow reading.blocks
            if blockLimit < blocks.length then none
            else
              let more ← scan? limit { reading with blocks, atLineStart := false } rest
              return marks ++ more
      else
        match text with
        | [] => finish? reading
        | ' ' :: rest | '\t' :: rest | '\x0c' :: rest => scan? limit reading rest
        | '#' :: rest => scan? limit reading (afterComment rest)
        | '\n' :: rest =>
            if 0 < reading.brackets then scan? limit reading rest
            else do
              let more ← scan? limit { reading with atLineStart := true } rest
              return .lineEnd :: more
        | ['\\', '\n'] => none
        | '\\' :: '\n' :: rest => scan? limit reading rest
        | text => do
            let (lexeme, rest) ← next? text
            let brackets ← match lexeme with
              | .sign found => bracketsAfter? reading.brackets found
              | _ => some reading.brackets
            let more ← scan? limit { reading with brackets } rest
            return lexeme :: more

/-- The lexemes of a source. Every step takes at least one character or ends a line. -/
def ofSource? (source : Text) : Option (List Lexeme) :=
  scan? (2 * source.length + 4) {} source

end Lexeme

end Stencil.Script
