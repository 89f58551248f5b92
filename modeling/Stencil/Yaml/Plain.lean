import Stencil.Data
import Stencil.Yaml.Cursor

/-!
# Plain scalars

A plain scalar is written without quotes. `plain` finds where it ends: at a colon or a comment that
stands apart, at brackets and commas if it stands inside brackets, and at a line that is not set in
far enough. `ofPlain` is the value that its text stands for: truth values, nothing, numbers and
dates have fixed forms, and all else is text.
-/

namespace Stencil.Yaml

/-! ### Extent -/

/-- Does the character open or close brackets, or part what is inside them? -/
def isBracketSign (c : Char) : Bool :=
  [',', '[', ']', '{', '}'].contains c

/-- Does a plain scalar end before the character? -/
def endsPlain (inBrackets : Bool) (c : Char) (rest : Text) : Bool :=
  isSpace c || isBreak c || (c = ':' && isApart rest) || (inBrackets && isBracketSign c)

/-- The characters of a plain scalar up to its end or the next space. -/
def plainRun (inBrackets : Bool) : Text → Text
  | [] => []
  | c :: rest => if endsPlain inBrackets c rest then [] else c :: plainRun inBrackets rest

/-- The characters that no plain scalar begins with. -/
def reservedSigns : Text := ",[]\x7b\x7d#&*!|>'\"%@`".toList

/-- Can a plain scalar begin here? The indicators for entries, keys and values begin one only if
something is attached to them. -/
def mayBeginPlain (inBrackets : Bool) : Text → Bool
  | [] => false
  | c :: rest =>
      if c = '-' || c = ':' then !isApart rest
      else if c = '?' then !inBrackets && !isApart rest
      else !(isSpace c || isBreak c || reservedSigns.contains c)

/-- The text of a plain scalar that has at most `runs` runs, and the cursor after it. -/
def plainRuns (frame : Frame) : Nat → Cursor → Text × Cursor
  | 0, cursor => ([], cursor)
  | runs + 1, cursor =>
      let run := plainRun frame.inBrackets cursor.rest
      let (between, after) := (cursor.advance run.length).gap (· = ' ')
      if run.isEmpty then ([], cursor)
      else if between.isEmpty || after.atEnd || after.startsWith '#'
          || !frame.admits after.column then (run, after)
      else
        match plainRuns frame runs after with
        | ([], last) => (run, last)
        | (more, last) => (run ++ between ++ more, last)

/-- The text of a plain scalar, and the cursor after it and the spaces that follow. -/
def plain (frame : Frame) (cursor : Cursor) : Text × Cursor :=
  plainRuns frame cursor.rest.length cursor

/-! ### Meaning -/

/-- A text without its sign, and whether that is a minus. -/
def splitSign : Text → Bool × Text
  | '-' :: size => (true, size)
  | '+' :: size => (false, size)
  | size => (false, size)

/-- The value of digits to a base, between which underscores are passed over. -/
def digitsValue? (base : Nat) (digits : Text) : Option Nat :=
  let digit? (c : Char) : Option Nat :=
    if c.isDigit then some (c.toNat - '0'.toNat)
    else if 'a' ≤ c ∧ c ≤ 'f' then some (c.toNat - 'a'.toNat + 10)
    else if 'A' ≤ c ∧ c ≤ 'F' then some (c.toNat - 'A'.toNat + 10)
    else none
  let known := digits.filter (· ≠ '_')
  if known.isEmpty then none
  else known.foldlM (fun value c => do
    let digit ← digit? c
    if digit < base then some (value * base + digit) else none) 0

/-- An integer: decimal, or with a mark for base two, eight or sixteen. -/
def int? (text : Text) : Option Int :=
  let (isNegative, size) := splitSign text
  let value := match size with
    | '0' :: 'b' :: digits => digitsValue? 2 digits
    | '0' :: 'o' :: digits => digitsValue? 8 digits
    | '0' :: 'x' :: digits => digitsValue? 16 digits
    | digits => digitsValue? 10 digits
  if text.head? = some '_' then none
  else value.map fun n => if isNegative then -(n : Int) else n

/-- Is a text an exponent, as it may follow a number? -/
def isExponent (needsSign : Bool) : Text → Bool
  | [] => true
  | e :: rest =>
      let digits := match rest with
        | '-' :: digits | '+' :: digits => digits
        | digits => if needsSign then [] else digits
      (e = 'e' || e = 'E') && !digits.isEmpty && digits.all Char.isDigit

/-- Is a text, without its sign, a decimal with a point or an exponent? A number that begins with
its point needs a sign in its exponent. -/
def isDecimal (size : Text) : Bool :=
  let isMantissa (c : Char) : Bool := c.isDigit || c = '_'
  let whole := size.takeWhile isMantissa
  match size.dropWhile isMantissa with
  | '.' :: rest =>
      let fraction := rest.takeWhile isMantissa
      let exponent := rest.dropWhile isMantissa
      if whole.isEmpty then !fraction.isEmpty && isExponent true exponent
      else whole.head? != some '_' && isExponent false exponent
  | exponent => whole.any Char.isDigit && whole.head? != some '_' && !exponent.isEmpty
      && isExponent false exponent

/-- A floating point number. -/
def float? (text : Text) : Option Float :=
  let (isNegative, size) := splitSign text
  let infinity : Float := 1.0 / 0.0
  if [".inf", ".Inf", ".INF"].any (·.toList = size) then
    some (if isNegative then -infinity else infinity)
  else if [".nan", ".NaN", ".NAN"].any (·.toList = text) then some (0.0 / 0.0)
  else if isDecimal size then Decimal.read? (text.filter (· ≠ '_'))
  else none

/-- A date, as a form: digits stand for digits. -/
def dateForm : Text := "0000-00-00".toList

/-- Is a text of a form? -/
def hasForm (form text : Text) : Bool :=
  text.map (fun c => if c.isDigit then '0' else c) = form

/-- The value of a plain scalar. -/
def ofPlain (text : Text) : Data :=
  if ["~", "null", "Null", "NULL"].any (·.toList = text) then .null
  else if ["true", "True", "TRUE"].any (·.toList = text) then .bool true
  else if ["false", "False", "FALSE"].any (·.toList = text) then .bool false
  else match float? text with
    | some value => .float value
    | none =>
        match int? text with
        | some value => .int value
        | none => if hasForm dateForm text then .other "date".toList else .text text

end Stencil.Yaml
