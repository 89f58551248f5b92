import Stencil.Number.Layout
import Stencil.Number.Rounded
import Stencil.Script.Arithmetic
import Stencil.Script.Eval

/-!
# Formatting

A text with places for values: a percent sign, how the value is to be written, and a letter that
says what kind of writing it is. The values are those of a tuple in order, or a single one, or they
are looked up in a mapping by a key in parentheses after the percent sign.
-/

namespace Stencil.Script.Format

/-- How a value is to be written. -/
structure Style where
  /-- Fill up on the right instead of on the left. -/
  left : Bool := false
  /-- The sign of a number that is not negative. -/
  plus : Bool := false
  space : Bool := false
  /-- Show the base of an integer; keep the zeros of a decimal. -/
  full : Bool := false
  zeros : Bool := false
  width : Nat := 0
  precision : Option Nat := none

/-- A written value: a sign, a mark for the base, and what follows them. -/
structure Piece where
  sign : Text := []
  mark : Text := []
  body : Text
  isNumber : Bool := false

/-- A piece filled up to its width. Zeros stand after the sign, and spaces before it. -/
def Piece.fill (style : Style) (piece : Piece) : Text :=
  let text := piece.sign ++ piece.mark ++ piece.body
  let missing := style.width - text.length
  if style.left then text ++ List.replicate missing ' '
  else if piece.isNumber && style.zeros then
    piece.sign ++ piece.mark ++ List.replicate missing '0' ++ piece.body
  else List.replicate missing ' ' ++ text

/-- The sign of a number. -/
def signOf (style : Style) (isNegative : Bool) : Text :=
  if isNegative then ['-'] else if style.plus then ['+'] else if style.space then [' '] else []

/-- An integer to a base, with at least as many digits as the style asks for. -/
def integerPiece (style : Style) (mark : Text) (base : Nat) (isUpper : Bool) (n : Int) :
    Except Fault Piece := do
  if base = 10 then let _ ← Store.integerText n
  let digits := Nat.toDigits base n.natAbs
  let digits := if isUpper then digits.map Char.toUpper else digits
  let body := List.replicate (style.precision.getD 0 - digits.length) '0' ++ digits
  return ⟨signOf style (n < 0), if style.full then mark else [], body, true⟩

/-- A floating point number: its digits by the letter, in lower case. -/
def floatBody (style : Style) (letter : Char) (x : Float) : Text :=
  let places := style.precision.getD 6
  match Binary.ofFloat? x with
  | none => if x.isNaN then ['n', 'a', 'n'] else ['i', 'n', 'f']
  | some b =>
      let (numerator, denominator) := b.toRatio
      if letter = 'f' then Decimal.fixed style.full numerator denominator places
      else if letter = 'e' then Decimal.scientific style.full numerator denominator places
      else Decimal.general style.full numerator denominator places

/-- A floating point number. -/
def floatPiece (style : Style) (letter : Char) (x : Float) : Piece :=
  let body := floatBody style letter.toLower x
  ⟨signOf style (Arithmetic.isNegative x && !x.isNaN), [],
    if letter.isUpper then body.map Char.toUpper else body, true⟩

/-- Beyond ASCII, characters are escaped. -/
def asciiOnly (text : Text) : Text :=
  text.flatMap fun c =>
    if c.toNat < 128 then [c]
    else if c.toNat < 0x100 then '\\' :: 'x' :: Text.hex 2 c.toNat
    else if c.toNat < 0x10000 then '\\' :: 'u' :: Text.hex 4 c.toNat
    else '\\' :: 'U' :: Text.hex 8 c.toNat

/-- The fault of a value that is no number, for a letter that calls for one. -/
def notNumber (letter : Char) (kind : String) (value : Value) : Fault :=
  .typeBare ("%" ++ letter.toString ++ " format: " ++ kind ++ " is required, not ") value.typeName

/-- The letters that write an integer, with the mark and the base that they stand for. -/
def integerLetter? (letter : Char) : Option (Text × Nat) :=
  match letter with
  | 'd' | 'i' | 'u' => some ([], 10)
  | 'o' => some (['0', 'o'], 8)
  | 'x' => some (['0', 'x'], 16)
  | 'X' => some (['0', 'X'], 16)
  | _ => none

/-- A value as a letter writes it. `offset` is where the letter stands. -/
def piece (style : Style) (letter : Char) (offset : Nat) (value : Value) : Eval Piece := do
  let cut (text : Text) : Text := match style.precision with
    | some count => text.take count
    | none => text
  match integerLetter? letter with
  | some (mark, base) =>
      match value, value.integer? with
      | .float x, _ =>
          if base = 10 then
            match ← Eval.ofExcept (Arithmetic.truncate x) with
            | .int n => Eval.ofExcept (integerPiece style mark base false n)
            | _ => throw .malformed
          else throw (notNumber letter "an integer" value)
      | _, some n => Eval.ofExcept (integerPiece style mark base (letter = 'X') n)
      | _, none =>
          throw (notNumber letter (if base = 10 then "a real number" else "an integer") value)
  | none =>
      if letter = 's' then return { body := cut (← Eval.ask fun store => store.str value) }
      else if letter = 'r' then return { body := cut (← Eval.ask fun store => store.repr value) }
      else if letter = 'a' then
        return { body := cut (asciiOnly (← Eval.ask fun store => store.repr value)) }
      else if letter = 'c' then
        match value, value.integer? with
        | .text [c], _ => return { body := [c] }
        | _, some n =>
            if 0 ≤ n && n < 0x110000 then return { body := [Char.ofNat n.toNat] }
            else throw (.overflow "%c arg not in range(0x110000)")
        | _, none => throw (.type "%c requires int or char")
      else if ['e', 'E', 'f', 'F', 'g', 'G'].contains letter then
        if value.isNumber then
          return floatPiece style letter (← Eval.ofExcept (Arithmetic.floatOf value))
        else throw (.typeBare "must be real number, not " value.typeName)
      else throw ⟨.value, "unsupported format character '".toList ++ letter :: "' (0x".toList
        ++ Text.hex 0 letter.toNat ++ ") at index ".toList ++ Text.ofNat offset⟩

/-! ### Places -/

/-- The flags at the start of a text, and the rest. -/
def flags (style : Style) : Text → Style × Text
  | '-' :: rest => flags { style with left := true } rest
  | '+' :: rest => flags { style with plus := true } rest
  | ' ' :: rest => flags { style with space := true } rest
  | '#' :: rest => flags { style with full := true } rest
  | '0' :: rest => flags { style with zeros := true } rest
  | rest => (style, rest)

/-- The values that are still to be written, and where others are looked up. -/
structure Values where
  next : List Value
  mapping : Option Value := none

/-- The next value. -/
def Values.take (values : Values) : Eval (Value × Values) :=
  match values.next with
  | [] => throw (.type "not enough arguments for format string")
  | value :: rest => return (value, { values with next := rest })

/-- A width or a precision that is kept in `bits` bits. -/
structure Amount where
  name : String
  typeName : String
  bits : Nat

/-- The width of a place. -/
def widthAmount : Amount := ⟨"width", "ssize_t", 63⟩

/-- The precision of a place. -/
def precisionAmount : Amount := ⟨"precision", "int", 31⟩

/-- A number in digits, or the next value, as far as it can be kept. -/
def amount (kind : Amount) (values : Values) (text : Text) :
    Eval (Option Int × Text × Values) := do
  let limit : Nat := Nat.pow 2 kind.bits
  let checked (n : Int) : Eval Int :=
    if Nat.pow 2 30 < n.natAbs then throw .memory else return n
  match text with
  | '*' :: rest => do
      let (value, values) ← values.take
      match value.integer? with
      | none => throw (.type "* wants int")
      | some n =>
          if n < -limit || limit ≤ n then
            throw (.overflow ("Python int too large to convert to C " ++ kind.typeName))
          else return (some (← checked n), rest, values)
  | text =>
      let digits := text.takeWhile Char.isDigit
      let n := Decimal.digitsValue digits
      if digits.isEmpty then return (none, text, values)
      else if limit ≤ n then throw (.value (kind.name ++ " too big"))
      else return (some (← checked n), text.dropWhile Char.isDigit, values)

/-- A key in parentheses, inside which others may be opened and closed, and the rest. -/
def key? : Nat → Text → Option (Text × Text)
  | _, [] => none
  | 0, ')' :: rest => some ([], rest)
  | opened, c :: rest =>
      let opened := if c = '(' then opened + 1 else if c = ')' then opened - 1 else opened
      (key? opened rest).map fun (key, rest) => (c :: key, rest)

/-- Look up the value of a key, which is then the next one. -/
def Values.lookup (values : Values) (key : Text) : Eval Values := do
  let noText (name : String) : Eval Values :=
    throw (.type (name ++ " indices must be integers or slices, not str"))
  match values.mapping with
  | some (.mapping chain) =>
      match (← Eval.scope chain).get? (.text key) with
      | some value => return { values with next := [value] }
      | none => Eval.missing (.text key)
  | some (.list _) => noText "list"
  | some (.bytes _) => noText "byte"
  | some (.range _ _ _) => noText "range"
  | _ => throw (.type "format requires a mapping")

/-- The value of a key in parentheses, if there is one, is looked up; the rest of the text, and the
values from there on. -/
def keyed (values : Values) (text : Text) : Eval (Text × Values) := do
  match text with
  | '(' :: rest =>
      if values.mapping.isNone then throw (.type "format requires a mapping")
      else match key? 0 rest with
        | some (key, rest) => return (rest, ← values.lookup key)
        | none => throw (.value "incomplete format key")
  | text => return (text, values)

/-- The style that flags, a width and a precision ask for, the rest of the text, and the values that
are left. -/
def styled (values : Values) (text : Text) : Eval (Style × Text × Values) := do
  let (style, text) := flags {} text
  let (width, text, values) ← amount widthAmount values text
  let style := match width with
    | some n => { style with width := n.natAbs, left := style.left || n < 0 }
    | none => style
  match text with
  | '.' :: rest => do
      let (precision, text, values) ← amount precisionAmount values rest
      return ({ style with precision := some (precision.getD 0).toNat }, text, values)
  | text => return (style, text, values)

/-- The text without a letter for the size of a number, which says nothing here. -/
def skipSize : Text → Text
  | c :: rest => if c = 'h' || c = 'l' || c = 'L' then rest else c :: rest
  | [] => []

/-- A place after its percent sign: what is written there, the rest of the text, and the values that
are left. `size` is the length of the whole text. -/
def place (size : Nat) (values : Values) (text : Text) : Eval (Text × Text × Values) := do
  if text.head? = some '%' then return (['%'], text.drop 1, values)
  else
    let (text, values) ← keyed values text
    let (style, text, values) ← styled values text
    match skipSize text with
    | [] => throw (.value "incomplete format")
    | letter :: rest =>
        let (value, values) ← values.take
        let piece ← piece style letter (size - rest.length - 1) value
        return (piece.fill style, rest, values)

/-- A text with the values in their places, at most `limit` of them, and the values left over. -/
def fill (size : Nat) : Nat → Values → Text → Eval (Text × Values)
  | 0, values, _ => return ([], values)
  | limit + 1, values, text => do
      let literal := text.takeWhile (· ≠ '%')
      match text.dropWhile (· ≠ '%') with
      | [] => return (literal, values)
      | _ :: rest =>
          let (written, rest, values) ← place size values rest
          let (more, values) ← fill size limit values rest
          return (literal ++ written ++ more, values)

/-- Can values be looked up in a value, or counted in it? -/
def isIndexed : Value → Bool
  | .mapping _ | .list _ | .bytes _ | .range _ _ _ => true
  | _ => false

/-- The values that a text is filled with: the items of a tuple, or a single value. -/
def Values.ofValue (value : Value) : Values where
  next := match value with
    | .tuple items => items
    | value => [value]
  mapping := if isIndexed value then some value else none

/-- A text filled with a value, or with the items of a tuple. -/
def format (text : Text) (value : Value) : Eval Value := do
  let (filled, left) ← fill text.length (text.length + 1) (Values.ofValue value) text
  if left.next.isEmpty || isIndexed value then return .text filled
  else throw (.type "not all arguments converted during string formatting")

end Stencil.Script.Format
