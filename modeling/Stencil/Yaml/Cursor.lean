import Stencil.Text.Basic

/-!
# Places in a document

Reading a document keeps the text that is still to be read together with the line and the column
where that text begins. Both count from zero, and columns decide how blocks are nested.

Between two parts of a document stand spaces, line ends and comments. `Cursor.next` goes past them;
tabs count as spaces only inside brackets, so outside of them a tab is never skipped.
-/

namespace Stencil.Yaml

/-- Does the character end a line of a document? -/
def isBreak (c : Char) : Bool :=
  c = '\n' || c.toNat = 0x85

/-- Is the character a space or a tab? -/
def isSpace (c : Char) : Bool :=
  c = ' ' || c = '\t'

/-- Does nothing follow, or a space, a tab or a line end? -/
def isApart : Text → Bool
  | [] => true
  | c :: _ => isSpace c || isBreak c

/-- The rest of a document and where it begins. -/
structure Cursor where
  rest : Text
  line : Nat := 0
  column : Nat := 0

namespace Cursor

/-- The cursor after one more character. -/
def step (cursor : Cursor) (c : Char) (rest : Text) : Cursor :=
  if isBreak c then ⟨rest, cursor.line + 1, 0⟩ else ⟨rest, cursor.line, cursor.column + 1⟩

/-- The cursor after some more characters. -/
def advance (cursor : Cursor) : Nat → Cursor
  | 0 => cursor
  | count + 1 =>
      match cursor.rest with
      | [] => cursor
      | c :: rest => (cursor.step c rest).advance count

/-- Does the rest begin with a character? -/
def startsWith (cursor : Cursor) (c : Char) : Bool :=
  cursor.rest.head? = some c

/-- Does the rest begin with a character that stands apart from what follows it? -/
def hasSign (cursor : Cursor) (c : Char) : Bool :=
  cursor.startsWith c && isApart (cursor.rest.drop 1)

/-! ### Markers -/

/-- Does a text begin with one of the lines that part documents? -/
def beginsMarker (mark : Char) (text : Text) : Bool :=
  [mark, mark, mark].isPrefixOf text && isApart (text.drop 3)

/-- Is this the line before a document? -/
def atStartMarker (cursor : Cursor) : Bool :=
  cursor.column = 0 && beginsMarker '-' cursor.rest

/-- Is this the line after a document? -/
def atEndMarker (cursor : Cursor) : Bool :=
  cursor.column = 0 && beginsMarker '.' cursor.rest

/-- Is there nothing left of the document? -/
def atEnd (cursor : Cursor) : Bool :=
  cursor.rest.isEmpty || cursor.atStartMarker || cursor.atEndMarker

/-! ### Going past what separates parts -/

/-- Go past spaces, line ends and comments. -/
def nextFrom (inBrackets inComment : Bool) (line column : Nat) : Text → Cursor
  | [] => ⟨[], line, column⟩
  | c :: rest =>
      if isBreak c then nextFrom inBrackets false (line + 1) 0 rest
      else if inComment || c = ' ' || (inBrackets && c = '\t') then
        nextFrom inBrackets inComment line (column + 1) rest
      else if c = '#' then nextFrom inBrackets true line (column + 1) rest
      else ⟨c :: rest, line, column⟩

/-- The next part of a document. -/
def next (cursor : Cursor) (inBrackets : Bool) : Cursor :=
  nextFrom inBrackets false cursor.line cursor.column cursor.rest

/-- The number of line ends at the start of a text and among the spaces there, and the cursor after
them all. A line that parts documents is not gone past. -/
def gapFrom (isFiller : Char → Bool) (breaks line column : Nat) : Text → Nat × Cursor
  | [] => (breaks, ⟨[], line, column⟩)
  | c :: rest =>
      if isBreak c then
        if beginsMarker '-' rest || beginsMarker '.' rest then (breaks + 1, ⟨rest, line + 1, 0⟩)
        else gapFrom isFiller (breaks + 1) (line + 1) 0 rest
      else if isFiller c then gapFrom isFiller breaks line (column + 1) rest
      else (breaks, ⟨c :: rest, line, column⟩)

/-- A gap inside a scalar: the text that it stands for, and the cursor after it. Spaces within a
line are kept. One line end stands for a space, and several stand for one line end less. -/
def gap (cursor : Cursor) (isFiller : Char → Bool) : Text × Cursor :=
  let (breaks, after) := gapFrom isFiller 0 cursor.line cursor.column cursor.rest
  let text := match breaks with
    | 0 => cursor.rest.take (cursor.rest.length - after.rest.length)
    | 1 => [' ']
    | breaks + 1 => List.replicate breaks '\n'
  (text, after)

end Cursor

/-- Where a node stands: inside brackets, or in a block all of whose lines begin at a column or to
the right of it. -/
inductive Frame
  | brackets
  | block (least : Nat)
  deriving Repr, DecidableEq

namespace Frame

/-- Is the frame a pair of brackets? -/
def inBrackets : Frame → Bool
  | brackets => true
  | block _ => false

/-- May a further line begin at a column? -/
def admits : Frame → Nat → Bool
  | brackets, _ => true
  | block least, column => least ≤ column

end Frame

end Stencil.Yaml
