import Stencil.Delimiters
import Stencil.Error
import Stencil.Text.Class

/-!
# Segments

A template is cut from left to right into segments: literal text, and blocks from an opening
delimiter to the nearest closing delimiter of the same kind. `Segment.cut` finds the cutting;
`Segment.source` puts a segment back into characters.

The tokens of a template are the image of its cutting under `Segment.token?`, which trims blocks,
splits the name off a statement, and drops blocks with nothing to say.

Design points:

* The opener that comes first in the remaining text opens the next block; if both openers begin at
  one character, the expression does.
* Literal text must not contain a closing delimiter. This is checked before the block that follows
  is looked at, first for the delimiter of expressions and then for that of statements.
* A block ends at the first closing delimiter of its kind, whatever stands in between.
-/

namespace Stencil

/-- A piece of a cut template. -/
inductive Segment.Shape
  /-- Text outside all blocks. -/
  | literal (text : Text)
  /-- A block and the characters between its delimiters. -/
  | block (kind : BlockKind) (raw : Text)
  deriving Repr, DecidableEq

/-- A piece of a cut template and the place where it begins. -/
structure Segment where
  place : Place
  shape : Segment.Shape
  deriving Repr, DecidableEq

namespace Segment

/-! ### Cutting -/

/-- The literal text before the next block, the kind of that block, and the text that follows its
opening delimiter. -/
def nextBlock? (d : Delimiters) : Text → Option (Text × BlockKind × Text)
  | [] =>
      (d.openedBy? []).map fun kind => ([], kind, [])
  | c :: rest =>
      match d.openedBy? (c :: rest) with
      | some kind => some ([], kind, (c :: rest).drop (d.opener kind).length)
      | none => (nextBlock? d rest).map fun (before, found) => (c :: before, found)

/-- The closing delimiter of a kind in a literal text, reported as standing alone. -/
def strayCloser? (d : Delimiters) (place : Place) (literal : Text) (kind : BlockKind) :
    Option DelimiterError :=
  (Text.splitAt? (d.closer kind) literal).map fun (before, _) =>
    ⟨d.opener kind, ⟨.text, d.closer kind, place.after before⟩⟩

/-- The segment of a literal text: none for the empty text. -/
def ofLiteral (d : Delimiters) (place : Place) (literal : Text) :
    Except DelimiterError (List Segment) :=
  if literal.isEmpty then .ok []
  else match strayCloser? d place literal .expression with
    | some error => .error error
    | none =>
        match strayCloser? d place literal .statement with
        | some error => .error error
        | none => .ok [⟨place, .literal literal⟩]

/-- Cut a text that begins at `place`. Every round goes past one block, so the rest is shorter as
long as a block has a delimiter; without any the cutting stops. -/
def cutFrom (d : Delimiters) (place : Place) (text : Text) : Except DelimiterError (List Segment) :=
  match nextBlock? d text with
  | none => ofLiteral d place text
  | some (before, kind, inside) =>
      match ofLiteral d place before with
      | .error error => .error error
      | .ok lead =>
          let start := place.after before
          match Text.splitAt? (d.closer kind) inside with
          | none => .error ⟨d.closer kind, ⟨.text, d.opener kind, start⟩⟩
          | some (raw, rest) =>
              if rest.length < text.length then
                let next := start.after (d.opener kind ++ raw ++ d.closer kind)
                match cutFrom d next rest with
                | .error error => .error error
                | .ok more => .ok (lead ++ ⟨start, .block kind raw⟩ :: more)
              else .ok lead
  termination_by text.length

/-- Cut a whole template into its segments. -/
def cut (d : Delimiters) (text : Text) : Except DelimiterError (List Segment) :=
  cutFrom d {} text

/-- The characters that a segment was cut from. -/
def source (d : Delimiters) (segment : Segment) : Text :=
  match segment.shape with
  | .literal text => text
  | .block kind raw => d.opener kind ++ raw ++ d.closer kind

/-! ### Tokens -/

/-- The leading word of a statement and what follows it, without the blanks between them. A
statement that does not begin with a word has none. -/
def nameAndArgument? (content : Text) : Option (Text × Text) :=
  let name := content.takeWhile isWord
  if name.isEmpty then none
  else some (name, Text.trimStart (content.dropWhile isWord))

/-- The token of a segment. A blank block, or a statement that does not begin with a word, is
dropped without a trace. -/
def token? (segment : Segment) : Option Token :=
  match segment.shape with
  | .literal text => some ⟨.text, text, segment.place⟩
  | .block kind raw =>
      let content := Text.trim raw
      if content.isEmpty then none
      else match kind with
        | .expression => some ⟨.expression, content, segment.place⟩
        | .statement =>
            (nameAndArgument? content).map fun (name, argument) =>
              ⟨.statement name, argument, segment.place⟩

end Segment

/-- The tokens of a template. -/
def tokenize (d : Delimiters) (text : Text) : Except DelimiterError (List Token) :=
  (Segment.cut d text).map (·.filterMap Segment.token?)

end Stencil
