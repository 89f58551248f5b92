import Stencil.Text.Class

/-!
# Bodies of scripts

A script inside a template is set in by whatever stands around it. Before it is read its first line
is trimmed, and the other lines lose the margin that they have in common.

Blanks here are spaces and tabs. A line of nothing else has no margin and becomes empty.
-/

namespace Stencil.Script.Body

/-- Does the character set a line in? -/
def isMargin (c : Char) : Bool :=
  c = ' ' || c = '\t'

/-- Does the line hold nothing but what sets it in? -/
def isEmptyLine (line : Text) : Bool :=
  line.all isMargin

/-- What sets a line in. -/
def marginOf (line : Text) : Text :=
  line.takeWhile isMargin

/-- The longest common beginning of two texts. -/
def commonStart : Text → Text → Text
  | a :: s, b :: t => if a = b then a :: commonStart s t else []
  | _, _ => []

/-- The margin that all lines which are not empty have in common. -/
def margin (lines : List Text) : Text :=
  match (lines.filter (!isEmptyLine ·)).map marginOf with
  | [] => []
  | first :: rest => rest.foldl commonStart first

/-- A line without a margin. -/
def removeMargin (margin line : Text) : Text :=
  if margin.isPrefixOf line then line.drop margin.length else line

/-- Lines without their common margin. -/
def dedentLines (lines : List Text) : List Text :=
  let cleaned := lines.map fun line => if isEmptyLine line then [] else line
  cleaned.map (removeMargin (margin cleaned))

/-- A text whose lines lose their common margin. -/
def dedent (text : Text) : Text :=
  Text.join ['\n'] (dedentLines (Text.pieces '\n' text))

/-- The body of a script: the first line trimmed, the others without their margin. -/
def normalize (source : Text) : Text :=
  let (first, rest) := Text.breakAt ['\n'] source
  if rest.isEmpty then Text.trim first
  else Text.trim first ++ '\n' :: dedent rest

/-- A text with a line end at its end. -/
def endLine (text : Text) : Text :=
  if text.getLast? = some '\n' then text else text ++ ['\n']

end Stencil.Script.Body
