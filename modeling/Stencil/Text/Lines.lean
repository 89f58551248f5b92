import Stencil.Text.Class

/-!
# Lines

A text is cut into lines at every line end, where a carriage return and a line feed in a row count
once. A line end at the very end of the text starts no further line.

`Text.trimLines` joins the trimmed lines without their ends; it is what the option to trim a
template does. `Text.unifyLineEnds` is how the text of a file is read.
-/

namespace Stencil.Text

/-- The lines of the text that follows a line begun with the characters `line`, last one first. -/
def linesAfter (line : Text) : Text → List Text
  | [] => if line.isEmpty then [] else [line.reverse]
  | '\r' :: '\n' :: rest => line.reverse :: linesAfter [] rest
  | c :: rest =>
      if isLineEnd c then line.reverse :: linesAfter [] rest else linesAfter (c :: line) rest

/-- The lines of a text, without their ends. -/
def lines (text : Text) : List Text :=
  linesAfter [] text

/-- Every line trimmed, and all of them joined without line ends. -/
def trimLines (text : Text) : Text :=
  (lines text).flatMap trim

/-! ### Line ends -/

/-- A text in which every line ends in a line feed: a carriage return, with or without a line feed
after it, is replaced. -/
def unifyLineEnds : Text → Text
  | [] => []
  | '\r' :: '\n' :: rest => '\n' :: unifyLineEnds rest
  | c :: rest => (if c = '\r' then '\n' else c) :: unifyLineEnds rest

end Stencil.Text
