import Stencil.Script.Operation
import Stencil.Unicode.LetterCase

/-!
# Operations of texts

What the methods of texts compute. Searching and replacing go from left to right and never overlap.
-/

namespace Stencil.Script.TextMethod

/-- The text in upper case. -/
def upper (text : Text) : Text :=
  text.flatMap Unicode.upperCase

/-- The text in lower case. -/
def lower (text : Text) : Text :=
  text.flatMap Unicode.lowerCase

/-- The pieces between blanks, at most `limit` cuts. -/
def splitBlanks : Nat → Text → List Text
  | 0, text =>
      let rest := Text.trimStart text
      if rest.isEmpty then [] else [rest]
  | limit + 1, text =>
      let start := Text.trimStart text
      if start.isEmpty then []
      else
        let piece := start.takeWhile (!isBlank ·)
        piece :: splitBlanks limit (start.dropWhile (!isBlank ·))

/-- The pieces between the occurrences of a mark, at most `limit` cuts. -/
def splitAt (mark : Text) : Nat → Text → List Text
  | 0, text => [text]
  | limit + 1, text =>
      match Text.splitAt? mark text with
      | none => [text]
      | some (before, after) => before :: splitAt mark limit after

/-- Every occurrence of `old` replaced, at most `limit` of them. The empty text occurs before every
character and at the end. -/
def replace (old new : Text) (limit : Nat) (text : Text) : Text :=
  if old.isEmpty then
    let marked := text.take limit
    let last := if text.length < limit then new else []
    marked.flatMap (fun c => new ++ [c]) ++ text.drop limit ++ last
  else Text.join new (splitAt old limit text)

/-- The text without any of the characters at its ends. -/
def strip (chars : Text) (text : Text) : Text :=
  let start := text.dropWhile fun c => List.contains chars c
  (start.reverse.dropWhile fun c => List.contains chars c).reverse

/-- The number of occurrences of a text. -/
def count (part text : Text) : Nat :=
  if part.isEmpty then text.length + 1 else (splitAt part text.length text).length - 1

/-- The part of a text between two places. -/
def between (start stop : Nat) (text : Text) : Text :=
  (text.take stop).drop start

/-- The offset of the first occurrence of a text between two places. -/
def find? (part : Text) (start stop : Nat) (text : Text) : Option Nat :=
  if stop < start then none
  else (Text.offsetOf? part (between start stop text)).map (· + start)

end Stencil.Script.TextMethod
