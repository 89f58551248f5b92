import Stencil.Text.Basic

/-!
# Places in a text

Where something stands in a template: the number of characters before it, its line and its column.
Only the line feed ends a line here, and lines and columns count from one.

A token put together by hand may claim any place at all, so the three numbers are integers; a place
reached by reading, `place.after text`, counts up from where the reading began.
-/

namespace Stencil

/-- A place in a text. -/
structure Place where
  /-- The number of characters before the place. -/
  offset : Int := 0
  line : Int := 1
  column : Int := 1
  deriving Repr, DecidableEq

namespace Place

/-- The place after one more character. -/
def step (place : Place) (c : Char) : Place :=
  if c = '\n' then ⟨place.offset + 1, place.line + 1, 1⟩
  else ⟨place.offset + 1, place.line, place.column + 1⟩

/-- The place at the end of a text that begins at `place`. -/
def after (place : Place) (text : Text) : Place :=
  text.foldl step place

@[simp] theorem after_nil (place : Place) : place.after [] = place := rfl

@[simp] theorem after_append (place : Place) (s t : Text) :
    place.after (s ++ t) = (place.after s).after t := by
  simp [after]

@[simp] theorem offset_after (place : Place) (text : Text) :
    (place.after text).offset = place.offset + text.length := by
  induction text generalizing place with
  | nil => simp
  | cons c rest ih =>
      have : place.after (c :: rest) = (place.step c).after rest := rfl
      rw [this, ih, List.length_cons]
      by_cases h : c = '\n' <;> simp [step, h] <;> omega

/-- The place as `line:column`. -/
def toText (place : Place) : Text :=
  Text.ofInt place.line ++ ':' :: Text.ofInt place.column

end Place

end Stencil
