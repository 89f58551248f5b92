/-!
# Text

A `Text` is the list of its characters. Offsets, columns and lengths count characters, so every
position in a text is a number of list cells, and cutting a text is `take` and `drop`.

`Text.splitAt?` is the one search of the library: it cuts a text around the first occurrence of a
mark. The statements beside it say that nothing is lost and that the cut is where the mark stands.
-/

namespace Stencil

/-- A text, character by character. -/
abbrev Text := List Char

namespace Text

/-- The text before the first occurrence of `mark`, and the text after that occurrence. -/
def splitAt? (mark : Text) : Text → Option (Text × Text)
  | [] => if mark.isEmpty then some ([], []) else none
  | c :: rest =>
      if mark.isPrefixOf (c :: rest) then some ([], (c :: rest).drop mark.length)
      else (splitAt? mark rest).map fun cut => (c :: cut.1, cut.2)

/-- Does `mark` occur in the text? -/
def occurs (mark text : Text) : Bool :=
  (splitAt? mark text).isSome

/-- The number of characters before the first occurrence of `mark`. -/
def offsetOf? (mark text : Text) : Option Nat :=
  (splitAt? mark text).map fun cut => cut.1.length

/-- Cut around the first occurrence of `mark`; a text without it is all on the left. -/
def breakAt (mark text : Text) : Text × Text :=
  (splitAt? mark text).getD (text, [])

/-- The pieces between the occurrences of a one-character mark. -/
def pieces (mark : Char) : Text → List Text
  | [] => [[]]
  | c :: rest =>
      if c = mark then [] :: pieces mark rest
      else match pieces mark rest with
        | [] => [[c]]
        | piece :: more => (c :: piece) :: more

/-- The texts one after another, with `between` from each to the next. -/
def join (between : Text) : List Text → Text
  | [] => []
  | [last] => last
  | first :: second :: more => first ++ between ++ join between (second :: more)

/-- Does `left` come before `right`, character by character by code point? -/
def isBefore : Text → Text → Bool
  | [], [] => false
  | [], _ :: _ => true
  | _ :: _, [] => false
  | a :: left, b :: right => if a = b then isBefore left right else a.toNat < b.toNat

/-- A natural number in decimal. -/
def ofNat (n : Nat) : Text := Nat.toDigits 10 n

/-- An integer in decimal, with a sign only when it is negative. -/
def ofInt : Int → Text
  | .ofNat n => ofNat n
  | .negSucc n => '-' :: ofNat (n + 1)

/-! ### The cut keeps every character -/

theorem splitAt?_eq_some {mark text before after : Text}
    (h : splitAt? mark text = some (before, after)) : before ++ mark ++ after = text := by
  induction text generalizing before after with
  | nil =>
      simp only [splitAt?] at h
      split at h <;> simp_all
  | cons c rest ih =>
      simp only [splitAt?] at h
      split at h
      · rename_i found
        obtain ⟨tail, htail⟩ := List.isPrefixOf_iff_prefix.1 found
        simp only [Option.some.injEq, Prod.mk.injEq] at h
        obtain ⟨rfl, rfl⟩ := h
        rw [← htail]
        simp
      · obtain ⟨cut, hcut, heq⟩ := Option.map_eq_some_iff.1 h
        simp only [Prod.mk.injEq] at heq
        obtain ⟨rfl, rfl⟩ := heq
        simpa using ih hcut

end Text

end Stencil
