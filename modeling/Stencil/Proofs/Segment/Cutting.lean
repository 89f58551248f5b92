import Stencil.Segment
import Stencil.Proofs.Text.Split

/-!
# The cutting of a template

`Cutting d text shapes` says that the text can be cut from left to right into the shapes, without
saying how such a cutting is found. A literal is not empty, no block opens in it and no closing
delimiter stands in it, and no literal follows another. A block opens with the delimiter that stands
there (that of an expression, if both do) and ends at the first closing delimiter of its kind.

Design points:

* Whether a block opens in a literal is a question about the text that remains from there on, so an
  opener that begins in a literal and ends behind it counts.
* Closing delimiters are looked for in the literal alone.
* The four delimiters need not be different from each other; they only may not be empty.
-/

namespace Stencil

/-- The four delimiters have characters. -/
def Delimiters.AreNonempty (d : Delimiters) : Prop :=
  ∀ kind, d.opener kind ≠ [] ∧ d.closer kind ≠ []

/-- No block opens in the literal, when `rest` follows it. -/
def Delimiters.Unopened (d : Delimiters) (literal rest : Text) : Prop :=
  ∀ before after, literal = before ++ after → after ≠ [] → ∀ kind, ¬d.opener kind <+: after ++ rest

/-- No closing delimiter stands in the literal. -/
def Delimiters.Unclosed (d : Delimiters) (literal : Text) : Prop :=
  ∀ kind, ¬d.closer kind <:+: literal

namespace Segment

/-- The characters that a shape was cut from. -/
def Shape.source (d : Delimiters) : Shape → Text
  | .literal text => text
  | .block kind raw => d.opener kind ++ raw ++ d.closer kind

/-- The text can be cut into the shapes. -/
inductive Cutting (d : Delimiters) : Text → List Shape → Prop
  | nil : Cutting d [] []
  | literal {text rest shapes} (ne : text ≠ []) (unopened : d.Unopened text rest)
      (unclosed : d.Unclosed text)
      (apart : ∀ other, shapes.head? ≠ some (.literal other)) (more : Cutting d rest shapes) :
      Cutting d (text ++ rest) (.literal text :: shapes)
  | block {kind raw inside rest shapes}
      (opened : kind = .statement → ¬d.expressionStart <+: d.statementStart ++ inside)
      (closed : Text.FirstCut (d.closer kind) inside raw rest) (more : Cutting d rest shapes) :
      Cutting d (d.opener kind ++ inside) (.block kind raw :: shapes)

variable {d : Delimiters} {text : Text} {shapes : List Shape}

/-- The pieces of a cutting make up the whole text. -/
theorem Cutting.flatMap_source (h : Cutting d text shapes) :
    shapes.flatMap (Shape.source d) = text := by
  induction h with
  | nil => rfl
  | literal _ _ _ _ _ ih => simp [Shape.source, ih]
  | block _ closed _ ih => simp [Shape.source, ih, closed.text_eq]

end Segment

/-! ### Openers -/

namespace Delimiters

variable {d : Delimiters} {text rest : Text} {kind : BlockKind} {c : Char}

theorem openedBy?_eq_none_iff : d.openedBy? text = none ↔ ∀ kind, ¬d.opener kind <+: text := by
  simp only [openedBy?, List.isPrefixOf_iff_prefix]
  constructor
  · intro h kind
    split at h
    · cases h
    · split at h
      · cases h
      · cases kind <;> assumption
  · intro h
    have expression : ¬d.expressionStart <+: text := h .expression
    have statement : ¬d.statementStart <+: text := h .statement
    rw [if_neg expression, if_neg statement]

/-- Of two openers at one place the expression goes first. -/
theorem openedBy?_eq_some_iff :
    d.openedBy? text = some kind ↔
      d.opener kind <+: text ∧ (kind = .statement → ¬d.expressionStart <+: text) := by
  simp only [openedBy?, List.isPrefixOf_iff_prefix]
  by_cases expression : d.expressionStart <+: text
  · rw [if_pos expression]
    cases kind <;> simp [opener, expression]
  · rw [if_neg expression]
    by_cases statement : d.statementStart <+: text
    · rw [if_pos statement]
      cases kind <;> simp [opener, expression, statement]
    · rw [if_neg statement]
      cases kind <;> simp [opener, expression, statement]

theorem unclosed_nil (valid : d.AreNonempty) : d.Unclosed [] :=
  fun kind h => (valid kind).2 (List.infix_nil.1 h)

theorem unopened_nil : d.Unopened [] rest := by
  intro before after h hne
  exact absurd (List.append_eq_nil_iff.1 h.symm).2 hne

/-- No opener begins in a text if none begins at its first character, and none in the rest. What
follows the text matters too, as an opener may end there. -/
theorem unopened_cons :
    d.Unopened (c :: text) rest ↔
      d.openedBy? (c :: (text ++ rest)) = none ∧ d.Unopened text rest := by
  rw [openedBy?_eq_none_iff]
  constructor
  · refine fun h => ⟨h [] (c :: text) rfl (by simp), fun before after htext => ?_⟩
    exact h (c :: before) after (by rw [htext, List.cons_append])
  · rintro ⟨here, more⟩ before after htext hne
    cases before with
    | nil =>
        rw [List.nil_append] at htext
        exact htext ▸ here
    | cons x before =>
        rw [List.cons_append, List.cons.injEq] at htext
        exact more before after htext.2 hne

end Delimiters

end Stencil
