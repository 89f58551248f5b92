import Stencil.Proofs.Text.Class
import Stencil.Script.Lexeme

/-!
# Texts that agree up to a blank

Which lexeme stands at the front of a text depends on nothing beyond the next blank. `Lexeme.Agree`
relates a text to one that may be different from its next blank on, and `Lexeme.IsPiece` says of a
piece at the front of a text that it holds no blank itself.
-/

namespace Stencil.Script.Lexeme

/-! ### Blanks -/

theorem blankCodes_digit : ∀ code ∈ blankCodes, (Char.ofNat code).isDigit = false
    ∧ ('a' ≤ Char.ofNat code && Char.ofNat code ≤ 'f') = false
    ∧ ('A' ≤ Char.ofNat code && Char.ofNat code ≤ 'F') = false := by
  decide +kernel

theorem blankCodes_isNameContinue :
    ∀ code ∈ blankCodes, isNameContinue (Char.ofNat code) = false := by
  decide +kernel

theorem blankCodes_isNameStart : ∀ code ∈ blankCodes, isNameStart (Char.ofNat code) = false := by
  decide +kernel

theorem blankCodes_signs :
    ∀ code ∈ blankCodes, ∀ sign ∈ signs, Char.ofNat code ∉ sign.toList := by
  decide +kernel

section

variable {c : Char} (blank : isBlank c)

include blank

/-- A blank is no digit, whatever the base. What holds of blanks is checked over their codes, here
and in the next lemmas. -/
theorem digitOf?_of_isBlank (base : Nat) : digitOf? base c = none := by
  have h := blankCodes_digit _ (mem_blankCodes blank)
  rw [Char.ofNat_toNat] at h
  obtain ⟨decimal, lower, upper⟩ := h
  simp only [digitOf?, decimal, lower, upper, Bool.false_eq_true, if_false, Option.filter_none]

theorem not_isNameContinue_of_isBlank : isNameContinue c = false := by
  have h := blankCodes_isNameContinue _ (mem_blankCodes blank)
  rwa [Char.ofNat_toNat] at h

theorem not_isNameStart_of_isBlank : isNameStart c = false := by
  have h := blankCodes_isNameStart _ (mem_blankCodes blank)
  rwa [Char.ofNat_toNat] at h

theorem not_mem_sign_of_isBlank {sign : String} (h : sign ∈ signs) : c ∉ sign.toList := by
  have h := blankCodes_signs _ (mem_blankCodes blank) sign h
  rwa [Char.ofNat_toNat] at h

end

/-- Two texts agree up to a blank, or up to their ends. The one on the right ends in a line end
there. -/
inductive Agree : Text → Text → Prop
  | stop {s t : Text} (left : ∀ c ∈ s.head?, isBlank c) (right : ∀ c ∈ t.head?, c = '\n') :
      Agree s t
  | cons {s t : Text} (c : Char) (more : Agree s t) : Agree (c :: s) (c :: t)

variable {s t : Text}

/-- The next characters are the same, or the old one is a blank or missing. -/
theorem Agree.head (h : Agree s t) :
    (∀ c ∈ s.head?, isBlank c) ∧ (∀ c ∈ t.head?, c = '\n') ∨ s.head? = t.head? := by
  cases h with
  | stop left right => exact .inl ⟨left, right⟩
  | cons c more => exact .inr rfl

/-- A class of characters without blanks has the next character in both texts or in neither. -/
theorem Agree.any_head {p : Char → Bool} (hp : ∀ c, isBlank c → p c = false) (h : Agree s t) :
    t.head?.any p = s.head?.any p := by
  rcases h.head with ⟨left, right⟩ | same
  · have hs : s.head?.any p = false := by
      cases hhead : s.head? with
      | none => rfl
      | some c => exact hp c (left c hhead)
    have ht : t.head?.any p = false := by
      cases hhead : t.head? with
      | none => rfl
      | some c =>
          obtain rfl := right c hhead
          exact hp '\n' (by decide)
    rw [hs, ht]
  · rw [same]

theorem Agree.append (p : Text) (h : Agree s t) : Agree (p ++ s) (p ++ t) := by
  induction p with
  | nil => exact h
  | cons c p ih => exact .cons c ih

/-- Behind a piece without blanks two texts that agree still agree, and both have the piece. -/
theorem Agree.of_append {p : Text} (solid : ∀ c ∈ p, ¬isBlank c) (h : Agree (p ++ s) t) :
    ∃ t', t = p ++ t' ∧ Agree s t' := by
  induction p generalizing t with
  | nil => exact ⟨t, rfl, h⟩
  | cons c p ih =>
      obtain ⟨hc, solid⟩ := List.forall_mem_cons.1 solid
      cases h with
      | stop left _ => exact absurd (left c rfl) hc
      | cons _ more =>
          obtain ⟨t, rfl, ht⟩ := ih solid more
          exact ⟨t, rfl, ht⟩

/-- A mark without blanks stands at the front of both texts or of neither. -/
theorem Agree.isPrefixOf {mark : Text} (hmark : ∀ c ∈ mark, ¬isBlank c) (h : Agree s t) :
    mark.isPrefixOf t = mark.isPrefixOf s := by
  induction mark generalizing s t with
  | nil => rw [List.isPrefixOf_nil_left, List.isPrefixOf_nil_left]
  | cons m mark ih =>
      obtain ⟨hm, hmark⟩ := List.forall_mem_cons.1 hmark
      cases h with
      | stop left right =>
          have hs : (m :: mark).isPrefixOf s = false := by
            cases s with
            | nil => rfl
            | cons c s =>
                have hc : isBlank c := left c rfl
                have : m ≠ c := fun same => hm (same ▸ hc)
                simp [List.isPrefixOf, this]
          have ht : (m :: mark).isPrefixOf t = false := by
            cases t with
            | nil => rfl
            | cons c t =>
                obtain rfl := right c rfl
                have : m ≠ '\n' := fun same => hm (same ▸ by decide)
                simp [List.isPrefixOf, this]
          rw [hs, ht]
      | cons c more => simp only [List.isPrefixOf, ih hmark more]

/-! ### Pieces -/

/-- A piece at the front of a text, of which the rest is left, with no blank in it. -/
structure IsPiece (p text rest : Text) : Prop where
  text_eq : text = p ++ rest
  solid : ∀ c ∈ p, ¬isBlank c

end Stencil.Script.Lexeme
