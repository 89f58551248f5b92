import Stencil.Text.Class

/-!
# Blanks and words

No character is both blank and part of a word. The blanks are few, so this is read off the tables.
-/

namespace Stencil

/-- The code points of all blanks. -/
def blankCodes : List Nat :=
  [9, 10, 11, 12, 13, 28, 29, 30, 31, 32, 0x85, 0xa0, 0x1680, 0x2000, 0x2001, 0x2002, 0x2003,
    0x2004, 0x2005, 0x2006, 0x2007, 0x2008, 0x2009, 0x200a, 0x2028, 0x2029, 0x202f, 0x205f, 0x3000]

/-- The blanks are finitely many, so what holds of them can be checked one by one. -/
theorem mem_blankCodes {c : Char} (h : isBlank c) : c.toNat ∈ blankCodes := by
  simp only [isBlank, Bool.or_eq_true, Bool.and_eq_true, decide_eq_true_eq, beq_iff_eq] at h
  simp only [blankCodes, List.mem_cons, List.not_mem_nil, or_false]
  omega

theorem isWord_blankCodes : ∀ code ∈ blankCodes, isWord (Char.ofNat code) = false := by
  decide +kernel

/-- No character is both a blank and part of a word. -/
theorem not_isWord_of_isBlank {c : Char} (h : isBlank c) : ¬isWord c := by
  have hword := isWord_blankCodes _ (mem_blankCodes h)
  rw [Char.ofNat_toNat] at hword
  rw [hword]
  exact Bool.false_ne_true

theorem not_isBlank_of_isWord {c : Char} (h : isWord c) : ¬isBlank c :=
  fun blank => not_isWord_of_isBlank blank h

end Stencil
