import Stencil.Text.Basic

/-!
# The first occurrence of a mark

`Text.splitAt?` cuts a text around the first occurrence of a mark, and finds none just when the mark
does not occur. `Text.FirstCut` says what being the first occurrence is without a search.
-/

namespace Stencil

namespace Text

variable {mark text before after b a : Text}

/-- `before` stands in front of the first occurrence of `mark` in the text, and `after` behind it. -/
structure FirstCut (mark text before after : Text) : Prop where
  text_eq : text = before ++ mark ++ after
  first : ∀ b a, text = b ++ mark ++ a → before.length ≤ b.length

/-- There is one first occurrence at most. -/
theorem FirstCut.unique (h : FirstCut mark text before after) (h' : FirstCut mark text b a) :
    before = b ∧ after = a := by
  have hlength : before.length = b.length :=
    Nat.le_antisymm (h.first b a h'.text_eq) (h'.first before after h.text_eq)
  have htext : before ++ (mark ++ after) = b ++ (mark ++ a) := by
    rw [← List.append_assoc, ← List.append_assoc, ← h.text_eq, ← h'.text_eq]
  obtain ⟨rfl, hafter⟩ := List.append_inj htext hlength
  exact ⟨rfl, List.append_cancel_left hafter⟩

/-! ### The search -/

/-- An occurrence that is not at the start of a text is one in the rest of it. -/
theorem exists_of_not_isPrefixOf {c : Char} {rest : Text} (h : ¬mark.isPrefixOf (c :: rest))
    (htext : c :: rest = b ++ mark ++ a) : ∃ b', b = c :: b' ∧ rest = b' ++ mark ++ a := by
  cases b with
  | nil =>
      refine absurd (List.isPrefixOf_iff_prefix.2 ⟨a, ?_⟩) h
      rw [htext, List.nil_append]
  | cons x b =>
      rw [List.cons_append, List.cons_append, List.cons.injEq] at htext
      obtain ⟨rfl, hrest⟩ := htext
      exact ⟨b, rfl, hrest⟩

theorem length_le_of_splitAt? (h : splitAt? mark text = some (before, after))
    (htext : text = b ++ mark ++ a) : before.length ≤ b.length := by
  induction text generalizing before after b with
  | nil =>
      simp only [splitAt?] at h
      split at h <;> simp_all
  | cons c rest ih =>
      simp only [splitAt?] at h
      split at h
      · cases h
        exact Nat.zero_le _
      · rename_i other
        obtain ⟨cut, hcut, heq⟩ := Option.map_eq_some_iff.1 h
        obtain ⟨b, rfl, hrest⟩ := exists_of_not_isPrefixOf other htext
        cases heq
        exact Nat.succ_le_succ (ih hcut hrest)

theorem exists_splitAt? (htext : text = b ++ mark ++ a) : ∃ cut, splitAt? mark text = some cut := by
  induction text generalizing b with
  | nil =>
      have hmark : mark = [] := by
        have := congrArg List.length htext
        simp only [List.length_append, List.length_nil] at this
        exact List.eq_nil_of_length_eq_zero (by omega)
      exact ⟨([], []), by simp [splitAt?, hmark]⟩
  | cons c rest ih =>
      by_cases here : mark.isPrefixOf (c :: rest)
      · exact ⟨_, by rw [splitAt?, if_pos here]⟩
      · obtain ⟨b, rfl, hrest⟩ := exists_of_not_isPrefixOf here htext
        obtain ⟨cut, hcut⟩ := ih hrest
        exact ⟨_, by rw [splitAt?, if_neg here, hcut, Option.map_some]⟩

/-- **The search finds the first occurrence.** -/
theorem splitAt?_eq_some_iff :
    splitAt? mark text = some (before, after) ↔ FirstCut mark text before after := by
  have found : ∀ {before after}, splitAt? mark text = some (before, after) →
      FirstCut mark text before after :=
    fun h => ⟨(splitAt?_eq_some h).symm, fun _ _ => length_le_of_splitAt? h⟩
  refine ⟨found, fun h => ?_⟩
  obtain ⟨cut, hcut⟩ := exists_splitAt? h.text_eq
  obtain ⟨rfl, rfl⟩ := h.unique (found hcut)
  exact hcut

/-- A text is not cut if and only if it does not contain the mark. -/
theorem splitAt?_eq_none_iff : splitAt? mark text = none ↔ ¬mark <:+: text := by
  constructor
  · rintro h ⟨b, a, htext⟩
    obtain ⟨cut, hcut⟩ := exists_splitAt? htext.symm
    rw [h] at hcut
    cases hcut
  · intro h
    cases hcut : splitAt? mark text with
    | none => rfl
    | some cut => exact absurd ⟨cut.1, cut.2, splitAt?_eq_some hcut⟩ h

/-- A mark does not occur in a text that has no character of it. -/
theorem not_isInfix_of_forall_not_mem (hmark : mark ≠ []) (h : ∀ c ∈ mark, c ∉ text) :
    ¬mark <:+: text := by
  intro h'
  obtain ⟨c, hc⟩ := List.exists_mem_of_ne_nil mark hmark
  exact h c hc (h'.subset hc)

/-! ### A mark of one character -/

variable {c : Char} {left right : Text}

/-- A character occurs first behind a text that does not have it. -/
theorem firstCut_cons (free : c ∉ left) : FirstCut [c] (left ++ c :: right) left right where
  text_eq := by simp
  first b a htext := by
    rw [List.append_assoc] at htext
    rcases List.append_eq_append_iff.1 htext with ⟨more, rfl, -⟩ | ⟨more, rfl, hmore⟩
    · simp
    · cases more with
      | nil => simp
      | cons d more =>
          obtain ⟨rfl, -⟩ := List.cons.inj hmore
          simp at free

theorem breakAt_cons (free : c ∉ left) : breakAt [c] (left ++ c :: right) = (left, right) := by
  rw [breakAt, splitAt?_eq_some_iff.2 (firstCut_cons free)]
  rfl

/-! ### Texts set apart -/

/-- A mark does not reach over a character that is not in it. -/
theorem isInfix_append_cons (apart : c ∉ mark) (h : mark <:+: left ++ c :: right) :
    mark <:+: left ∨ mark <:+: right := by
  obtain ⟨b, a, htext⟩ := h
  -- The occurrence ends in front of the character, or it begins behind it, or it goes over it.
  rcases List.append_eq_append_iff.1 htext with ⟨inner, rfl, -⟩ | ⟨inner, hmark, hright⟩
  · exact .inl ⟨b, inner, rfl⟩
  · cases inner with
    | nil =>
        rw [List.append_nil] at hmark
        exact .inl ⟨b, [], by rw [hmark, List.append_nil]⟩
    | cons x inner =>
        obtain ⟨rfl, rfl⟩ := List.cons.inj hright
        rcases List.append_eq_append_iff.1 hmark with ⟨front, rfl, rfl⟩ | ⟨front, rfl, hback⟩
        · simp at apart
        · cases front with
          | nil =>
              obtain rfl : c :: inner = mark := hback
              simp at apart
          | cons y front =>
              obtain ⟨-, rfl⟩ := List.cons.inj hback
              exact .inr ⟨front, a, rfl⟩

/-- A mark that was put behind a text, with a character that is not in it in between, occurs there
first if it does not occur in the text. -/
theorem firstCut_append_cons (ne : mark ≠ []) (apart : c ∉ mark) (h : ¬mark <:+: left) :
    FirstCut mark (left ++ c :: (mark ++ right)) (left ++ [c]) right where
  text_eq := by simp
  first b a htext := by
    rw [List.append_assoc] at htext
    rcases List.append_eq_append_iff.1 htext with ⟨inner, rfl, hmark⟩ | ⟨inner, rfl, hmark⟩
    · cases inner with
      | nil =>
          -- The mark would begin with the character that keeps it apart.
          obtain ⟨x, mark, rfl⟩ := List.exists_cons_of_ne_nil ne
          obtain ⟨rfl, -⟩ := List.cons.inj hmark
          simp at apart
      | cons x inner => simp
    · rcases List.append_eq_append_iff.1 hmark with ⟨front, rfl, -⟩ | ⟨front, rfl, hback⟩
      · exact absurd ⟨b, front, by simp⟩ h
      · cases front with
        | nil => exact absurd ⟨b, [], by simp⟩ h
        | cons x front =>
            obtain ⟨rfl, -⟩ := List.cons.inj hback
            simp at apart

end Text

end Stencil
