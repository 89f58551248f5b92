import Stencil.Text.Lines

/-!
# Line ends and lines

`Text.unifyLineEnds` goes through a text line by line, and the pieces of a text between the
occurrences of a character are joined to the text again.
-/

namespace Stencil

namespace Text

variable {s t : Text}

theorem unifyLineEnds_cons {c : Char} (h : c = '\r' → t.head? ≠ some '\n') :
    unifyLineEnds (c :: t) = (if c = '\r' then '\n' else c) :: unifyLineEnds t := by
  rw [unifyLineEnds]
  rintro rest rfl rfl
  exact h rfl rfl

/-- A text does not begin with a character that its first part does not begin with, unless this part
is empty and the second one does. -/
theorem head?_append_ne {c : Char} (other : ∀ rest, s = c :: rest → False)
    (behind : s = [] → t.head? ≠ some c) : (s ++ t).head? ≠ some c := by
  cases s with
  | nil => exact behind rfl
  | cons d rest =>
      intro h
      obtain rfl := Option.some.inj h
      exact other rest rfl

theorem unifyLineEnds_of_not_mem (h : '\r' ∉ s) : unifyLineEnds s = s := by
  induction s with
  | nil => rfl
  | cons c s ih =>
      obtain ⟨hne, hs⟩ := not_or.1 (mt List.mem_cons.2 h)
      have hc : c ≠ '\r' := Ne.symm hne
      rw [unifyLineEnds_cons fun h => absurd h hc, if_neg hc, ih hs]

/-- A text can be cut anywhere but within a line end. -/
theorem unifyLineEnds_append (h : s.getLast? = some '\r' → t.head? ≠ some '\n') :
    unifyLineEnds (s ++ t) = unifyLineEnds s ++ unifyLineEnds t := by
  fun_induction unifyLineEnds s with
  | case1 => rfl
  | case2 rest ih =>
      show '\n' :: unifyLineEnds (rest ++ t) = _
      rw [ih fun hlast => h (by simp [List.getLast?_cons, hlast])]
      rfl
  | case3 c rest other ih =>
      have hhead : c = '\r' → (rest ++ t).head? ≠ some '\n' := by
        rintro rfl
        exact head?_append_ne (fun more => other more rfl) fun nothing => h (by rw [nothing]; rfl)
      have hlast : rest.getLast? = some '\r' → t.head? ≠ some '\n' := fun hlast =>
        h (by simp [List.getLast?_cons, hlast])
      rw [List.cons_append, unifyLineEnds_cons hhead, ih hlast, List.cons_append]

/-- A line, and what follows its end. -/
theorem exists_unifyLineEnds_line (s : Text) :
    ∃ line, (∀ t, unifyLineEnds (s ++ '\n' :: t) = line ++ '\n' :: unifyLineEnds t)
      ∧ ∀ c ∈ line, c = '\n' ∨ c ∈ s := by
  fun_induction unifyLineEnds s with
  | case1 => exact ⟨[], fun t => rfl, by simp⟩
  | case2 rest ih =>
      obtain ⟨line, hline, hmem⟩ := ih
      refine ⟨'\n' :: line, fun t => ?_, fun c hc => ?_⟩
      · show '\n' :: unifyLineEnds (rest ++ '\n' :: t) = _
        rw [hline]
        rfl
      · rcases List.mem_cons.1 hc with rfl | hc
        · exact .inl rfl
        · exact (hmem c hc).imp_right fun h => .tail _ (.tail _ h)
  | case3 c rest other ih =>
      -- A carriage return at the end would take the line feed behind it in, and then the line ends
      -- there.
      by_cases last : c = '\r' ∧ rest = []
      · obtain ⟨rfl, rfl⟩ := last
        exact ⟨[], fun t => rfl, by simp⟩
      · obtain ⟨line, hline, hmem⟩ := ih
        have hhead (t : Text) : c = '\r' → (rest ++ '\n' :: t).head? ≠ some '\n' := by
          rintro rfl
          exact head?_append_ne (fun more => other more rfl) fun nothing =>
            absurd ⟨rfl, nothing⟩ last
        refine ⟨(if c = '\r' then '\n' else c) :: line, fun t => ?_, fun d hd => ?_⟩
        · rw [List.cons_append, unifyLineEnds_cons (hhead t), hline, List.cons_append]
        · rcases List.mem_cons.1 hd with rfl | hd
          · split
            · exact .inl rfl
            · exact .inr List.mem_cons_self
          · exact (hmem d hd).imp_right (.tail _)

/-- Nothing but line feeds is brought in. -/
theorem mem_of_mem_unifyLineEnds {c : Char} (h : c ∈ unifyLineEnds s) : c = '\n' ∨ c ∈ s := by
  fun_induction unifyLineEnds s with
  | case1 => cases h
  | case2 rest ih =>
      rcases List.mem_cons.1 h with rfl | h
      · exact .inl rfl
      · exact (ih h).imp_right fun h => .tail _ (.tail _ h)
  | case3 d rest other ih =>
      rcases List.mem_cons.1 h with rfl | h
      · split
        · exact .inl rfl
        · exact .inr List.mem_cons_self
      · exact (ih h).imp_right (.tail _)

theorem mem_unifyLineEnds {c : Char} (h : c ∈ s) (other : c ≠ '\r') : c ∈ unifyLineEnds s := by
  fun_induction unifyLineEnds s with
  | case1 => cases h
  | case2 rest ih =>
      rcases List.mem_cons.1 h with rfl | h
      · exact absurd rfl other
      · exact (List.mem_cons.1 h).elim (· ▸ List.mem_cons_self) (.tail _ <| ih ·)
  | case3 d rest _ ih =>
      rcases List.mem_cons.1 h with rfl | h
      · rw [if_neg other]
        exact List.mem_cons_self
      · exact .tail _ (ih h)

/-- The last character of a text stays, unless it is a blank. -/
theorem getLast?_unifyLineEnds (last : ∀ c ∈ s.getLast?, ¬isBlank c) :
    (unifyLineEnds s).getLast? = s.getLast? := by
  rcases List.eq_nil_or_concat s with rfl | ⟨front, c, rfl⟩
  · rfl
  · have solid : ¬isBlank c := last c (by simp)
    have hreturn : c ≠ '\r' := by
      rintro rfl
      exact solid (by decide)
    have hfeed : c ≠ '\n' := by
      rintro rfl
      exact solid (by decide)
    rw [List.concat_eq_append, unifyLineEnds_append fun _ => by simpa using hfeed]
    simp [unifyLineEnds_cons fun h => absurd h hreturn, hreturn, unifyLineEnds]

theorem pieces_ne_nil (mark : Char) (text : Text) : pieces mark text ≠ [] := by
  cases text with
  | nil => simp [pieces]
  | cons c text =>
      rw [pieces]
      split
      · simp
      · split <;> simp

/-- Joining puts the separator between two pieces and nowhere else. -/
theorem join_cons (between first : Text) {more : List Text} (h : more ≠ []) :
    join between (first :: more) = first ++ between ++ join between more := by
  obtain ⟨second, more, rfl⟩ := List.exists_cons_of_ne_nil h
  rfl

/-- The pieces of a text make up the text. -/
theorem join_pieces (mark : Char) (text : Text) : join [mark] (pieces mark text) = text := by
  induction text with
  | nil => rfl
  | cons c text ih =>
      rw [pieces]
      split
      · rename_i same
        rw [join_cons _ _ (pieces_ne_nil mark text), ih, same]
        rfl
      · split
        · rename_i none
          exact absurd none (pieces_ne_nil mark text)
        · rename_i piece more heq
          rw [heq] at ih
          rw [← ih]
          cases more <;> rfl

theorem pieces_of_not_mem {mark : Char} {piece : Text} (free : mark ∉ piece) :
    pieces mark piece = [piece] := by
  induction piece with
  | nil => rfl
  | cons c piece ih =>
      obtain ⟨hne, hpiece⟩ := not_or.1 (mt List.mem_cons.2 free)
      rw [pieces, if_neg (Ne.symm hne), ih hpiece]

theorem pieces_append_cons {mark : Char} {piece : Text} (free : mark ∉ piece) (text : Text) :
    pieces mark (piece ++ mark :: text) = piece :: pieces mark text := by
  induction piece with
  | nil => rw [List.nil_append, pieces, if_pos rfl]
  | cons c piece ih =>
      obtain ⟨hne, hpiece⟩ := not_or.1 (mt List.mem_cons.2 free)
      rw [List.cons_append, pieces, if_neg (Ne.symm hne), ih hpiece]

/-- The mark stands in none of the pieces. -/
theorem not_mem_of_mem_pieces {mark : Char} {piece text : Text} (h : piece ∈ pieces mark text) :
    mark ∉ piece := by
  induction text generalizing piece with
  | nil => simp [List.mem_singleton.1 h]
  | cons c text ih =>
      rw [pieces] at h
      split at h
      · rcases List.mem_cons.1 h with rfl | h
        · simp
        · exact ih h
      · rename_i other
        split at h
        · rename_i none
          exact absurd none (pieces_ne_nil mark text)
        · rename_i first more heq
          rcases List.mem_cons.1 h with rfl | h
          · exact mt List.mem_cons.1 (not_or.2 ⟨Ne.symm other, ih (by simp [heq])⟩)
          · exact ih (by simp [heq, h])

/-- Texts without the mark are found again when they were joined. -/
theorem pieces_join {mark : Char} {texts : List Text} (nonempty : texts ≠ [])
    (free : ∀ text ∈ texts, mark ∉ text) : pieces mark (join [mark] texts) = texts := by
  induction texts with
  | nil => exact absurd rfl nonempty
  | cons first more ih =>
      obtain ⟨hfirst, hmore⟩ := List.forall_mem_cons.1 free
      cases more with
      | nil => exact pieces_of_not_mem hfirst
      | cons second more =>
          rw [join_cons _ _ (List.cons_ne_nil second more), List.append_assoc,
            List.singleton_append, pieces_append_cons hfirst, ih (List.cons_ne_nil second more) hmore]

end Text

end Stencil
