import Stencil.Text.Class

/-!
# Leading characters and blanks

`Text.Leads p text lead rest` cuts a text behind the longest run of characters at its start that are
all of a class, and `Text.Trimmed raw content` takes the blanks off both ends. Both say what
`takeWhile`, `dropWhile` and `Text.trim` compute, and have one answer for each text.
-/

namespace Stencil

namespace Text

/-- The longest run of characters at the start of the text that are all of the class, and what
follows it. -/
structure Leads (p : Char → Bool) (text lead rest : Text) : Prop where
  text_eq : text = lead ++ rest
  all : ∀ c ∈ lead, p c
  longest : ∀ c ∈ rest.head?, ¬p c

/-- The content of a text between blanks. -/
structure Trimmed (raw content : Text) : Prop where
  between : ∃ left right, raw = left ++ content ++ right ∧ (∀ c ∈ left, isBlank c)
    ∧ ∀ c ∈ right, isBlank c
  first : ∀ c ∈ content.head?, ¬isBlank c
  last : ∀ c ∈ content.getLast?, ¬isBlank c

variable {p : Char → Bool} {text lead rest raw content more : Text}

/-! ### Leading characters -/

theorem leads_takeWhile : Leads p text (text.takeWhile p) (text.dropWhile p) where
  text_eq := List.takeWhile_append_dropWhile.symm
  all := List.all_eq_true.1 List.all_takeWhile
  longest c hc := by
    have := List.head?_dropWhile_not p text
    rw [show (text.dropWhile p).head? = some c from hc] at this
    simpa using this

/-- The cut behind the leading characters is the one that `takeWhile` and `dropWhile` make. -/
theorem Leads.eq (h : Leads p text lead rest) :
    lead = text.takeWhile p ∧ rest = text.dropWhile p := by
  obtain ⟨rfl, all, longest⟩ := h
  have hrest : rest.takeWhile p = [] ∧ rest.dropWhile p = rest := by
    cases rest with
    | nil => exact ⟨rfl, rfl⟩
    | cons c rest =>
        have hc : ¬p c := longest c rfl
        exact ⟨List.takeWhile_cons_of_neg hc, List.dropWhile_cons_of_neg hc⟩
  rw [List.takeWhile_append_of_pos all, List.dropWhile_append_of_pos all, hrest.1, hrest.2,
    List.append_nil]
  exact ⟨rfl, rfl⟩

/-! ### Blanks -/

theorem trimStart_append (h : ∀ c ∈ lead, isBlank c) : trimStart (lead ++ text) = trimStart text :=
  List.dropWhile_append_of_pos h

theorem trimStart_of_first (h : ∀ c ∈ text.head?, ¬isBlank c) : trimStart text = text :=
  ((⟨rfl, by simp, h⟩ : Leads isBlank text [] text).eq.2).symm

theorem trimEnd_append (h : ∀ c ∈ rest, isBlank c) : trimEnd (text ++ rest) = trimEnd text := by
  rw [trimEnd, List.reverse_append, List.dropWhile_append_of_pos (by simpa using h)]
  rfl

theorem trimEnd_of_last (h : ∀ c ∈ text.getLast?, ¬isBlank c) : trimEnd text = text := by
  have hreverse : trimStart text.reverse = text.reverse :=
    trimStart_of_first (by simpa using h)
  rw [trimEnd, ← trimStart, hreverse, List.reverse_reverse]

theorem trimStart_of_blank (h : ∀ c ∈ text, isBlank c) : trimStart text = [] := by
  rw [← List.append_nil text, trimStart_append h]
  rfl

/-- The blanks that trimming takes off the end. -/
theorem exists_trim_append (raw : Text) :
    ∃ right, trim raw ++ right = trimStart raw ∧ ∀ c ∈ right, isBlank c := by
  refine ⟨((trimStart raw).reverse.takeWhile isBlank).reverse, ?_, fun c hc => ?_⟩
  · rw [trim, trimEnd, ← List.reverse_append, List.takeWhile_append_dropWhile, List.reverse_reverse]
  · exact leads_takeWhile.all c (List.mem_reverse.1 hc)

/-- Trimming leaves a text between two lots of blanks, with no blank at its ends. That determines it
(`trim_eq_iff`). -/
theorem trimmed_trim : Trimmed raw (trim raw) := by
  obtain ⟨right, hstart, hright⟩ := exists_trim_append raw
  refine ⟨⟨raw.takeWhile isBlank, right, ?_, leads_takeWhile.all, hright⟩, fun c hc => ?_,
    fun c hc => ?_⟩
  · rw [List.append_assoc, hstart, trimStart, List.takeWhile_append_dropWhile]
  · refine (leads_takeWhile : Leads isBlank raw _ _).longest c ?_
    rw [← trimStart, ← hstart, List.head?_append, Option.mem_def.1 hc]
    rfl
  · rw [trim, trimEnd, List.getLast?_reverse] at hc
    exact leads_takeWhile.longest c hc

/-- **Trimming** leaves the content between the blanks. -/
theorem trim_eq_iff : trim raw = content ↔ Trimmed raw content := by
  constructor
  · rintro rfl
    exact trimmed_trim
  · intro h
    obtain ⟨⟨left, right, rfl, hleft, hright⟩, first, last⟩ := h
    rw [trim, List.append_assoc, trimStart_append hleft]
    cases content with
    | nil => rw [List.nil_append, trimStart_of_blank hright]; rfl
    | cons c content =>
        rw [trimStart_of_first (by simpa using first), trimEnd_append hright, trimEnd_of_last last]

theorem mem_of_mem_trim {c : Char} (h : c ∈ trim raw) : c ∈ raw := by
  obtain ⟨⟨left, right, hraw, -, -⟩, -, -⟩ : Trimmed raw (trim raw) := trimmed_trim
  rw [hraw]
  simp [h]

/-- A blank before a text is trimmed off. -/
theorem Trimmed.cons {c : Char} (h : Trimmed raw content) (hc : isBlank c) :
    Trimmed (c :: raw) content := by
  obtain ⟨⟨left, right, rfl, hleft, hright⟩, first, last⟩ := h
  exact ⟨⟨c :: left, right, by simp, by simpa using ⟨hc, hleft⟩, hright⟩, first, last⟩

/-- One more blank on both sides is trimmed off. -/
theorem Trimmed.padded (h : Trimmed raw content) : Trimmed (' ' :: raw ++ [' ']) content := by
  obtain ⟨⟨left, right, rfl, hleft, hright⟩, first, last⟩ := h
  have hbehind : ∀ c ∈ right ++ [' '], isBlank c :=
    List.forall_mem_append.2 ⟨hright, List.forall_mem_singleton.2 (by decide)⟩
  have behind : Trimmed (left ++ content ++ right ++ [' ']) content :=
    ⟨⟨left, right ++ [' '], by simp, hleft, hbehind⟩, first, last⟩
  exact behind.cons (by decide)

end Text

end Stencil
