import Stencil.Proofs.Loop

/-!
# Blanks in headers of loops

The names of a header may have any blanks around their comma, but its `in` needs a space at either
side. With another blank in such a place the names would go on behind the `in`, or there is no mark
at all: the header is refused then and never read as another one (`ofArgument_spaced_iff`).
-/

namespace Stencil

namespace Text

variable {before after : Text} {c : Char}

/-- Trimming keeps what stands between characters that are no blanks. -/
theorem mem_trim_of_between (hbefore : ∃ x ∈ before, ¬isBlank x)
    (hafter : ∃ x ∈ after, ¬isBlank x) : c ∈ trim (before ++ c :: after) := by
  obtain ⟨x, hx, first⟩ := hbefore
  obtain ⟨y, hy, last⟩ := hafter
  obtain ⟨⟨left, right, htext, hleft, hright⟩, -, -⟩ :
    Trimmed (before ++ c :: after) (trim (before ++ c :: after)) := trimmed_trim
  have visible (rest : Text) (h : right = rest ++ after) : False := by
    rw [h] at hright
    exact last (hright y (List.mem_append_right _ hy))
  rw [List.append_assoc] at htext
  rcases List.append_eq_append_iff.1 htext with ⟨more, rfl, -⟩ | ⟨more, rfl, hmore⟩
  · exact absurd (hleft x (List.mem_append_left _ hx)) first
  rcases List.append_eq_append_iff.1 hmore with ⟨rest, -, hrest⟩ | ⟨rest, hcontent, hrest⟩
  · exact (visible (rest ++ [c]) (by simpa using hrest)).elim
  · cases rest with
    | nil => exact (visible [c] hrest.symm).elim
    | cons z rest =>
        obtain ⟨rfl, -⟩ := List.cons.inj hrest
        rw [hcontent]
        simp

end Text

namespace LoopHeader

variable {keyword item index collection names : Text}
variable {beforeComma afterComma beforeIn afterIn : Text}

/-- A text with a blank in its middle is no name. -/
theorem not_isLoopName_trim {before after : Text} {c : Char} (hbefore : ∃ x ∈ before, ¬isBlank x)
    (hc : isBlank c) (hafter : ∃ x ∈ after, ¬isBlank x) :
    ¬isLoopName (Text.trim (before ++ c :: after)) := by
  intro h
  have hword := (isLoopName_word h).2.1 c (Text.mem_trim_of_between hbefore hafter)
  exact not_isBlank_of_isWord hword hc

/-- A header is refused if whatever stands before its mark is no names. -/
theorem exists_error_of_names {argument : Text}
    (h : ∀ before after, Text.FirstCut inMark argument before after →
      ¬(isLoopName (namesOf before).1 ∧ isLoopName (namesOf before).2)) :
    ∃ fault, ofArgument keyword argument = .error fault := by
  unfold ofArgument
  cases hsplit : Text.splitAt? inMark argument with
  | none => exact ⟨_, rfl⟩
  | some cut =>
      obtain ⟨before, after⟩ := cut
      dsimp only
      split
      · exact ⟨_, rfl⟩
      · cases hfind : [(namesOf before).1, (namesOf before).2].find? (fun name => !isLoopName name)
          with
        | some name => exact ⟨_, rfl⟩
        | none =>
            refine absurd ?_ (h before after (Text.splitAt?_eq_some_iff.1 hsplit))
            simpa using List.find?_eq_none.1 hfind

/-- What stands before the first comma goes on at least to the first part without one. -/
theorem exists_breakAt_append {front : Text} (free : ',' ∉ front) (more : Text) :
    ∃ rest, (Text.breakAt [','] (front ++ more)).1 = front ++ rest := by
  unfold Text.breakAt
  cases hsplit : Text.splitAt? [','] (front ++ more) with
  | none => exact ⟨more, rfl⟩
  | some cut =>
      have htext := (Text.splitAt?_eq_some hsplit).symm
      rw [List.append_assoc] at htext
      rcases List.append_eq_append_iff.1 htext with ⟨rest, hrest, -⟩ | ⟨rest, rfl, hrest⟩
      · exact ⟨rest, hrest⟩
      · cases rest with
        | nil => exact ⟨[], by simp⟩
        | cons c rest =>
            obtain ⟨rfl, -⟩ := List.cons.inj hrest
            simp at free

section

variable (hitem : isLoopName item) (hbeforeIn : ∀ c ∈ beforeIn, isBlank c) (ne : beforeIn ≠ [])
include hitem hbeforeIn ne

/-- An item and what stands behind the `in` are not one name. -/
theorem not_isLoopName_item (more : Text) :
    ¬isLoopName (namesOf (item ++ beforeIn ++ 'i' :: 'n' :: more)).1 := by
  obtain ⟨hne, hword, -⟩ := isLoopName_word hitem
  obtain ⟨x, hx⟩ := List.exists_mem_of_ne_nil item hne
  obtain ⟨blank, blanks, rfl⟩ := List.exists_cons_of_ne_nil ne
  have free : ',' ∉ item ++ blank :: blanks ++ ['i', 'n'] := by
    simp only [List.mem_append, not_or]
    refine ⟨⟨fun h => ?_, fun h => ?_⟩, by decide⟩
    · exact absurd (hword ',' h) (by decide)
    · exact absurd (hbeforeIn ',' h) (by decide)
  obtain ⟨rest, hrest⟩ := exists_breakAt_append free more
  have htext : item ++ blank :: blanks ++ 'i' :: 'n' :: more
      = item ++ blank :: blanks ++ ['i', 'n'] ++ more := by simp
  have hfront : item ++ blank :: blanks ++ ['i', 'n'] ++ rest
      = item ++ blank :: (blanks ++ 'i' :: 'n' :: rest) := by simp
  rw [htext]
  show ¬isLoopName (Text.trim (Text.breakAt [','] _).1)
  rw [hrest, hfront]
  exact not_isLoopName_trim ⟨x, hx, not_isBlank_of_isWord (hword x hx)⟩
    (hbeforeIn blank List.mem_cons_self) ⟨'i', by simp, by decide⟩

end

/-- An index and what stands behind the `in` are not one name. -/
theorem not_isLoopName_index (hitem : isLoopName item) (hbefore : ∀ c ∈ beforeComma, isBlank c)
    (hindex : isLoopName index) (hbeforeIn : ∀ c ∈ beforeIn, isBlank c) (ne : beforeIn ≠ [])
    (more : Text) :
    ¬isLoopName (namesOf (bothNames item beforeComma afterComma index ++ beforeIn
      ++ 'i' :: 'n' :: more)).2 := by
  obtain ⟨hne, hword, -⟩ := isLoopName_word hindex
  obtain ⟨x, hx⟩ := List.exists_mem_of_ne_nil index hne
  obtain ⟨blank, blanks, rfl⟩ := List.exists_cons_of_ne_nil ne
  have htext : bothNames item beforeComma afterComma index ++ blank :: blanks ++ 'i' :: 'n' :: more
      = item ++ beforeComma
        ++ ',' :: (afterComma ++ index ++ blank :: (blanks ++ 'i' :: 'n' :: more)) := by
    simp [bothNames]
  have between :
      blank ∈ Text.trim (afterComma ++ index ++ blank :: (blanks ++ 'i' :: 'n' :: more)) :=
    Text.mem_trim_of_between ⟨x, by simp [hx], not_isBlank_of_isWord (hword x hx)⟩
      ⟨'i', by simp, by decide⟩
  have hblank : isBlank blank := hbeforeIn blank List.mem_cons_self
  rw [htext, namesOf, breakAt_comma (isLoopName_word hitem).2.1 hbefore]
  -- What the trimmed name holds is not empty, so it is not replaced by the default name.
  rw [if_neg (by simpa using List.ne_nil_of_mem between)]
  intro h
  exact not_isBlank_of_isWord ((isLoopName_word h).2.1 blank between) hblank

/-! ### Headers with any blanks -/

/-- The blanks around an `in` end and begin with a space. -/
def HasSpaces (beforeIn afterIn : Text) : Prop :=
  beforeIn.getLast? = some ' ' ∧ afterIn.head? = some ' '

/-- An argument reads as the header under the condition, and is refused otherwise. -/
structure ReadsWhen (condition : Prop) (keyword argument : Text) (header : LoopHeader) : Prop where
  ok_iff : ofArgument keyword argument = .ok header ↔ condition
  error : ¬condition → ∃ fault, ofArgument keyword argument = .error fault

/-- Names that read as an item and an index under any blanks make a header with spaces beside its
`in`, and none without. -/
theorem readsWhen_hasSpaces (unmarked : IsUnmarked names)
    (hnames : ∀ blanks, (∀ c ∈ blanks, isBlank c) → namesOf (names ++ blanks) = (item, index))
    (hmore : ∀ more, ¬(isLoopName (namesOf (names ++ beforeIn ++ 'i' :: 'n' :: more)).1
      ∧ isLoopName (namesOf (names ++ beforeIn ++ 'i' :: 'n' :: more)).2))
    (hitem : isLoopName item) (hindex : isLoopName index) (distinct : item ≠ index)
    (trimmed : Text.trim collection = collection) (ne : collection ≠ [])
    (hbefore : ∀ c ∈ beforeIn, isBlank c) (hafter : ∀ c ∈ afterIn, isBlank c)
    (before : beforeIn ≠ []) (after : afterIn ≠ []) :
    ReadsWhen (HasSpaces beforeIn afterIn) keyword (spaced names beforeIn afterIn collection)
      ⟨item, index, collection⟩ := by
  have refused (spaces : ¬HasSpaces beforeIn afterIn) :
      ∃ fault, ofArgument keyword (spaced names beforeIn afterIn collection) = .error fault := by
    refine exists_error_of_names fun b a hcut => ?_
    obtain ⟨left, right, rfl, rfl, -⟩ | ⟨more, rfl⟩ :=
      cases_of_spaced unmarked hbefore before after hcut.text_eq
    · exact absurd ⟨by simp, by simp⟩ spaces
    · exact hmore more
  refine ⟨⟨fun hok => ?_, fun ⟨hlast, hfirst⟩ => ?_⟩, refused⟩
  · by_contra spaces
    obtain ⟨fault, herror⟩ := refused spaces
    rw [hok] at herror
    cases herror
  · obtain ⟨left, rfl⟩ := List.getLast?_eq_some_iff.1 hlast
    obtain ⟨right, rfl⟩ := List.head?_eq_some_iff.1 hfirst
    have hleft : ∀ c ∈ left, isBlank c := fun c hc => hbefore c (List.mem_append_left _ hc)
    exact ofArgument_spaced unmarked hleft (fun c hc => hafter c (List.mem_cons_of_mem _ hc))
      (hnames left hleft) hitem hindex distinct trimmed ne

/-- **Blanks in a header**: with an index or without, and with any blanks around the comma and the
`in`, a header reads as its parts if and only if a space stands at either side of the `in`. All
other headers of this form are refused. -/
theorem ofArgument_spaced_iff (keyword : Text) (hitem : isLoopName item) (hindex : isLoopName index)
    (distinct : item ≠ index) (trimmed : Text.trim collection = collection) (ne : collection ≠ [])
    (hbeforeComma : ∀ c ∈ beforeComma, isBlank c) (hafterComma : ∀ c ∈ afterComma, isBlank c)
    (hbeforeIn : ∀ c ∈ beforeIn, isBlank c) (hafterIn : ∀ c ∈ afterIn, isBlank c)
    (before : beforeIn ≠ []) (after : afterIn ≠ []) :
    ReadsWhen (HasSpaces beforeIn afterIn) keyword
        (spaced (bothNames item beforeComma afterComma index) beforeIn afterIn collection)
        ⟨item, index, collection⟩
      ∧ (item ≠ defaultIndex →
        ReadsWhen (HasSpaces beforeIn afterIn) keyword (spaced item beforeIn afterIn collection)
          ⟨item, defaultIndex, collection⟩) := by
  obtain ⟨-, witem, -⟩ := isLoopName_word hitem
  obtain ⟨nindex, windex, -⟩ := isLoopName_word hindex
  refine ⟨?_, fun default => ?_⟩
  · refine readsWhen_hasSpaces
      (isUnmarked_bothNames witem hbeforeComma hafterComma windex (ne_in_of_isLoopName hindex))
      (fun blanks hblanks => namesOf_bothNames witem hbeforeComma hafterComma windex nindex hblanks)
      (fun more names => ?_) hitem hindex distinct trimmed ne hbeforeIn hafterIn before after
    exact not_isLoopName_index hitem hbeforeComma hindex hbeforeIn before more names.2
  · refine readsWhen_hasSpaces (isUnmarked_word witem)
      (fun blanks hblanks => namesOf_word witem hblanks) (fun more names => ?_)
      hitem (by decide) default trimmed ne hbeforeIn hafterIn before after
    exact not_isLoopName_item hitem hbeforeIn before more names.1

/-- A header over three lines whose collection holds the mark and a comma itself. -/
theorem readsWhen_three_lines :
    ReadsWhen (HasSpaces ['\n', '\t', ' '] [' ', '\n']) "foreach".toList
        (spaced (bothNames "row".toList ['\n'] ['\t', '\u2003'] "i".toList) ['\n', '\t', ' ']
          [' ', '\n'] "[a in b, c]".toList)
        ⟨"row".toList, "i".toList, "[a in b, c]".toList⟩
      ∧ HasSpaces ['\n', '\t', ' '] [' ', '\n'] := by
  have spaces : HasSpaces ['\n', '\t', ' '] [' ', '\n'] := ⟨by decide, by decide⟩
  refine ⟨(ofArgument_spaced_iff "foreach".toList ?_ ?_ ?_ ?_ ?_ ?_ ?_ ?_ ?_ ?_ ?_).1, spaces⟩
  -- The names and the collection.
  · decide +kernel
  · decide +kernel
  · decide +kernel
  · decide +kernel
  · decide +kernel
  -- The blanks.
  · exact List.all_eq_true.1 (by decide)
  · exact List.all_eq_true.1 (by decide)
  · exact List.all_eq_true.1 (by decide)
  · exact List.all_eq_true.1 (by decide)
  · decide
  · decide

/-- A tabulator before the `in` is a blank, and the header has no mark. -/
theorem ofArgument_tabulator :
    isLoopName ['x'] ∧ ['x'] ≠ defaultIndex ∧ Text.trim ['c'] = ['c'] ∧ isBlank '\t' ∧ isBlank ' '
      ∧ ofArgument "foreach".toList (spaced ['x'] ['\t'] [' '] ['c'])
        = .error (.loopShape "foreach".toList) := by
  decide +kernel

end LoopHeader

end Stencil
