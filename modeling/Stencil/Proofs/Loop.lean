import Mathlib.Data.List.Basic
import Stencil.Loop
import Stencil.Proofs.Text.Class
import Stencil.Proofs.Text.Split
import Stencil.Proofs.Text.Trim

/-!
# Written headers of loops

A loop header is written as `item, index in collection`, with any blanks between its parts as long as
a space stands at either side of the `in`; reading it gives the header back
(`LoopHeader.ofArgument_spaced`). The names are words, so the first comma is the one between them;
and no name is the reserved word `in`, so the first ` in ` is the one behind them.

`LoopHeader.written` is the header with the blanks that a printer puts there.
-/

namespace Stencil

namespace Text

variable {word blanks rest before tail : Text} {c : Char}

/-- A character of no word stands behind a word, not in it. -/
theorem exists_append_of_word (hword : ∀ x ∈ word, isWord x) (hc : ¬isWord c)
    (h : word ++ rest = before ++ c :: tail) :
    ∃ more, before = word ++ more ∧ rest = more ++ c :: tail := by
  rcases List.append_eq_append_iff.1 h with ⟨more, hbefore, hrest⟩ | ⟨more, hmore, hrest⟩
  · exact ⟨more, hbefore, hrest⟩
  · cases more with
    | nil =>
        refine ⟨[], ?_, hrest.symm⟩
        rw [hmore, List.append_nil, List.append_nil]
    | cons x more =>
        rw [List.cons_append, List.cons.injEq] at hrest
        obtain ⟨rfl, -⟩ := hrest
        exact absurd (hword c (by simp [hmore])) hc

/-- A blank that a word follows is the last one of several blanks, or stands behind them. -/
theorem exists_append_of_blanks {x : Char} (hblanks : ∀ c ∈ blanks, isBlank c) (hx : isWord x)
    (h : blanks ++ rest = before ++ c :: x :: tail) :
    (blanks = before ++ [c] ∧ rest = x :: tail)
      ∨ ∃ more, before = blanks ++ more ∧ rest = more ++ c :: x :: tail := by
  rcases List.append_eq_append_iff.1 h with ⟨more, hbefore, hrest⟩ | ⟨more, hmore, hrest⟩
  · exact .inr ⟨more, hbefore, hrest⟩
  · cases more with
    | nil =>
        refine .inr ⟨[], ?_, hrest.symm⟩
        rw [hmore, List.append_nil, List.append_nil]
    | cons y more =>
        rw [List.cons_append, List.cons.injEq] at hrest
        obtain ⟨rfl, hrest⟩ := hrest
        cases more with
        | nil => exact .inl ⟨hmore, hrest.symm⟩
        | cons z more =>
            rw [List.cons_append, List.cons.injEq] at hrest
            obtain ⟨rfl, -⟩ := hrest
            exact absurd (hblanks x (by simp [hmore])) (not_isBlank_of_isWord hx)

theorem trimmed_word (hword : ∀ x ∈ word, isWord x) : Trimmed word word where
  between := ⟨[], [], by simp, by simp, by simp⟩
  first x hx := not_isBlank_of_isWord (hword x (List.mem_of_mem_head? hx))
  last x hx := not_isBlank_of_isWord (hword x (List.mem_of_mem_getLast? hx))

/-- Blanks around a word are trimmed off. -/
theorem trim_word {left right : Text} (hleft : ∀ c ∈ left, isBlank c) (hword : ∀ x ∈ word, isWord x)
    (hright : ∀ c ∈ right, isBlank c) : trim (left ++ word ++ right) = word := by
  obtain ⟨-, first, last⟩ := trimmed_word hword
  exact trim_eq_iff.2 ⟨⟨left, right, rfl, hleft, hright⟩, first, last⟩

end Text

namespace LoopHeader

variable {item index collection name names : Text}

/-- What a loop name is made of: characters of words, and it is no word of the script language. -/
theorem isLoopName_word (h : isLoopName name) :
    name ≠ [] ∧ (∀ c ∈ name, isWord c) ∧ ¬Script.isReserved name := by
  cases name with
  | nil => cases h
  | cons c rest =>
      simp only [isLoopName, Bool.and_eq_true, Bool.not_eq_true', List.all_eq_true] at h
      obtain ⟨⟨⟨hc, -⟩, hrest⟩, hreserved⟩ := h
      refine ⟨by simp, ?_, by simp [hreserved]⟩
      intro x hx
      rcases List.mem_cons.1 hx with rfl | hx
      · exact hc
      · exact hrest x hx

/-- The word `in` is reserved, so it is no name, and the first ` in ` that is found is the one
between the names and the collection. -/
theorem ne_in_of_isLoopName (h : isLoopName name) : name ≠ ['i', 'n'] := by
  rintro rfl
  exact (isLoopName_word h).2.2 (by decide)

/-! ### The names -/

/-- The names of a header, with any blanks around the comma. -/
def bothNames (item beforeComma afterComma index : Text) : Text :=
  item ++ beforeComma ++ ',' :: afterComma ++ index

/-- No mark begins in the text, if what follows it does not begin in the middle of a word. -/
def IsUnmarked (names : Text) : Prop :=
  ∀ rest b a, (∀ c ∈ rest.head?, isBlank c) → names ++ rest = b ++ inMark ++ a →
    ∃ more, b = names ++ more ∧ rest = more ++ inMark ++ a

theorem isUnmarked_word (hitem : ∀ c ∈ item, isWord c) : IsUnmarked item := by
  intro rest b a _ h
  have space : ¬isWord ' ' := by decide
  have htext : item ++ rest = b ++ ' ' :: ('i' :: 'n' :: ' ' :: a) := by simpa [inMark] using h
  simpa [inMark] using Text.exists_append_of_word hitem space htext

variable {beforeComma afterComma : Text}

/-- No mark hides in the names: a blank only stands beside the comma, and the word after it is not
`in`. -/
theorem isUnmarked_bothNames (hitem : ∀ c ∈ item, isWord c) (hbefore : ∀ c ∈ beforeComma, isBlank c)
    (hafter : ∀ c ∈ afterComma, isBlank c) (hindex : ∀ c ∈ index, isWord c)
    (reserved : index ≠ ['i', 'n']) :
    IsUnmarked (bothNames item beforeComma afterComma index) := by
  intro rest b a hrest h
  have space : ¬isWord ' ' := by decide
  have letter : isWord 'i' := by decide
  have htext : item ++ (beforeComma ++ (',' :: (afterComma ++ (index ++ rest))))
      = b ++ ' ' :: 'i' :: ('n' :: ' ' :: a) := by
    simpa [bothNames, inMark] using h
  obtain ⟨more, rfl, hmore⟩ := Text.exists_append_of_word hitem space htext
  obtain ⟨-, hcomma⟩ | ⟨more, rfl, hcomma⟩ := Text.exists_append_of_blanks hbefore letter hmore
  · simp at hcomma
  -- Behind the item and its blanks stands the comma, which is not in the mark.
  cases more with
  | nil => simp at hcomma
  | cons comma more =>
      obtain ⟨rfl, hbehind⟩ := List.cons.inj hcomma
      obtain ⟨-, hin⟩ | ⟨more, rfl, hindexed⟩ := Text.exists_append_of_blanks hafter letter hbehind
      · -- The word behind the comma would be `in`.
        have hword : ∀ c ∈ ['i', 'n'], isWord c := List.all_eq_true.1 (by decide)
        have hin : index ++ rest = ['i', 'n'] ++ ' ' :: a := hin
        obtain ⟨more, hname, hblank⟩ := Text.exists_append_of_word hindex space hin
        cases more with
        | nil => exact absurd (by simpa using hname.symm) reserved
        | cons c more =>
            have hc : isBlank c := hrest c (by simp [hblank])
            have hletter : c ∈ ['i', 'n'] := by simp [hname]
            exact absurd hc (not_isBlank_of_isWord (hword c hletter))
      · obtain ⟨more, rfl, hmark⟩ := Text.exists_append_of_word hindex space hindexed
        exact ⟨more, by simp [bothNames], by simpa [inMark] using hmark⟩

variable {blanks : Text}

/-- A name alone is that of the item. -/
theorem namesOf_word (hitem : ∀ c ∈ item, isWord c) (hblanks : ∀ c ∈ blanks, isBlank c) :
    namesOf (item ++ blanks) = (item, defaultIndex) := by
  have hnone : Text.splitAt? [','] (item ++ blanks) = none := by
    rw [Text.splitAt?_eq_none_iff]
    refine Text.not_isInfix_of_forall_not_mem (by simp) (List.forall_mem_singleton.2 fun h => ?_)
    rcases List.mem_append.1 h with h | h
    · exact absurd (hitem ',' h) (by decide)
    · exact absurd (hblanks ',' h) (by decide)
  have htrim : Text.trim ([] ++ item ++ blanks) = item := Text.trim_word (by simp) hitem hblanks
  rw [List.nil_append] at htrim
  have hempty : Text.trim [] = [] := rfl
  simp [namesOf, Text.breakAt, hnone, htrim, hempty]

/-- The first comma is the one behind the item. -/
theorem breakAt_comma {rest : Text} (hitem : ∀ c ∈ item, isWord c)
    (hbefore : ∀ c ∈ beforeComma, isBlank c) :
    Text.breakAt [','] (item ++ beforeComma ++ ',' :: rest) = (item ++ beforeComma, rest) := by
  have free : ',' ∉ item ++ beforeComma := by
    intro h
    rcases List.mem_append.1 h with h | h
    · exact absurd (hitem ',' h) (by decide)
    · exact absurd (hbefore ',' h) (by decide)
  exact Text.breakAt_cons free

/-- Two names are read with the comma between them, whatever blanks stand beside it. -/
theorem namesOf_bothNames (hitem : ∀ c ∈ item, isWord c) (hbefore : ∀ c ∈ beforeComma, isBlank c)
    (hafter : ∀ c ∈ afterComma, isBlank c) (hindex : ∀ c ∈ index, isWord c) (ne : index ≠ [])
    (hblanks : ∀ c ∈ blanks, isBlank c) :
    namesOf (bothNames item beforeComma afterComma index ++ blanks) = (item, index) := by
  have hnames : bothNames item beforeComma afterComma index ++ blanks
      = item ++ beforeComma ++ ',' :: (afterComma ++ index ++ blanks) := by simp [bothNames]
  have htrim : Text.trim ([] ++ item ++ beforeComma) = item :=
    Text.trim_word (by simp) hitem hbefore
  rw [List.nil_append] at htrim
  rw [hnames, namesOf, breakAt_comma hitem hbefore]
  simp only [htrim, Text.trim_word hafter hindex hblanks, List.isEmpty_iff, ne, if_false]

/-! ### The mark -/

/-- A header with any blanks around its `in`. -/
def spaced (names beforeIn afterIn collection : Text) : Text :=
  names ++ beforeIn ++ 'i' :: 'n' :: afterIn ++ collection

variable {beforeIn afterIn : Text}

/-- A mark in a header is the one behind the names, which needs a space at either side, or begins
behind it. -/
theorem cases_of_spaced {b a : Text} (unmarked : IsUnmarked names)
    (hbefore : ∀ c ∈ beforeIn, isBlank c) (before : beforeIn ≠ []) (after : afterIn ≠ [])
    (h : spaced names beforeIn afterIn collection = b ++ inMark ++ a) :
    (∃ left right, beforeIn = left ++ [' '] ∧ afterIn = ' ' :: right
        ∧ b = names ++ left ∧ a = right ++ collection)
      ∨ ∃ more, b = names ++ beforeIn ++ 'i' :: 'n' :: more := by
  have letter : isWord 'i' := by decide
  have space : ¬isWord ' ' := by decide
  have htext : names ++ (beforeIn ++ ('i' :: 'n' :: (afterIn ++ collection))) = b ++ inMark ++ a := by
    simpa [spaced] using h
  have hblank : ∀ c ∈ (beforeIn ++ ('i' :: 'n' :: (afterIn ++ collection))).head?, isBlank c := by
    obtain ⟨c, rest, rfl⟩ := List.exists_cons_of_ne_nil before
    simpa using hbefore c List.mem_cons_self
  obtain ⟨more, rfl, hmore⟩ := unmarked _ b a hblank htext
  have hmore : beforeIn ++ ('i' :: 'n' :: (afterIn ++ collection))
      = more ++ ' ' :: 'i' :: ('n' :: ' ' :: a) := by simpa [inMark] using hmore
  obtain ⟨hlast, hbehind⟩ | ⟨more, rfl, hword⟩ := Text.exists_append_of_blanks hbefore letter hmore
  · refine .inl ?_
    obtain ⟨x, right, rfl⟩ := List.exists_cons_of_ne_nil after
    obtain ⟨rfl, rfl⟩ : x = ' ' ∧ right ++ collection = a := by simpa using hbehind
    exact ⟨more, right, hlast, rfl, rfl, rfl⟩
  · have letters : ∀ c ∈ ['i', 'n'], isWord c := List.all_eq_true.1 (by decide)
    obtain ⟨rest, rfl, -⟩ := Text.exists_append_of_word letters space
      (show ['i', 'n'] ++ (afterIn ++ collection) = _ from hword)
    exact .inr ⟨rest, by simp⟩

/-- The first mark of a header is the one behind the names. -/
theorem firstCut_spaced {left right : Text} (unmarked : IsUnmarked names)
    (hleft : ∀ c ∈ left, isBlank c) :
    Text.FirstCut inMark (spaced names (left ++ [' ']) (' ' :: right) collection) (names ++ left)
      (right ++ collection) where
  text_eq := by simp [spaced, inMark]
  first b a h := by
    have hbefore : ∀ c ∈ left ++ [' '], isBlank c :=
      List.forall_mem_append.2 ⟨hleft, List.forall_mem_singleton.2 (by decide)⟩
    obtain ⟨left', right', hlast, -, rfl, -⟩ | ⟨more, rfl⟩ :=
      cases_of_spaced unmarked hbefore (by simp) (List.cons_ne_nil ' ' right) h
    · obtain rfl : left = left' := List.append_cancel_right hlast
      exact Nat.le_refl _
    · simp only [List.length_append, List.length_cons]
      omega

/-- **Reading a header** with spaces beside its `in` gives its parts. -/
theorem ofArgument_spaced {keyword left right : Text} (unmarked : IsUnmarked names)
    (hleft : ∀ c ∈ left, isBlank c) (hright : ∀ c ∈ right, isBlank c)
    (hnames : namesOf (names ++ left) = (item, index)) (hitem : isLoopName item)
    (hindex : isLoopName index) (distinct : item ≠ index)
    (trimmed : Text.trim collection = collection) (ne : collection ≠ []) :
    ofArgument keyword (spaced names (left ++ [' ']) (' ' :: right) collection)
      = .ok ⟨item, index, collection⟩ := by
  have hcut : Text.FirstCut inMark (spaced names (left ++ [' ']) (' ' :: right) collection)
      (names ++ left) (right ++ collection) := firstCut_spaced unmarked hleft
  have hsplit := Text.splitAt?_eq_some_iff.2 hcut
  have htrim : Text.trim (right ++ collection) = collection := by
    obtain ⟨-, first, last⟩ := Text.trim_eq_iff.1 trimmed
    exact Text.trim_eq_iff.2 ⟨⟨right, [], by simp, hright, by simp⟩, first, last⟩
  simp [ofArgument, hsplit, htrim, ne, hnames, hitem, hindex, distinct]

/-! ### The printed form -/

/-- The names and the collection as they stand in a loop statement. -/
def written (item index collection : Text) : Text :=
  item ++ ',' :: ' ' :: index ++ inMark ++ collection

/-- A written header has no blanks around it. -/
theorem trim_written (hitem : isLoopName item) (trimmed : Text.trim collection = collection)
    (ne : collection ≠ []) :
    Text.trim (written item index collection) = written item index collection := by
  obtain ⟨nitem, witem, -⟩ := isLoopName_word hitem
  obtain ⟨-, first, -⟩ := Text.trimmed_word witem
  obtain ⟨-, -, last⟩ := Text.trim_eq_iff.1 trimmed
  refine Text.trim_eq_iff.2 ⟨⟨[], [], by simp, by simp, by simp⟩, ?_, ?_⟩
  · rwa [written, List.append_assoc, List.append_assoc, List.head?_append_of_ne_nil _ nitem]
  · rwa [written, List.getLast?_append_of_ne_nil _ ne]

/-- **Reading a written header** gives the header back. -/
theorem ofArgument_written {keyword : Text} (hitem : isLoopName item) (hindex : isLoopName index)
    (distinct : item ≠ index) (trimmed : Text.trim collection = collection)
    (ne : collection ≠ []) :
    ofArgument keyword (written item index collection) = .ok ⟨item, index, collection⟩ := by
  obtain ⟨-, witem, -⟩ := isLoopName_word hitem
  obtain ⟨nindex, windex, -⟩ := isLoopName_word hindex
  have space : ∀ c ∈ [' '], isBlank c := List.forall_mem_singleton.2 (by decide)
  have unmarked : IsUnmarked (bothNames item [] [' '] index) :=
    isUnmarked_bothNames witem (by simp) space windex (ne_in_of_isLoopName hindex)
  have hnames : namesOf (bothNames item [] [' '] index ++ []) = (item, index) :=
    namesOf_bothNames witem (by simp) space windex nindex (by simp)
  have hwritten : written item index collection
      = spaced (bothNames item [] [' '] index) ([] ++ [' ']) (' ' :: []) collection := by
    simp [written, spaced, bothNames, inMark]
  rw [hwritten]
  exact ofArgument_spaced unmarked (by simp) (by simp) hnames hitem hindex distinct trimmed ne

end LoopHeader

end Stencil
