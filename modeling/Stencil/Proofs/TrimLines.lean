import Stencil.Proofs.Text.Lines
import Stencil.Proofs.Text.Trim
import Stencil.Template

/-!
# Trimmed and joined lines

`Text.trimLines` cuts a text at its line ends, trims the lines and joins them. Every line end is a
blank, so nothing but blanks is lost on the way (`filter_trimLines`), and the result is one line
without a blank at either end, which is trimmed to itself (`trimLines_eq_self`).

A line feed between two texts ends the last line of the first one, unless it is the second half of a
line end that the first one began; in that case there is no further line either. So the texts on its
two sides are trimmed apart from each other (`trimLines_append_newline`).
-/

namespace Stencil

/-- Every line end is a blank, so trimming a line takes its end off as well. -/
theorem isBlank_of_isLineEnd {c : Char} (h : isLineEnd c) : isBlank c := by
  simp only [isLineEnd, isBlank, Bool.or_eq_true, Bool.and_eq_true, decide_eq_true_eq,
    beq_iff_eq] at h ⊢
  omega

namespace Text

/-- The text neither begins nor ends with a blank. -/
structure IsBare (text : Text) : Prop where
  first : ∀ c ∈ text.head?, ¬isBlank c
  last : ∀ c ∈ text.getLast?, ¬isBlank c

variable {s t line text : Text} {c : Char}

/-! ### Trimming -/

theorem isBare_trim (raw : Text) : (trim raw).IsBare :=
  ⟨trimmed_trim.first, trimmed_trim.last⟩

theorem IsBare.trim_eq (h : text.IsBare) : trim text = text :=
  trim_eq_iff.2 ⟨⟨[], [], by simp, by simp, by simp⟩, h.first, h.last⟩

theorem IsBare.append (hs : s.IsBare) (ht : t.IsBare) : (s ++ t).IsBare where
  first c hc := by
    rw [List.head?_append, Option.mem_def, Option.or_eq_some_iff] at hc
    exact hc.elim (hs.first c) fun h => ht.first c h.2
  last c hc := by
    rw [List.getLast?_append, Option.mem_def, Option.or_eq_some_iff] at hc
    exact hc.elim (ht.last c) fun h => hs.last c h.2

theorem isBare_flatMap_trim (pieces : List Text) : IsBare (pieces.flatMap trim) := by
  induction pieces with
  | nil => exact ⟨nofun, nofun⟩
  | cons piece pieces ih => exact (isBare_trim piece).append ih

/-- Trimming takes away nothing but blanks. -/
theorem filter_trim (raw : Text) : (trim raw).filter (!isBlank ·) = raw.filter (!isBlank ·) := by
  obtain ⟨⟨left, right, hraw, hleft, hright⟩, -, -⟩ : Trimmed raw (trim raw) := trimmed_trim
  have nothing {blanks : Text} (h : ∀ c ∈ blanks, isBlank c) :
      blanks.filter (!isBlank ·) = [] := by
    simpa [List.filter_eq_nil_iff] using h
  calc (trim raw).filter (!isBlank ·)
    _ = (left ++ trim raw ++ right).filter (!isBlank ·) := by
        rw [List.filter_append, List.filter_append, nothing hleft, nothing hright, List.nil_append,
          List.append_nil]
    _ = raw.filter (!isBlank ·) := by rw [← hraw]

/-! ### Lines -/

/-- One more character: a line end finishes the line, and all others go to it. The condition keeps
the two characters of one line end together. -/
theorem linesAfter_cons (h : c = '\r' → t.head? ≠ some '\n') :
    linesAfter line (c :: t) =
      if isLineEnd c then line.reverse :: linesAfter [] t else linesAfter (c :: line) t := by
  rw [linesAfter]
  rintro rest rfl rfl
  exact h rfl rfl

theorem linesAfter_cons_of_not_isLineEnd (inside : ¬isLineEnd c) :
    linesAfter line (c :: t) = linesAfter (c :: line) t := by
  have hreturn : c ≠ '\r' := by
    rintro rfl
    exact inside (by decide)
  rw [linesAfter_cons fun h => absurd h hreturn, if_neg inside]

/-- No line end stands in a line. -/
theorem not_isLineEnd_of_mem_linesAfter (hline : ∀ c ∈ line, ¬isLineEnd c)
    (h : s ∈ linesAfter line text) : ∀ c ∈ s, ¬isLineEnd c := by
  have hreverse {line : Text} (hline : ∀ c ∈ line, ¬isLineEnd c) :
      ∀ c ∈ line.reverse, ¬isLineEnd c := by simpa using hline
  fun_induction linesAfter line text with
  | case1 => cases h
  | case2 =>
      rw [List.mem_singleton.1 h]
      exact hreverse hline
  | case3 line rest ih =>
      rcases List.mem_cons.1 h with rfl | h
      · exact hreverse hline
      · exact ih (by simp) h
  | case4 line c rest _ ends ih =>
      rcases List.mem_cons.1 h with rfl | h
      · exact hreverse hline
      · exact ih (by simp) h
  | case5 line c rest _ inside ih => exact ih (List.forall_mem_cons.2 ⟨inside, hline⟩) h

/-- Between the lines there are line ends only, which are blanks. -/
theorem filter_linesAfter (line text : Text) :
    (linesAfter line text).flatten.filter (!isBlank ·)
      = line.reverse.filter (!isBlank ·) ++ text.filter (!isBlank ·) := by
  have skip {c : Char} (h : isLineEnd c) (t : Text) :
      (c :: t).filter (!isBlank ·) = t.filter (!isBlank ·) :=
    List.filter_cons_of_neg (by simp [isBlank_of_isLineEnd h])
  fun_induction linesAfter line text with
  | case1 line empty => simp [List.isEmpty_iff.1 empty]
  | case2 line nonempty => simp
  | case3 line rest ih =>
      have carriage : isLineEnd '\r' := by decide
      have feed : isLineEnd '\n' := by decide
      rw [List.flatten_cons, List.filter_append, ih, skip carriage, skip feed]
      rfl
  | case4 line c rest _ ends ih =>
      rw [List.flatten_cons, List.filter_append, ih, skip ends]
      rfl
  | case5 line c rest _ inside ih =>
      rw [ih, ← List.filter_append, ← List.filter_append, List.reverse_cons, List.append_assoc]
      rfl

/-- A text without line ends is one line, or none if it is empty. -/
theorem flatMap_linesAfter (f : Text → Text) (empty : f [] = []) (h : ∀ c ∈ text, ¬isLineEnd c) :
    (linesAfter line text).flatMap f = f (line.reverse ++ text) := by
  induction text generalizing line with
  | nil =>
      rw [linesAfter, List.append_nil]
      split
      · rename_i hline
        rw [List.isEmpty_iff.1 hline]
        exact empty.symm
      · exact List.flatMap_singleton ..
  | cons c text ih =>
      obtain ⟨inside, htext⟩ := List.forall_mem_cons.1 h
      rw [linesAfter_cons_of_not_isLineEnd inside, ih htext, List.reverse_cons, List.append_assoc]
      rfl

/-- A line feed behind a text ends its last line, or belongs to the line end that the text began. -/
theorem flatMap_linesAfter_append (f : Text → Text) (empty : f [] = []) (line s t : Text) :
    (linesAfter line (s ++ '\n' :: t)).flatMap f
      = (linesAfter line s).flatMap f ++ (lines t).flatMap f := by
  have feed (line : Text) : (linesAfter line ('\n' :: t)).flatMap f
      = f line.reverse ++ (lines t).flatMap f := by
    rw [linesAfter_cons fun h => absurd h (by decide), if_pos (by decide)]
    exact List.flatMap_cons
  fun_induction linesAfter line s with
  | case1 line nothing =>
      rw [List.nil_append, feed, List.isEmpty_iff.1 nothing, List.reverse_nil, empty]
      rfl
  | case2 line _ => rw [List.nil_append, feed, List.flatMap_singleton]
  | case3 line rest ih =>
      show (line.reverse :: linesAfter [] (rest ++ '\n' :: t)).flatMap f = _
      rw [List.flatMap_cons, ih, List.flatMap_cons, List.append_assoc]
  | case4 line c rest other ends ih =>
      -- A carriage return at the end is one line end with the line feed behind it.
      by_cases half : c = '\r' ∧ rest = []
      · obtain ⟨rfl, rfl⟩ := half
        show (line.reverse :: lines t).flatMap f = _
        rw [List.flatMap_cons, List.flatMap_cons, List.append_assoc]
        rfl
      · have hhead : c = '\r' → (rest ++ '\n' :: t).head? ≠ some '\n' := by
          rintro rfl
          exact head?_append_ne (fun more => other more rfl) fun nothing =>
            absurd ⟨rfl, nothing⟩ half
        rw [List.cons_append, linesAfter_cons hhead, if_pos ends, List.flatMap_cons, ih,
          List.flatMap_cons, List.append_assoc]
  | case5 line c rest _ inside ih =>
      rw [List.cons_append, linesAfter_cons_of_not_isLineEnd inside, ih]

/-! ### Trimmed lines -/

/-- **A line feed between two texts** keeps their lines apart. -/
theorem trimLines_append_newline (s t : Text) :
    trimLines (s ++ '\n' :: t) = trimLines s ++ trimLines t :=
  flatMap_linesAfter_append trim rfl [] s t

theorem not_isLineEnd_of_mem_trimLines (h : c ∈ trimLines text) : ¬isLineEnd c := by
  obtain ⟨line, hline, hc⟩ := List.mem_flatMap.1 h
  exact not_isLineEnd_of_mem_linesAfter (by simp) hline c (mem_of_mem_trim hc)

/-- What is left of the lines is bare, as every line of it is. -/
theorem isBare_trimLines (text : Text) : (trimLines text).IsBare :=
  isBare_flatMap_trim (lines text)

/-- **Nothing but blanks is lost.** -/
theorem filter_trimLines (text : Text) :
    (trimLines text).filter (!isBlank ·) = text.filter (!isBlank ·) :=
  calc (trimLines text).filter (!isBlank ·)
    _ = (lines text).flatMap fun line => (trim line).filter (!isBlank ·) := List.filter_flatMap ..
    _ = (lines text).flatMap fun line => line.filter (!isBlank ·) := by simp only [filter_trim]
    _ = (lines text).flatten.filter (!isBlank ·) := by
        rw [List.filter_flatten, List.flatMap_def]
    _ = text.filter (!isBlank ·) := filter_linesAfter [] text

/-- A line without a blank at either end stays as it is. -/
theorem trimLines_eq_self (h : ∀ c ∈ text, ¬isLineEnd c) (bare : text.IsBare) :
    trimLines text = text := by
  rw [trimLines, lines, flatMap_linesAfter trim rfl h, List.reverse_nil, List.nil_append,
    bare.trim_eq]

theorem trimLines_trimLines (text : Text) : trimLines (trimLines text) = trimLines text :=
  trimLines_eq_self (fun _ => not_isLineEnd_of_mem_trimLines) (isBare_trimLines text)

end Text

/-! ### Templates that are trimmed -/

theorem Options.prepare_trimLines {options : Options} (trims : options.trim) (text : Text) :
    options.prepare (Text.trimLines text) = options.prepare text := by
  rw [Options.prepare, Options.prepare, if_pos trims, if_pos trims, Text.trimLines_trimLines]

/-- A template that is trimmed can as well be trimmed beforehand. -/
theorem compile_trimLines {options : Options} (trims : options.trim) (text : Text) :
    compile options (Text.trimLines text) = compile options text := by
  rw [compile, compile, Options.prepare_trimLines trims]

/-- **Trimming takes away blanks only**, and it can be done line by line: the lines on the two sides
of a line feed are trimmed apart from each other. What is left is one line without a blank at either
end, which holds all characters that are no blanks, in order. It would be trimmed to itself, so a
template that is trimmed compiles like what it is trimmed to. -/
theorem trimLines_removes_blanks (s t : Text) :
    Text.trimLines (s ++ '\n' :: t) = Text.trimLines s ++ Text.trimLines t
    ∧ (∀ c ∈ Text.trimLines t, ¬isLineEnd c)
    ∧ (Text.trimLines t).IsBare
    ∧ (Text.trimLines t).filter (!isBlank ·) = t.filter (!isBlank ·)
    ∧ Text.trimLines (Text.trimLines t) = Text.trimLines t
    ∧ ∀ options : Options, options.trim →
        compile options (Text.trimLines t) = compile options t :=
  ⟨Text.trimLines_append_newline s t,
    fun _ => Text.not_isLineEnd_of_mem_trimLines,
    Text.isBare_trimLines t,
    Text.filter_trimLines t,
    Text.trimLines_trimLines t,
    fun _ trims => compile_trimLines trims t⟩

/-- A carriage return at the end of the first text and the line feed behind it are one line end, and
a next line control is a line end and a blank of the second text. -/
theorem trimLines_removes_blanks_return :
    let s := " a\t\r".toList
    let t := "\x85 b c\u2028".toList
    let options : Options := { trim := true }
    options.trim ∧ Text.trimLines (s ++ '\n' :: t) = Text.trimLines s ++ Text.trimLines t
    ∧ Text.trimLines s = ['a'] ∧ Text.trimLines t = ['b', ' ', 'c']
    ∧ compile options (Text.trimLines t) = compile options t := by
  intro s t options
  obtain ⟨joined, -, -, -, -, alike⟩ := trimLines_removes_blanks s t
  exact ⟨rfl, joined, by decide, by decide, alike options rfl⟩

end Stencil
