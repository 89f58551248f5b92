import Mathlib.Algebra.Ring.Nat
import Stencil.Proofs.Script.Lexeme
import Stencil.Text.Quoted

/-!
# Quoted texts are literals

`Text.quoted` writes a text as a literal of the language of sources: reading the body of the literal
takes off the escapes, whichever quote was chosen, and stops at the closing quote
(`literalBody?_quoted`). So a quoted text says which text it stands for, and where it ends
(`Text.quoted_append_inj`). It holds nothing but printable characters, and hence no line end.
-/

namespace Stencil.Script.Lexeme

variable {c quote : Char} {s rest : Text} {n width : Nat}

/-! ### Hexadecimal digits -/

theorem digitOf?_digitChar : ∀ n < 16, digitOf? 16 (Nat.digitChar n) = some n := by
  decide

theorem valueOf_append (base : Nat) (s t : Text) :
    valueOf base (s ++ t)
      = t.foldl (fun value c => value * base + (digitOf? base c).getD 0) (valueOf base s) :=
  List.foldl_append

/-- Digits that were written are read back as their number. -/
theorem valueOf_toDigits (n : Nat) : valueOf 16 (Nat.toDigits 16 n) = n := by
  induction n using Nat.strongRecOn with
  | ind n ih =>
      rw [Nat.toDigits_eq_if (by decide)]
      split
      · rename_i small
        simp [valueOf, digitOf?_digitChar n small]
      · rename_i large
        rw [valueOf_append, ih (n / 16) (by omega), List.foldl_cons, List.foldl_nil,
          digitOf?_digitChar _ (Nat.mod_lt n (by decide)), Option.getD_some]
        omega

theorem exists_of_mem_toDigits {base : Nat} (hbase : 1 < base) (h : c ∈ Nat.toDigits base n) :
    ∃ digit < base, c = digit.digitChar := by
  induction n using Nat.strongRecOn with
  | ind n ih =>
      rw [Nat.toDigits_eq_if hbase] at h
      split at h
      · rename_i small
        exact ⟨n, small, List.mem_singleton.1 h⟩
      · rename_i large
        rcases List.mem_append.1 h with h | h
        · exact ih (n / base) (Nat.div_lt_self (by omega) hbase) h
        · exact ⟨n % base, Nat.mod_lt n (by omega), List.mem_singleton.1 h⟩

theorem exists_of_mem_hex (h : c ∈ Text.hex width n) : ∃ digit < 16, c = digit.digitChar := by
  rcases List.mem_append.1 h with h | h
  · exact ⟨0, by decide, List.eq_of_mem_replicate h⟩
  · exact exists_of_mem_toDigits (by decide) h

theorem length_hex (pos : 0 < width) (h : n < 16 ^ width) : (Text.hex width n).length = width := by
  have := (Nat.length_toDigits_le_iff (by decide) pos).2 h
  simp only [Text.hex, List.length_append, List.length_replicate]
  omega

theorem valueOf_hex : valueOf 16 (Text.hex width n) = n := by
  have zeros (count : Nat) : valueOf 16 (List.replicate count '0') = 0 := by
    induction count with
    | zero => rfl
    | succ count ih =>
        rw [List.replicate_succ', valueOf_append, ih]
        rfl
  rw [Text.hex, valueOf_append, zeros]
  exact valueOf_toDigits n

theorem toNat_lt (c : Char) : c.toNat < 0x110000 := by
  have := c.valid
  simp only [UInt32.isValidChar, Nat.isValidChar] at this
  simp only [Char.toNat]
  omega

/-- The code of a character, written with hexadecimal digits, is read back as the character. -/
theorem charOf?_hex (c : Char) (width : Nat) : charOf? 16 (Text.hex width c.toNat) = some c := by
  have digits : (Text.hex width c.toNat).all (fun d => (digitOf? 16 d).isSome) = true := by
    rw [List.all_eq_true]
    intro d hd
    obtain ⟨digit, small, rfl⟩ := exists_of_mem_hex hd
    rw [digitOf?_digitChar digit small]
    rfl
  rw [charOf?, if_pos digits, valueOf_hex]
  dsimp only
  rw [if_pos (toNat_lt c), Char.ofNat_toNat]

/-! ### Escapes -/

/-- The letters of escapes by code point. -/
theorem escape?_hex {letter : Char} (hletter : letter ∈ ['x', 'u', 'U'])
    (hwidth : escapeWidth false letter = width) (h : c.toNat < 16 ^ width) (rest : Text) :
    escape? false (letter :: Text.hex width c.toNat ++ rest) = some ([c], rest) := by
  obtain ⟨simple, octal, pos⟩ : letter ∉ simpleEscapes.map (·.1)
      ∧ (digitOf? 8 letter).isSome = false ∧ 0 < escapeWidth false letter := by
    simp only [List.mem_cons, List.not_mem_nil, or_false] at hletter
    rcases hletter with rfl | rfl | rfl <;> decide
  rw [hwidth] at pos
  have hlength := length_hex pos h
  rw [List.cons_append, escape?_other simple, octal, hwidth, if_neg Bool.false_ne_true,
    if_neg (by omega), if_neg (by rw [List.length_append, hlength]; omega), List.take_left' hlength,
    List.drop_left' hlength, charOf?_hex, Option.map_some]

theorem literalBody?_escape (hquote : quote ≠ '\\') {found after : Text}
    (h : escape? false s = some (found, after)) (shorter : after.length < s.length) :
    literalBody? false false [quote] ('\\' :: s)
      = (literalBody? false false [quote] after).map fun read => (found ++ read.1, read.2) := by
  rw [literalBody?.eq_def]
  simp [h, shorter, hquote]

theorem literalBody?_plain (hquote : c ≠ quote) (hescape : c ≠ '\\') (hline : c ≠ '\n') :
    literalBody? false false [quote] (c :: rest)
      = (literalBody? false false [quote] rest).map fun read => (c :: read.1, read.2) := by
  rw [literalBody?.eq_def]
  simp [hquote.symm, hescape, hline]

/-- A character of a quoted text is read as that character. The cases are those of the escapes. -/
theorem literalBody?_escapeChar (hquote : quote = '\'' ∨ quote = '"') (c : Char) (rest : Text) :
    literalBody? false false [quote] (Text.escapeChar quote c ++ rest)
      = (literalBody? false false [quote] rest).map fun read => (c :: read.1, read.2) := by
  have hslash : quote ≠ '\\' := by rcases hquote with rfl | rfl <;> decide
  have simple {letter : Char} (h : (letter, [c]) ∈ simpleEscapes) :
      literalBody? false false [quote] ('\\' :: letter :: rest)
        = (literalBody? false false [quote] rest).map fun read => (c :: read.1, read.2) :=
    literalBody?_escape hslash (escape?_simple h rest) (by simp)
  have hex {letter : Char} {width : Nat} (hletter : letter ∈ ['x', 'u', 'U'])
      (hwidth : escapeWidth false letter = width) (h : c.toNat < 16 ^ width) :
      literalBody? false false [quote] ('\\' :: letter :: Text.hex width c.toNat ++ rest)
        = (literalBody? false false [quote] rest).map fun read => (c :: read.1, read.2) :=
    literalBody?_escape hslash (escape?_hex hletter hwidth h rest)
      (by simp only [List.cons_append, List.length_cons, List.length_append]; omega)
  unfold Text.escapeChar
  simp only [Bool.or_eq_true, decide_eq_true_eq]
  -- The cases are those of `escapeChar`: four simple escapes, the character itself, and its code in
  -- two, four or eight digits.
  split_ifs with special feed carriage tab printable small medium
  · refine simple ?_
    rcases special with rfl | rfl
    · rcases hquote with rfl | rfl <;> decide
    · decide
  · subst feed
    exact simple (by decide)
  · subst carriage
    exact simple (by decide)
  · subst tab
    exact simple (by decide)
  · obtain ⟨other, plain⟩ := not_or.1 special
    exact literalBody?_plain other plain feed
  · exact hex (by decide) rfl small
  · exact hex (by decide) rfl medium
  · have := toNat_lt c
    exact hex (by decide) rfl (by omega)

/-- **Reading a quoted text** up to its closing quote gives the text. -/
theorem literalBody?_quoted (hquote : quote = '\'' ∨ quote = '"') (s rest : Text) :
    literalBody? false false [quote] (s.flatMap (Text.escapeChar quote) ++ quote :: rest)
      = some (s, rest) := by
  induction s with
  | nil =>
      rw [List.flatMap_nil, List.nil_append, literalBody?.eq_def]
      simp
  | cons c s ih =>
      rw [List.flatMap_cons, List.append_assoc, literalBody?_escapeChar hquote, ih]
      rfl

end Stencil.Script.Lexeme

namespace Stencil

open Script.Lexeme

namespace Text

variable {c quote : Char} {s t text rest more : Text}

/-- One of two quotes is chosen, so the cases of a literal are two. -/
theorem quoteFor_eq (text : Text) : quoteFor text = '\'' ∨ quoteFor text = '"' := by
  unfold quoteFor
  split
  · exact .inr rfl
  · exact .inl rfl

/-- A quoted text is at most one text, and ends in one place. -/
theorem quoted_append_inj (h : quoted s ++ rest = quoted t ++ more) : s = t ∧ rest = more := by
  simp only [quoted, List.cons_append, List.append_assoc, List.cons.injEq, List.nil_append] at h
  obtain ⟨same, h⟩ := h
  -- Both are read with the quote that stands in front.
  have hs := literalBody?_quoted (quoteFor_eq s) s rest
  rw [h, same, literalBody?_quoted (quoteFor_eq t) t more] at hs
  cases hs
  exact ⟨rfl, rfl⟩

/-! ### Printable characters -/

theorem isPrintable_digitChar : ∀ digit < 16, isPrintable (Nat.digitChar digit) := by
  decide

theorem isPrintable_of_mem_hex {width n : Nat} (h : c ∈ hex width n) : isPrintable c := by
  obtain ⟨digit, small, rfl⟩ := exists_of_mem_hex h
  exact isPrintable_digitChar digit small

theorem isPrintable_of_mem_ofNat {n : Nat} (h : c ∈ ofNat n) : isPrintable c := by
  obtain ⟨digit, small, rfl⟩ := exists_of_mem_toDigits (by decide) h
  exact isPrintable_digitChar digit (by omega)

/-- Whatever a character is, it is written with printable characters. -/
theorem isPrintable_of_mem_escapeChar (hquote : isPrintable quote) {d : Char}
    (h : d ∈ escapeChar quote c) : isPrintable d := by
  have slash : isPrintable '\\' := by decide
  have letter {x : Char} (hx : isPrintable x) (h : d ∈ ['\\', x]) : isPrintable d := by
    rw [List.mem_cons, List.mem_singleton] at h
    rcases h with rfl | rfl
    · exact slash
    · exact hx
  have code {x : Char} {width n : Nat} (hx : isPrintable x) (h : d ∈ '\\' :: x :: hex width n) :
      isPrintable d := by
    rcases List.mem_append.1 (show d ∈ ['\\', x] ++ hex width n from h) with h | h
    · exact letter hx h
    · exact isPrintable_of_mem_hex h
  unfold escapeChar at h
  simp only [Bool.or_eq_true, decide_eq_true_eq] at h
  split_ifs at h with special feed carriage tab printable small medium
  · refine letter ?_ h
    rcases special with rfl | rfl
    · exact hquote
    · exact slash
  · exact letter (by decide) h
  · exact letter (by decide) h
  · exact letter (by decide) h
  · rwa [List.mem_singleton.1 h]
  · exact code (by decide) h
  · exact code (by decide) h
  · exact code (by decide) h

/-- A quoted text shows all of its characters. -/
theorem isPrintable_of_mem_quoted (h : c ∈ quoted text) : isPrintable c := by
  have hquote : isPrintable (quoteFor text) := by
    rcases quoteFor_eq text with heq | heq <;> rw [heq] <;> decide
  simp only [quoted, List.cons_append, List.mem_cons, List.mem_append, List.mem_flatMap,
    List.not_mem_nil, or_false] at h
  rcases h with rfl | ⟨d, -, h⟩ | rfl
  · exact hquote
  · exact isPrintable_of_mem_escapeChar hquote h
  · exact hquote

end Text

/-- The code points of all line ends. -/
def lineEndCodes : List Nat :=
  [10, 11, 12, 13, 28, 29, 30, 0x85, 0x2028, 0x2029]

theorem mem_lineEndCodes {c : Char} (h : isLineEnd c) : c.toNat ∈ lineEndCodes := by
  simp only [isLineEnd, Bool.or_eq_true, Bool.and_eq_true, decide_eq_true_eq, beq_iff_eq] at h
  simp only [lineEndCodes, List.mem_cons, List.not_mem_nil, or_false]
  omega

theorem isPrintable_lineEndCodes :
    ∀ code ∈ lineEndCodes, isPrintable (Char.ofNat code) = false := by
  decide +kernel

/-- No line end is printable, so a quoted text is one line. -/
theorem not_isLineEnd_of_isPrintable {c : Char} (h : isPrintable c) : ¬isLineEnd c := by
  intro ends
  have hprintable := isPrintable_lineEndCodes _ (mem_lineEndCodes ends)
  rw [Char.ofNat_toNat, h] at hprintable
  cases hprintable

end Stencil
