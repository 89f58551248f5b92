import Stencil.Proofs.Script.Lexeme

/-!
# Readings

How a source is cut into lexemes, step by step and without a bound on the number of steps
(`Lexeme.Reads`). A reading may be made with care: then every piece that it takes, and every text
that it joins to a line by a backslash, has to be one that is allowed.

A careful reading is one that the lexer makes (`Lexeme.Reads.scan?_eq`), and without care the two
are the same (`Lexeme.scan?_eq_some_iff`).
-/

namespace Stencil.Script.Lexeme

/-- Is the character a blank within a line? -/
def isSpace (c : Char) : Bool :=
  c = ' ' || c = '\t' || c = '\x0c'

/-- What a careful reading allows. -/
structure Care where
  /-- May a statement begin on a line with this text? -/
  line : Text → Prop
  /-- May a backslash join this text to the line before it? -/
  join : Text → Prop
  /-- May this piece be a lexeme, in front of this text? -/
  piece : Text → Text → Prop

/-- Everything is allowed. -/
def Care.none : Care where
  line _ := True
  join _ := True
  piece _ _ := True

/-- The number of open brackets after a lexeme. -/
def bracketsAfterLexeme? (brackets : Nat) : Lexeme → Option Nat
  | .sign found => bracketsAfter? brackets found
  | _ => some brackets

/-- The lexemes that a text is read as, from a point of the reading on. -/
inductive Reads (care : Care) : Reading → Text → List Lexeme → Prop
  | lastLine {reading : Reading} {blanks : Text} {lexemes : List Lexeme}
      (start : reading.atLineStart) (blank : ∀ c ∈ blanks, isSpace c)
      (finish : finish? reading = some lexemes) : Reads care reading blanks lexemes
  | emptyLine {reading : Reading} {blanks rest : Text} {lexemes : List Lexeme}
      (start : reading.atLineStart) (blank : ∀ c ∈ blanks, isSpace c)
      (more : Reads care reading rest lexemes) : Reads care reading (blanks ++ '\n' :: rest) lexemes
  | commentLine {reading : Reading} {blanks rest : Text} {lexemes : List Lexeme}
      (start : reading.atLineStart) (blank : ∀ c ∈ blanks, isSpace c)
      (more : Reads care reading (afterComment rest) lexemes) :
      Reads care reading (blanks ++ '#' :: rest) lexemes
  | line {blocks inner : List (Nat × Nat)} {brackets : Nat} {blanks rest : Text} {c : Char}
      {marks lexemes : List Lexeme} (blank : ∀ c ∈ blanks, isSpace c)
      (visible : ¬isSpace c) (open_ : c ≠ '\n') (code : c ≠ '#')
      (align : align? (measure 0 0 blanks).1 (measure 0 0 blanks).2.1 blocks = some (marks, inner))
      (few : inner.length ≤ blockLimit) (careful : care.line (blanks ++ c :: rest))
      (more : Reads care ⟨inner, brackets, false⟩ (c :: rest) lexemes) :
      Reads care ⟨blocks, brackets, true⟩ (blanks ++ c :: rest) (marks ++ lexemes)
  | finish {reading : Reading} {lexemes : List Lexeme} (inside : ¬reading.atLineStart)
      (finish : finish? reading = some lexemes) : Reads care reading [] lexemes
  | space {reading : Reading} {c : Char} {rest : Text} {lexemes : List Lexeme}
      (inside : ¬reading.atLineStart) (blank : isSpace c) (more : Reads care reading rest lexemes) :
      Reads care reading (c :: rest) lexemes
  | comment {reading : Reading} {rest : Text} {lexemes : List Lexeme}
      (inside : ¬reading.atLineStart) (more : Reads care reading (afterComment rest) lexemes) :
      Reads care reading ('#' :: rest) lexemes
  | bracketed {reading : Reading} {rest : Text} {lexemes : List Lexeme}
      (inside : ¬reading.atLineStart) (open_ : 0 < reading.brackets)
      (more : Reads care reading rest lexemes) : Reads care reading ('\n' :: rest) lexemes
  | lineEnd {blocks : List (Nat × Nat)} {rest : Text} {lexemes : List Lexeme}
      (more : Reads care ⟨blocks, 0, true⟩ rest lexemes) :
      Reads care ⟨blocks, 0, false⟩ ('\n' :: rest) (.lineEnd :: lexemes)
  | joined {reading : Reading} {rest : Text} {lexemes : List Lexeme}
      (inside : ¬reading.atLineStart) (nonempty : rest ≠ []) (careful : care.join rest)
      (more : Reads care reading rest lexemes) : Reads care reading ('\\' :: '\n' :: rest) lexemes
  | lexeme {blocks : List (Nat × Nat)} {brackets inner : Nat} {text piece rest : Text}
      {lexeme : Lexeme} {lexemes : List Lexeme} (text_eq : text = piece ++ rest)
      (next : next? text = some (lexeme, rest))
      (brackets_eq : bracketsAfterLexeme? brackets lexeme = some inner)
      (careful : care.piece piece rest) (more : Reads care ⟨blocks, inner, false⟩ rest lexemes) :
      Reads care ⟨blocks, brackets, false⟩ text (lexeme :: lexemes)

/-! ### Where a line begins and where a lexeme begins -/

variable {care : Care} {reading : Reading} {blanks text rest : Text} {lexemes : List Lexeme}

theorem isBlank_of_isSpace {c : Char} (h : isSpace c) : isBlank c := by
  simp only [isSpace, Bool.or_eq_true, decide_eq_true_eq] at h
  rcases h with (rfl | rfl) | rfl <;> decide

/-- How far a line is set in is measured up to the first character that is no space. -/
theorem measure_append {wide narrow : Nat} (blank : ∀ c ∈ blanks, isSpace c)
    (hrest : ∀ c ∈ rest.head?, ¬isSpace c) :
    measure wide narrow (blanks ++ rest) =
      ((measure wide narrow blanks).1, (measure wide narrow blanks).2.1, rest) := by
  induction blanks generalizing wide narrow with
  | nil =>
      rw [List.nil_append]
      cases rest with
      | nil => rfl
      | cons c rest =>
          have hc : ¬isSpace c := hrest c rfl
          simp only [isSpace, Bool.or_eq_true, decide_eq_true_eq, not_or] at hc
          simp [measure, hc]
  | cons c blanks ih =>
      obtain ⟨hc, hblanks⟩ := List.forall_mem_cons.1 blank
      simp only [isSpace, Bool.or_eq_true, decide_eq_true_eq] at hc
      rcases hc with (rfl | rfl) | rfl
      · exact ih hblanks
      · exact ih hblanks
      · exact ih hblanks

/-- The characters that the lexer looks at before it looks for a lexeme. -/
def isOutside (c : Char) : Bool :=
  isBlank c || c = '#' || c = '\\'

theorem signs_outside : ∀ sign ∈ signs, sign.toList.head?.isSome
    ∧ sign.toList.head? ≠ some '#' ∧ sign.toList.head? ≠ some '\\' := by
  decide

theorem sign?_eq_none {c : Char} (h : c = '#' ∨ c = '\\') (rest : Text) :
    sign? (c :: rest) = none := by
  have hfind : signs.find? (fun known => known.toList.isPrefixOf (c :: rest)) = none := by
    rw [List.find?_eq_none]
    intro sign hsign
    obtain ⟨visible, hash, backslash⟩ := signs_outside sign hsign
    obtain ⟨d, hd⟩ := Option.isSome_iff_exists.1 visible
    rw [hd] at hash backslash
    obtain ⟨more, hmore⟩ := List.head?_eq_some_iff.1 hd
    rw [hmore, List.isPrefixOf_iff_prefix, List.cons_prefix_cons]
    rintro ⟨rfl, -⟩
    rcases h with rfl | rfl
    · exact hash rfl
    · exact backslash rfl
  rw [sign?, hfind, Option.map_none]

/-- No lexeme begins with a character that is looked at before. -/
theorem not_isOutside_of_next? {lexeme : Lexeme} (h : next? text = some (lexeme, rest)) :
    ∀ c ∈ text.head?, ¬isOutside c := by
  intro c hc outside
  obtain ⟨p, firm, rfl, -⟩ := exists_next h
  obtain ⟨x, p, rfl⟩ := List.exists_cons_of_ne_nil firm.ne_nil
  obtain rfl : x = c := Option.some.inj hc
  rw [isOutside, Bool.or_assoc, Bool.or_eq_true] at outside
  rcases outside with blank | other
  · exact firm.first x rfl blank
  · have hother : x = '#' ∨ x = '\\' := by simpa using other
    have hsign := sign?_eq_none hother (p ++ rest)
    have hkind : ¬beginsNumber (x :: (p ++ rest)) ∧ ¬beginsWord x ∧ ¬isQuote x := by
      rw [beginsNumber_cons]
      rcases hother with rfl | rfl
      · exact ⟨by simp [Char.isDigit], by decide, by decide⟩
      · exact ⟨by simp [Char.isDigit], by decide, by decide⟩
    rw [List.cons_append, next?_cons, if_neg hkind.1, if_neg hkind.2.1, if_neg hkind.2.2,
      signLexeme?, hsign] at h
    cases h

/-- Every lexeme uses up some text, which bounds the number of steps of the lexer. -/
theorem length_lt_of_next? {lexeme : Lexeme} (h : next? text = some (lexeme, rest)) :
    rest.length < text.length := by
  obtain ⟨p, firm, rfl, -⟩ := exists_next h
  have := List.length_pos_iff.2 firm.ne_nil
  rw [List.length_append]
  omega

/-! ### The lexer makes careful readings -/

/-- A number of steps that is enough to read a text. -/
def cost (reading : Reading) (text : Text) : Nat :=
  2 * text.length + (if reading.atLineStart then 2 else 1)

theorem exists_succ_of_cost_le {limit : Nat} (h : cost reading text ≤ limit) :
    ∃ n, limit = n + 1 := by
  refine Nat.exists_eq_add_one.2 ?_
  simp only [cost] at h
  split at h <;> omega

/-- A step that takes a character is paid for, wherever the reading stands after it. -/
theorem cost_le_of_length_lt {after : Reading} {limit : Nat}
    (hlimit : cost reading text ≤ limit + 1) (shorter : rest.length < text.length) :
    cost after rest ≤ limit := by
  have hbefore : 2 * text.length + 1 ≤ cost reading text := by
    rw [cost]
    split <;> omega
  have hafter : cost after rest ≤ 2 * rest.length + 2 := by
    rw [cost]
    split <;> omega
  omega

theorem length_afterComment (text : Text) : (afterComment text).length ≤ text.length :=
  (List.dropWhile_sublist _).length_le

/-- **What is read as a relation, the lexer finds**, given enough steps. The induction is on the
reading; each case pays for one step of the lexer with `cost`. -/
theorem Reads.scan?_eq (h : Reads care reading text lexemes) {limit : Nat}
    (hlimit : cost reading text ≤ limit) : scan? limit reading text = some lexemes := by
  induction h generalizing limit with
  | @lastLine reading blanks lexemes start blank finish =>
      obtain ⟨limit, rfl⟩ := exists_succ_of_cost_le hlimit
      have hmeasure : measure 0 0 (blanks ++ []) = _ := measure_append blank (by simp)
      rw [List.append_nil] at hmeasure
      rw [scan?.eq_def]
      dsimp only
      rw [if_pos start, hmeasure]
      exact finish
  | @emptyLine reading blanks rest lexemes start blank more ih =>
      obtain ⟨limit, rfl⟩ := exists_succ_of_cost_le hlimit
      rw [scan?.eq_def]
      dsimp only
      rw [if_pos start, measure_append blank (by simp [isSpace])]
      refine ih (cost_le_of_length_lt hlimit ?_)
      rw [List.length_append, List.length_cons]
      omega
  | @commentLine reading blanks rest lexemes start blank more ih =>
      obtain ⟨limit, rfl⟩ := exists_succ_of_cost_le hlimit
      rw [scan?.eq_def]
      dsimp only
      rw [if_pos start, measure_append blank (by simp [isSpace])]
      refine ih (cost_le_of_length_lt hlimit ?_)
      have := length_afterComment rest
      rw [List.length_append, List.length_cons]
      omega
  -- The start of a statement is the one step that uses up no text: the lexer comes back to the same
  -- line, inside of it now, which is why `cost` counts a line start too.
  | @line blocks inner brackets blanks rest c marks lexemes blank visible open_ code align few careful
      more ih =>
      obtain ⟨limit, rfl⟩ := exists_succ_of_cost_le hlimit
      have hlimit : 2 * (blanks ++ c :: rest).length + 2 ≤ limit + 1 := hlimit
      have hmore : scan? limit ⟨inner, brackets, false⟩ (c :: rest) = some lexemes := by
        refine ih ?_
        show 2 * (c :: rest).length + 1 ≤ limit
        rw [List.length_append] at hlimit
        omega
      rw [scan?.eq_def]
      dsimp only
      rw [if_pos rfl, measure_append blank (by simpa using visible)]
      dsimp only
      split
      · rename_i heq
        cases heq
      · rename_i heq
        exact absurd (List.cons.inj heq).1 open_
      · rename_i heq
        exact absurd (List.cons.inj heq).1 code
      · rw [align, Option.bind_eq_bind, Option.bind_some]
        dsimp only
        rw [if_neg (Nat.not_lt.2 few), hmore]
        rfl
  | @finish reading lexemes inside finish =>
      obtain ⟨limit, rfl⟩ := exists_succ_of_cost_le hlimit
      rw [scan?.eq_def]
      dsimp only
      rw [if_neg inside]
      exact finish
  | @space reading c rest lexemes inside blank more ih =>
      obtain ⟨limit, rfl⟩ := exists_succ_of_cost_le hlimit
      have hmore := ih (cost_le_of_length_lt hlimit (Nat.lt_succ_self rest.length))
      rw [scan?.eq_def]
      dsimp only
      rw [if_neg inside]
      simp only [isSpace, Bool.or_eq_true, decide_eq_true_eq] at blank
      rcases blank with (rfl | rfl) | rfl <;> exact hmore
  | @comment reading rest lexemes inside more ih =>
      obtain ⟨limit, rfl⟩ := exists_succ_of_cost_le hlimit
      rw [scan?.eq_def]
      dsimp only
      rw [if_neg inside]
      exact ih (cost_le_of_length_lt hlimit (Nat.lt_succ_of_le (length_afterComment rest)))
  | @bracketed reading rest lexemes inside open_ more ih =>
      obtain ⟨limit, rfl⟩ := exists_succ_of_cost_le hlimit
      have hmore := ih (cost_le_of_length_lt hlimit (Nat.lt_succ_self rest.length))
      rw [scan?.eq_def]
      dsimp only
      rw [if_neg inside]
      show (if 0 < reading.brackets then scan? limit reading rest else _) = some lexemes
      rw [if_pos open_, hmore]
  | @lineEnd blocks rest lexemes more ih =>
      obtain ⟨limit, rfl⟩ := exists_succ_of_cost_le hlimit
      have hmore := ih (cost_le_of_length_lt hlimit (Nat.lt_succ_self rest.length))
      rw [scan?.eq_def]
      dsimp only
      rw [if_neg Bool.false_ne_true]
      show (scan? limit ⟨blocks, 0, true⟩ rest).bind (fun more => some (.lineEnd :: more)) = _
      rw [hmore, Option.bind_some]
  | @joined reading rest lexemes inside nonempty careful more ih =>
      obtain ⟨limit, rfl⟩ := exists_succ_of_cost_le hlimit
      have hmore := ih (cost_le_of_length_lt hlimit (Nat.lt_add_of_pos_right Nat.two_pos))
      obtain ⟨c, rest, rfl⟩ := List.exists_cons_of_ne_nil nonempty
      rw [scan?.eq_def]
      dsimp only
      rw [if_neg inside]
      exact hmore
  -- The lexer asks for spaces, comments, line ends and backslashes first. None of them begins a
  -- lexeme.
  | @lexeme blocks brackets inner text piece rest lexeme lexemes text_eq next brackets_eq careful more
      ih =>
      obtain ⟨limit, rfl⟩ := exists_succ_of_cost_le hlimit
      have hmore := ih (cost_le_of_length_lt hlimit (length_lt_of_next? next))
      have houtside {c : Char} {more : Text} (h : text = c :: more) : isOutside c = false := by
        have := not_isOutside_of_next? next c (by rw [h]; rfl)
        simpa using this
      rw [scan?.eq_def]
      dsimp only
      rw [if_neg Bool.false_ne_true]
      split
      · cases next
      · cases houtside rfl
      · cases houtside rfl
      · cases houtside rfl
      · cases houtside rfl
      · cases houtside rfl
      · cases houtside rfl
      · cases houtside rfl
      · rw [next, Option.bind_eq_bind, Option.bind_some]
        cases lexeme <;> simp only [bracketsAfterLexeme?, Option.some.injEq] at brackets_eq <;>
          simp [brackets_eq, hmore]

theorem exists_spaces (text : Text) :
    ∃ blanks rest, text = blanks ++ rest ∧ (∀ c ∈ blanks, isSpace c)
      ∧ ∀ c ∈ rest.head?, ¬isSpace c :=
  have leads : Text.Leads isSpace text _ _ := Text.leads_takeWhile
  ⟨_, _, leads.text_eq, leads.all, leads.longest⟩

/-- **What the lexer finds is read as a relation.** The induction is on the number of steps, and the
cases are those of the lexer. -/
theorem reads_of_scan? {limit : Nat} (h : scan? limit reading text = some lexemes) :
    Reads .none reading text lexemes := by
  induction limit generalizing reading text lexemes with
  | zero => cases h
  | succ limit ih =>
      obtain ⟨blocks, brackets, atLineStart⟩ := reading
      rw [scan?.eq_def] at h
      dsimp only at h
      cases atLineStart with
      | true =>
          obtain ⟨blanks, rest, rfl, blank, hrest⟩ := exists_spaces text
          rw [if_pos rfl, measure_append blank hrest] at h
          dsimp only at h
          split at h
          · rw [List.append_nil]
            exact .lastLine rfl blank h
          · exact .emptyLine rfl blank (ih h)
          · exact .commentLine rfl blank (ih h)
          · rename_i nonempty open_ code
            obtain ⟨c, rest, rfl⟩ := List.exists_cons_of_ne_nil nonempty
            obtain ⟨⟨marks, inner⟩, align, h⟩ := Option.bind_eq_some_iff.1 h
            obtain ⟨few, h⟩ := Option.ite_none_left_eq_some.1 h
            obtain ⟨more, hmore, h⟩ := Option.bind_eq_some_iff.1 h
            cases h
            refine .line blank (hrest c rfl) ?_ ?_ align (Nat.not_lt.1 few) trivial (ih hmore)
            · rintro rfl
              exact open_ _ rfl
            · rintro rfl
              exact code _ rfl
      | false =>
          rw [if_neg Bool.false_ne_true] at h
          split at h
          · exact .finish Bool.false_ne_true h
          · exact .space Bool.false_ne_true rfl (ih h)
          · exact .space Bool.false_ne_true rfl (ih h)
          · exact .space Bool.false_ne_true rfl (ih h)
          · exact .comment Bool.false_ne_true (ih h)
          · split at h
            · rename_i open_
              exact .bracketed Bool.false_ne_true open_ (ih h)
            · rename_i closed
              obtain rfl : brackets = 0 := Nat.eq_zero_of_not_pos closed
              obtain ⟨more, hmore, h⟩ := Option.bind_eq_some_iff.1 h
              cases h
              exact .lineEnd (ih hmore)
          · cases h
          · rename_i nonempty
            exact .joined Bool.false_ne_true nonempty trivial (ih h)
          · obtain ⟨⟨lexeme, rest⟩, hnext, h⟩ := Option.bind_eq_some_iff.1 h
            -- `Reads` names the piece of text that a lexeme is read from, where the lexer only has
            -- the rest.
            obtain ⟨p, -, rfl, -⟩ := exists_next hnext
            have hinner : ∃ inner, bracketsAfterLexeme? brackets lexeme = some inner
                ∧ ∃ more, scan? limit ⟨blocks, inner, false⟩ rest = some more
                  ∧ lexeme :: more = lexemes := by
              cases lexeme <;> simpa [bracketsAfterLexeme?, Option.bind_eq_some_iff] using h
            obtain ⟨inner, brackets_eq, more, hmore, rfl⟩ := hinner
            exact .lexeme rfl hnext brackets_eq trivial (ih hmore)

/-- **Readings are what the lexer makes**, if it has enough steps. -/
theorem scan?_eq_some_iff {limit : Nat} (hlimit : cost reading text ≤ limit) :
    scan? limit reading text = some lexemes ↔ Reads .none reading text lexemes :=
  ⟨reads_of_scan?, fun h => h.scan?_eq hlimit⟩

theorem ofSource?_eq_some_iff : ofSource? text = some lexemes ↔ Reads .none {} text lexemes :=
  scan?_eq_some_iff (by show 2 * text.length + 2 ≤ 2 * text.length + 4; omega)

end Stencil.Script.Lexeme
