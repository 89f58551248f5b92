import Mathlib.Data.List.Find
import Stencil.Proofs.Script.Number
import Stencil.Proofs.Text.Trim

/-!
# What a lexeme takes

Every lexeme is a piece at the front of a text, and it is read again wherever the piece is followed
by a text that agrees with the old one up to a blank (`Lexeme.exists_next`). A literal may hold
blanks and even line ends, but its first and its last character are no blanks.
-/

namespace Stencil.Script.Lexeme

variable {c : Char} {s t text rest : Text}

/-! ### Text literals -/

/-- The escapes that stand for one character and are one character long. -/
def simpleEscapes : List (Char × Text) :=
  [('\n', []), ('\\', ['\\']), ('\'', ['\'']), ('"', ['"']), ('a', ['\x07']), ('b', ['\x08']),
    ('f', ['\x0c']), ('n', ['\n']), ('r', ['\r']), ('t', ['\t']), ('v', ['\x0b'])]

theorem escape?_simple {isBytes : Bool} {found : Text} (h : (c, found) ∈ simpleEscapes)
    (rest : Text) : escape? isBytes (c :: rest) = some (found, rest) := by
  simp only [simpleEscapes, List.mem_cons, Prod.mk.injEq, List.not_mem_nil, or_false] at h
  rcases h with ⟨rfl, rfl⟩ | ⟨rfl, rfl⟩ | ⟨rfl, rfl⟩ | ⟨rfl, rfl⟩ | ⟨rfl, rfl⟩ | ⟨rfl, rfl⟩ |
    ⟨rfl, rfl⟩ | ⟨rfl, rfl⟩ | ⟨rfl, rfl⟩ | ⟨rfl, rfl⟩ | ⟨rfl, rfl⟩ <;> rfl

/-- The number of digits behind the letter of an escape. -/
def escapeWidth (isBytes : Bool) (c : Char) : Nat :=
  if c = 'x' then 2 else if isBytes then 0 else if c = 'u' then 4 else if c = 'U' then 8 else 0

/-- An escape that is none of the simple ones goes by its first character. -/
theorem escape?_other {isBytes : Bool} (simple : c ∉ simpleEscapes.map (·.1)) (rest : Text) :
    escape? isBytes (c :: rest) =
      if (digitOf? 8 c).isSome then
        let found := (c :: rest.take 2).takeWhile fun d => (digitOf? 8 d).isSome
        some ([Char.ofNat (if isBytes then valueOf 8 found % 256 else valueOf 8 found)],
          (c :: rest).drop found.length)
      else if escapeWidth isBytes c = 0 then
        if c = 'N' && !isBytes then none else some (['\\', c], rest)
      else if rest.length < escapeWidth isBytes c then none
      else (charOf? 16 (rest.take (escapeWidth isBytes c))).map fun found =>
        ([found], rest.drop (escapeWidth isBytes c)) := by
  simp only [simpleEscapes, List.map_cons, List.map_nil, List.mem_cons, List.not_mem_nil, or_false,
    not_or] at simple
  simp [escape?, simple, escapeWidth]
  rfl

/-- The leading characters of a class, a limited number of them, are found again in front of a text
with the same next character. -/
theorem takeWhile_take {p : Char → Bool} {limit : Nat} {s t : Text}
    (h : t.head? = (s.drop ((s.take limit).takeWhile p).length).head?) :
    (((s.take limit).takeWhile p ++ t).take limit).takeWhile p = (s.take limit).takeWhile p := by
  induction s generalizing limit with
  | nil =>
      have : t = [] := by simpa using h
      simp [this]
  | cons x s ih =>
      cases limit with
      | zero => rfl
      | succ limit =>
          cases hx : p x with
          | true =>
              simp only [List.take_succ_cons, List.takeWhile_cons_of_pos hx, List.length_cons,
                List.drop_succ_cons, List.cons_append] at h ⊢
              rw [ih h]
          | false =>
              have hx : ¬p x := by simp [hx]
              simp only [List.take_succ_cons, List.takeWhile_cons_of_neg hx, List.length_nil,
                List.drop_zero, List.nil_append, List.head?_cons] at h ⊢
              obtain ⟨t, rfl⟩ := List.head?_eq_some_iff.1 h
              rw [List.take_succ_cons, List.takeWhile_cons_of_neg hx]

/-- The octal digits in front of a text, at most three of them. -/
def octals (text : Text) : Text :=
  (text.take 3).takeWhile fun d => (digitOf? 8 d).isSome

theorem octals_prefix : octals text <+: text :=
  (List.takeWhile_prefix _).trans (List.take_prefix 3 text)

/-- An escape is read again in front of a text with the same next character. -/
theorem exists_escape {isBytes : Bool} {found after : Text}
    (h : escape? isBytes text = some (found, after)) :
    ∃ p, text = p ++ after
      ∧ ∀ t, t.head? = after.head? → escape? isBytes (p ++ t) = some (found, t) := by
  cases text with
  | nil => simp [escape?] at h
  | cons c rest =>
      by_cases simple : c ∈ simpleEscapes.map (·.1)
      · obtain ⟨⟨c, x⟩, hx, rfl⟩ := List.mem_map.1 simple
        rw [escape?_simple hx] at h
        cases h
        exact ⟨[c], rfl, fun t _ => escape?_simple hx t⟩
      · rw [escape?_other simple] at h
        split at h
        · rename_i octal
          obtain ⟨rfl, rfl⟩ := Prod.mk.inj (Option.some.inj h)
          refine ⟨octals (c :: rest), (List.prefix_iff_eq_append.1 octals_prefix).symm, fun t ht => ?_⟩
          -- An octal escape takes up to three digits, so how many it takes may depend on the next
          -- character; that is why the texts behind have to begin alike.
          have again : octals (octals (c :: rest) ++ t) = octals (c :: rest) := takeWhile_take ht
          have hcons : octals (c :: rest) = c :: (octals (c :: rest)).tail := by
            simp [octals, octal]
          rw [hcons, List.cons_append, escape?_other simple, if_pos octal]
          show some ([Char.ofNat (if isBytes then valueOf 8 (octals (c :: (_ ++ t))) % 256
            else valueOf 8 (octals (c :: (_ ++ t))))],
            (c :: (_ ++ t)).drop (octals (c :: (_ ++ t))).length) = _
          rw [← List.cons_append, ← hcons, again, List.drop_left]
          rfl
        · rename_i octal
          split at h
          · rename_i narrow
            rw [Option.ite_none_left_eq_some, Option.some.injEq, Prod.mk.injEq] at h
            obtain ⟨unnamed, rfl, rfl⟩ := h
            refine ⟨[c], rfl, fun t _ => ?_⟩
            rw [List.singleton_append, escape?_other simple, if_neg octal, if_pos narrow,
              if_neg unnamed]
          · rename_i wide
            rw [Option.ite_none_left_eq_some, Option.map_eq_some_iff] at h
            obtain ⟨long, x, hx, heq⟩ := h
            cases heq
            refine ⟨c :: rest.take (escapeWidth isBytes c), ?_, fun t _ => ?_⟩
            · rw [List.cons_append, List.take_append_drop]
            · have hlength : (rest.take (escapeWidth isBytes c)).length = escapeWidth isBytes c :=
                List.length_take_of_le (by omega)
              rw [List.cons_append, escape?_other simple, if_neg octal, if_neg wide,
                if_neg (by rw [List.length_append, hlength]; omega), List.take_left' hlength,
                List.drop_left' hlength, hx, Option.map_some]

/-- Quotes that begin a literal: one of them, or three of a kind. -/
def IsQuotes (quotes : Text) : Prop :=
  ∃ c, (c = '\'' ∨ c = '"') ∧ (quotes = [c] ∨ quotes = [c, c, c])

theorem IsQuotes.not_isBlank {quotes : Text} (h : IsQuotes quotes) :
    quotes ≠ [] ∧ ∀ c ∈ quotes, ¬isBlank c := by
  obtain ⟨c, hc, hquotes⟩ := h
  have solid : ¬isBlank c := by rcases hc with rfl | rfl <;> decide
  rcases hquotes with rfl | rfl <;> simp [solid]

/-- Whether a text begins with a mark is seen within the length of the mark. -/
theorem isPrefixOf_append {mark p : Text} (h : mark.length ≤ p.length) (s t : Text) :
    mark.isPrefixOf (p ++ s) = mark.isPrefixOf (p ++ t) := by
  induction mark generalizing p with
  | nil => rw [List.isPrefixOf_nil_left, List.isPrefixOf_nil_left]
  | cons m mark ih =>
      cases p with
      | nil => simp at h
      | cons c p =>
          have hle : mark.length ≤ p.length := by simpa using h
          simp only [List.cons_append, List.isPrefixOf, ih hle]

/-- Whether the quotes begin in front of a piece that ends in them is decided within the piece. -/
theorem not_isPrefixOf_append {quotes p x : Text} (hp : quotes <:+ p)
    (h : ¬quotes.isPrefixOf (x ++ p ++ s)) (t : Text) : ¬quotes.isPrefixOf (x ++ p ++ t) := by
  have hlength : quotes.length ≤ (x ++ p).length := by
    have := hp.length_le
    rw [List.length_append]
    omega
  rwa [isPrefixOf_append hlength t s]

/-- The rest of a literal ends in its quotes, and is read again in front of any text. -/
theorem exists_literalBody {isRaw isBytes : Bool} {quotes body : Text} (hquotes : IsQuotes quotes)
    (h : literalBody? isRaw isBytes quotes text = some (body, rest)) :
    ∃ p, text = p ++ rest ∧ quotes <:+ p
      ∧ ∀ t, literalBody? isRaw isBytes quotes (p ++ t) = some (body, t) := by
  fun_induction literalBody? isRaw isBytes quotes text generalizing body rest with
  | case1 => cases h
  | case2 c r close =>
      cases h
      refine ⟨quotes, ?_, List.suffix_refl _, fun t => ?_⟩
      · exact (List.prefix_iff_eq_append.1 (List.isPrefixOf_iff_prefix.1 close)).symm
      -- The literal ends here, whatever comes behind its quotes.
      · obtain ⟨q, more, rfl⟩ := List.exists_cons_of_ne_nil hquotes.not_isBlank.1
        have close : (q :: more).isPrefixOf (q :: (more ++ t)) :=
          List.isPrefixOf_iff_prefix.2 (List.prefix_append (q :: more) t)
        show literalBody? _ _ _ (q :: (more ++ t)) = _
        unfold literalBody?
        rw [if_pos close]
        show some ([], ((q :: more) ++ t).drop (q :: more).length) = _
        rw [List.drop_left]
  | case3 => cases h
  | case4 raw d after hopen ih =>
      obtain ⟨⟨found, last⟩, hbody, heq⟩ := Option.map_eq_some_iff.1 h
      cases heq
      obtain ⟨p, rfl, hp, again⟩ := ih hbody
      refine ⟨'\\' :: d :: p, rfl, hp.trans (List.suffix_append ['\\', d] p), fun t => ?_⟩
      have hopen : ¬quotes.isPrefixOf ('\\' :: d :: (p ++ t)) :=
        not_isPrefixOf_append (x := ['\\', d]) hp hopen t
      show literalBody? _ _ _ ('\\' :: d :: (p ++ t)) = _
      unfold literalBody?
      rw [if_neg hopen, if_pos rfl, if_pos raw]
      simp only [again, Option.map_some]
  | case5 => cases h
  | case6 r raw found after hescape hlength hopen ih =>
      obtain ⟨⟨more, last⟩, hbody, heq⟩ := Option.map_eq_some_iff.1 h
      cases heq
      obtain ⟨p, rfl, hp, again⟩ := ih hbody
      obtain ⟨x, rfl, hx⟩ := exists_escape hescape
      refine ⟨'\\' :: (x ++ p), by simp, ?_, fun t => ?_⟩
      · exact hp.trans (List.suffix_append ('\\' :: x) p)
      · rw [← List.append_assoc, ← List.cons_append, ← List.cons_append] at hopen
        have hopen : ¬quotes.isPrefixOf ('\\' :: (x ++ p) ++ t) :=
          not_isPrefixOf_append (x := '\\' :: x) hp hopen t
        -- An escape may look at the character behind it, which is still one of the literal: the
        -- closing quotes are part of `p`.
        have hhead : (p ++ t).head? = (p ++ rest).head? := by
          have nonempty : p ≠ [] := fun hnil => hquotes.not_isBlank.1 (by
            rw [hnil] at hp
            exact List.suffix_nil.1 hp)
          obtain ⟨c, p, rfl⟩ := List.exists_cons_of_ne_nil nonempty
          rfl
        have hescape := hx (p ++ t) hhead
        have hlength : (p ++ t).length < (x ++ (p ++ t)).length := by
          simp only [List.length_append] at hlength ⊢
          omega
        rw [List.cons_append, List.append_assoc] at hopen ⊢
        unfold literalBody?
        rw [if_neg hopen, if_pos rfl, if_neg raw]
        simp only [hescape, if_pos hlength, again, Option.map_some]
  | case7 => cases h
  | case8 => cases h
  | case9 => cases h
  | case10 c r hopen plain newline narrow ih =>
      obtain ⟨⟨found, last⟩, hbody, heq⟩ := Option.map_eq_some_iff.1 h
      cases heq
      obtain ⟨p, rfl, hp, again⟩ := ih hbody
      refine ⟨c :: p, rfl, hp.trans (List.suffix_cons c p), fun t => ?_⟩
      have hopen : ¬quotes.isPrefixOf (c :: (p ++ t)) :=
        not_isPrefixOf_append (x := [c]) hp hopen t
      show literalBody? _ _ _ (c :: (p ++ t)) = _
      unfold literalBody?
      rw [if_neg hopen, if_neg plain, if_neg newline, if_neg narrow, again,
        Option.map_some]

/-- A piece that begins and ends with characters that are no blanks. -/
structure Firm (p : Text) : Prop where
  ne_nil : p ≠ []
  first : ∀ c ∈ p.head?, ¬isBlank c
  last : ∀ c ∈ p.getLast?, ¬isBlank c

theorem firm_of_solid {p : Text} (hp : p ≠ []) (solid : ∀ c ∈ p, ¬isBlank c) : Firm p where
  ne_nil := hp
  first c hc := solid c (List.mem_of_mem_head? hc)
  last c hc := solid c (List.mem_of_mem_getLast? hc)

/-- More characters in front keep a piece firm, if the first of them is no blank. -/
theorem Firm.append_left {p q : Text} (hp : ∀ c ∈ p.head?, ¬isBlank c) (hq : Firm q) :
    Firm (p ++ q) where
  ne_nil h := hq.ne_nil (List.append_eq_nil_iff.1 h).2
  first c hc := by
    cases p with
    | nil => exact hq.first c hc
    | cons x p => exact hp c hc
  last c hc := by
    have hlast : (p ++ q).getLast? = q.getLast? := by
      rw [List.getLast?_append, List.getLast?_eq_some_getLast hq.ne_nil]
      rfl
    exact hq.last c (hlast ▸ hc)

/-- Is the character a quote? -/
def isQuote (c : Char) : Bool :=
  c = '\'' || c = '"'

theorem isQuote_of_isBlank (c : Char) (h : isBlank c) : isQuote c = false := by
  cases hc : isQuote c with
  | false => rfl
  | true =>
      rcases Bool.or_eq_true _ _ ▸ hc with hc | hc <;>
        exact absurd (of_decide_eq_true hc ▸ h) (by decide)

theorem isSome_openingQuotes? : (openingQuotes? text).isSome = text.head?.any isQuote := by
  cases text with
  | nil => rfl
  | cons c rest =>
      simp only [openingQuotes?, List.head?_cons, Option.any_some, isQuote]
      cases (c = '\'' || c = '"' : Bool) with
      | false => rfl
      | true =>
          rw [if_pos rfl]
          split <;> rfl

/-- The quotes of a literal are read again if what follows them agrees. -/
theorem openingQuotes?_eq_some {quotes : Text} (h : openingQuotes? text = some quotes) :
    IsQuotes quotes ∧ ∃ r, text = quotes ++ r
      ∧ ∀ t, Agree r t → openingQuotes? (quotes ++ t) = some quotes := by
  cases text with
  | nil => simp [openingQuotes?] at h
  | cons c r =>
      by_cases hc : (c = '\'' || c = '"') = true
      · have hquote : c = '\'' ∨ c = '"' := by simpa using hc
        have hblank : ¬isBlank c := by rcases hquote with rfl | rfl <;> decide
        cases three : [c, c].isPrefixOf r with
        | true =>
            simp only [openingQuotes?, if_pos hc, if_pos three, Option.some.injEq] at h
            obtain ⟨r, rfl⟩ := List.isPrefixOf_iff_prefix.1 three
            subst h
            refine ⟨⟨c, hquote, .inr rfl⟩, r, rfl, fun t _ => ?_⟩
            have again : [c, c].isPrefixOf (c :: c :: t) :=
              List.isPrefixOf_iff_prefix.2 ⟨t, rfl⟩
            show openingQuotes? (c :: c :: c :: t) = _
            simp only [openingQuotes?, if_pos hc, if_pos again]
        | false =>
            have one : ¬[c, c].isPrefixOf r := by rw [three]; decide
            simp only [openingQuotes?, if_pos hc, if_neg one, Option.some.injEq] at h
            subst h
            refine ⟨⟨c, hquote, .inl rfl⟩, r, rfl, fun t ht => ?_⟩
            have again : ¬[c, c].isPrefixOf t := by
              rwa [ht.isPrefixOf (by simpa using hblank)]
            show openingQuotes? (c :: t) = _
            simp only [openingQuotes?, if_pos hc, if_neg again]
      · simp [openingQuotes?, hc] at h

/-- A literal is read again in front of a text that agrees with what follows it. -/
theorem exists_literal {letters : Text} {lexeme : Lexeme}
    (h : literal? letters text = some (lexeme, rest)) :
    ∃ p, Firm p ∧ p.head?.any isQuote ∧ text = p ++ rest
      ∧ ∀ t, Agree rest t → literal? letters (p ++ t) = some (lexeme, t) := by
  unfold literal? at h
  simp only [Option.bind_eq_bind, Option.bind_eq_some_iff] at h
  obtain ⟨quotes, hopen, ⟨body, last⟩, hbody, h⟩ := h
  obtain ⟨hquotes, r, rfl, hagain⟩ := openingQuotes?_eq_some hopen
  rw [List.drop_left] at hbody
  obtain ⟨p, rfl, hp, again⟩ := exists_literalBody hquotes hbody
  obtain rfl : last = rest := by
    split at h <;> exact (Prod.mk.inj (Option.some.inj h)).2
  obtain ⟨nonempty, solid⟩ := hquotes.not_isBlank
  -- A literal begins and ends with its quotes, so blanks inside of it do not matter.
  have hfirm : Firm (quotes ++ p) := by
    obtain ⟨x, rfl⟩ := hp
    refine ⟨by simp [nonempty], fun c hc => ?_, fun c hc => ?_⟩
    · obtain ⟨q, more, rfl⟩ := List.exists_cons_of_ne_nil nonempty
      exact solid c (List.mem_of_mem_head? hc)
    · rw [← List.append_assoc, List.getLast?_append, List.getLast?_eq_some_getLast nonempty] at hc
      obtain rfl : quotes.getLast nonempty = c := Option.some.inj hc
      exact solid _ (List.getLast_mem nonempty)
  refine ⟨quotes ++ p, hfirm, ?_, by simp, fun t ht => ?_⟩
  · obtain ⟨c, rfl | rfl, rfl | rfl⟩ := hquotes <;> rfl
  · unfold literal?
    rw [List.append_assoc, hagain _ (ht.append p)]
    simp only [Option.bind_eq_bind, Option.bind_some, List.drop_left, again]
    split at h
    all_goals
      rename_i isBytes
      cases h
      simp [isBytes]

/-! ### Signs -/

/-- A sign is read again in front of a text that agrees with what follows it. -/
theorem exists_sign {found : Text} (h : sign? text = some (found, rest)) :
    Firm found ∧ text = found ++ rest ∧ ∀ t, Agree rest t → sign? (found ++ t) = some (found, t) := by
  obtain ⟨known, hfind, heq⟩ := Option.map_eq_some_iff.1 h
  obtain ⟨rfl, rfl⟩ := Prod.mk.inj heq
  have hmem : known ∈ signs := List.mem_of_find?_eq_some hfind
  have hprefix := List.find?_some hfind
  have htext : text = known.toList ++ text.drop known.length := by
    have := List.prefix_iff_eq_append.1 (List.isPrefixOf_iff_prefix.1 hprefix)
    exact this.symm
  have solid {sign : String} (hsign : sign ∈ signs) : ∀ c ∈ sign.toList, ¬isBlank c :=
    fun c hc blank => not_mem_sign_of_isBlank blank hsign hc
  have nonempty : ∀ sign ∈ signs, sign.toList ≠ [] := by decide
  refine ⟨firm_of_solid (nonempty known hmem) (solid hmem), htext, fun t ht => ?_⟩
  have hagree : Agree text (known.toList ++ t) := by
    have := ht.append known.toList
    rwa [← htext] at this
  have hsame : signs.find? (fun sign => sign.toList.isPrefixOf (known.toList ++ t)) = some known := by
    rw [← hfind]
    exact List.find?_congr fun sign hsign => hagree.isPrefixOf (solid hsign)
  unfold sign?
  rw [hsame, Option.map_some, ← String.length_toList, List.drop_left]

/-! ### Lexemes -/

/-- Does a number begin here? -/
def beginsNumber (text : Text) : Bool :=
  text.head?.any fun c => c.isDigit || (c = '.' && (text.tail.head?.map Char.isDigit).getD false)

/-- The letters that a name or the prefix of a literal begins with. -/
def beginsWord (c : Char) : Bool :=
  isNameStart c || 128 ≤ c.toNat

/-- A lexeme that begins like a name: a name, or a literal with a prefix. -/
def word? (text : Text) : Option (Lexeme × Text) :=
  let word := text.takeWhile isWordLike
  let after := text.drop word.length
  let letters := word.map Char.toLower
  if (openingQuotes? after).isSome
      && literalPrefixes.any fun known => known.toList = letters then
    literal? letters after
  else if isName word then some (.name word, after)
  else none

/-- A lexeme that is a sign. -/
def signLexeme? (text : Text) : Option (Lexeme × Text) :=
  (sign? text).map fun (found, after) => (.sign found, after)

/-- Which lexeme is read next goes by the first character. The order of the cases matters: a prefix
of a literal begins like a word. -/
theorem next?_cons (c : Char) (rest : Text) :
    next? (c :: rest) =
      if beginsNumber (c :: rest) then number? (c :: rest)
      else if beginsWord c then word? (c :: rest)
      else if isQuote c then literal? [] (c :: rest)
      else signLexeme? (c :: rest) := by
  simp only [next?, beginsNumber, beginsWord, isQuote]
  rfl

/-- A word ends where characters of words do, and may turn out to be the prefix of a literal. -/
theorem word?_append {word after : Text} (hword : ∀ c ∈ word, isWordLike c)
    (hafter : after.head?.any isWordLike = false) :
    word? (word ++ after) =
      if after.head?.any isQuote
          && literalPrefixes.any (fun known => known.toList = word.map Char.toLower) then
        literal? (word.map Char.toLower) after
      else if isName word then some (.name word, after)
      else none := by
  have hleads : Text.Leads isWordLike (word ++ after) word after := by
    refine ⟨rfl, hword, fun c hc => ?_⟩
    rw [Option.mem_def.1 hc, Option.any_some] at hafter
    simp [hafter]
  simp only [word?, ← hleads.eq.1, List.drop_left, isSome_openingQuotes?]

theorem blankCodes_literalPrefixes : ∀ code ∈ blankCodes, ∀ known ∈ literalPrefixes,
    (Char.ofNat code).toLower ∉ known.toList := by
  decide +kernel

/-- The characters of a name. -/
theorem isNameStart_or_isNameContinue {name : Text} (h : isName name) :
    ∀ c ∈ name, isNameStart c ∨ isNameContinue c := by
  cases name with
  | nil => cases h
  | cons first rest =>
      obtain ⟨hstart, hrest⟩ := Bool.and_eq_true_iff.1 h
      exact List.forall_mem_cons.2 ⟨.inl hstart, fun c hc => .inr (List.all_eq_true.1 hrest c hc)⟩

theorem not_isBlank_of_isName {name : Text} (h : isName name) : ∀ c ∈ name, ¬isBlank c := by
  intro c hc blank
  rcases isNameStart_or_isNameContinue h c hc with hstart | hcontinue
  · rw [not_isNameStart_of_isBlank blank] at hstart
    cases hstart
  · rw [not_isNameContinue_of_isBlank blank] at hcontinue
    cases hcontinue

/-- Letters do not begin where a word ends. -/
theorem Agree.not_isWordLike (h : Agree s t) (hs : s.head?.any isWordLike = false) :
    t.head?.any isWordLike = false := by
  rcases h.head with ⟨-, right⟩ | same
  · cases hhead : t.head? with
    | none => rfl
    | some c =>
        rw [right c hhead]
        exact isWordLike_newline
  · rwa [← same]

/-- A word is read again in front of every text that agrees with what followed it. -/
theorem exists_word {lexeme : Lexeme} (h : word? text = some (lexeme, rest)) :
    ∃ p, Firm p ∧ text = p ++ rest ∧ ∀ t, Agree rest t → word? (p ++ t) = some (lexeme, t) := by
  -- The longest word is taken first, and then it turns out what it is.
  obtain ⟨word, after, rfl, hword, hafter⟩ : ∃ word after, text = word ++ after
      ∧ (∀ c ∈ word, isWordLike c) ∧ after.head?.any isWordLike = false := by
    have hleads : Text.Leads isWordLike text _ _ := Text.leads_takeWhile
    refine ⟨_, _, hleads.text_eq, hleads.all, ?_⟩
    cases hhead : (text.dropWhile isWordLike).head? with
    | none => rfl
    | some c => simpa using hleads.longest c hhead
  rw [word?_append hword hafter] at h
  split at h
  · rename_i literal
    obtain ⟨hquote, hprefix⟩ := Bool.and_eq_true_iff.1 literal
    -- The word was the prefix of a literal, so the piece is both of them together.
    obtain ⟨p, hp, hpquote, rfl, again⟩ := exists_literal h
    refine ⟨word ++ p, hp.append_left fun c hc blank => ?_, by simp, fun t ht => ?_⟩
    · obtain ⟨known, hknown, heq⟩ := List.any_eq_true.1 hprefix
      have hlower := blankCodes_literalPrefixes _ (mem_blankCodes blank) known hknown
      rw [Char.ofNat_toNat, of_decide_eq_true heq] at hlower
      exact hlower (List.mem_map_of_mem (List.mem_of_mem_head? hc))
    · have hhead {r : Text} : (p ++ r).head? = p.head? := by
        obtain ⟨q, p, rfl⟩ := List.exists_cons_of_ne_nil hp.ne_nil
        rfl
      have hnext : (p ++ t).head?.any isWordLike = false := by
        rwa [hhead, ← hhead (r := rest)]
      rw [List.append_assoc, word?_append hword hnext, hhead, if_pos (by rw [hpquote, hprefix]; rfl),
        again t ht]
  · rename_i noLiteral
    split at h
    · rename_i name
      obtain ⟨rfl, rfl⟩ := Prod.mk.inj (Option.some.inj h)
      have nonempty : word ≠ [] := fun hnil => by
        rw [hnil] at name
        cases name
      refine ⟨word, firm_of_solid nonempty (not_isBlank_of_isName name), rfl, fun t ht => ?_⟩
      rw [word?_append hword (ht.not_isWordLike hafter), ht.any_head isQuote_of_isBlank,
        if_neg noLiteral, if_pos name]
    · cases h

theorem beginsNumber_cons (c : Char) (s : Text) :
    beginsNumber (c :: s) = (c.isDigit || (c = '.' && s.head?.any Char.isDigit)) := by
  cases s <;> rfl

theorem beginsNumber_of_agree (h : Agree (c :: s) (c :: t)) :
    beginsNumber (c :: t) = beginsNumber (c :: s) := by
  rw [beginsNumber_cons, beginsNumber_cons]
  cases h with
  | stop _ right =>
      obtain rfl := right c rfl
      rfl
  | cons c more =>
      rw [more.any_head fun d hd => ?_]
      have hdigit := (blankCodes_digit _ (mem_blankCodes hd)).1
      rwa [Char.ofNat_toNat] at hdigit

/-- A lexeme that is read by `kind`, as everything is that begins alike, is read again in front of a
text that agrees with what follows it. -/
theorem next?_append {kind : Text → Option (Lexeme × Text)} {lexeme : Lexeme} {p : Text}
    (hp : p ≠ []) (htext : c :: s = p ++ rest)
    (hkind : ∀ r, beginsNumber (c :: r) = beginsNumber (c :: s) → next? (c :: r) = kind (c :: r))
    (again : Agree rest t → kind (p ++ t) = some (lexeme, t)) (ht : Agree rest t) :
    next? (p ++ t) = some (lexeme, t) := by
  obtain ⟨x, q, rfl⟩ := List.exists_cons_of_ne_nil hp
  obtain ⟨rfl, rfl⟩ := List.cons.inj htext
  have hbegins : beginsNumber (c :: (q ++ t)) = beginsNumber (c :: (q ++ rest)) :=
    beginsNumber_of_agree ((ht.append q).cons c)
  rw [List.cons_append, hkind (q ++ t) hbegins]
  exact again ht

/-- **What a lexeme takes**: it is a piece at the front of the text, and is read again in front of any
text that agrees with what follows it. -/
theorem exists_next {lexeme : Lexeme} (h : next? text = some (lexeme, rest)) :
    ∃ p, Firm p ∧ text = p ++ rest ∧ ∀ t, Agree rest t → next? (p ++ t) = some (lexeme, t) := by
  cases text with
  | nil => cases h
  | cons c r =>
      rw [next?_cons] at h
      split at h
      · rename_i number
        -- The cases are those of `next?_cons`, in its order. Each finds its piece by the lemma
        -- about its kind of lexeme, and the piece begins as it did, so the same case applies again.
        obtain ⟨p, ⟨htext, solid⟩, hp, again⟩ := exists_number h (by
          rw [beginsNumber, List.head?_cons, Option.any_some] at number
          simp only [Bool.or_eq_true, Bool.and_eq_true] at number
          simp only [List.head?_cons, Option.any_some, Bool.or_eq_true]
          exact number.imp id And.left)
        refine ⟨p, firm_of_solid hp solid, htext, fun t => next?_append hp htext ?_ (again t)⟩
        intro r hbegins
        rw [next?_cons, hbegins, if_pos number]
      · rename_i noNumber
        split at h
        · rename_i word
          obtain ⟨p, hp, htext, again⟩ := exists_word h
          refine ⟨p, hp, htext, fun t => next?_append hp.ne_nil htext ?_ (again t)⟩
          intro r hbegins
          rw [next?_cons, hbegins, if_neg noNumber, if_pos word]
        · rename_i noWord
          split at h
          · rename_i quote
            obtain ⟨p, hp, -, htext, again⟩ := exists_literal h
            refine ⟨p, hp, htext, fun t => next?_append hp.ne_nil htext ?_ (again t)⟩
            intro r hbegins
            rw [next?_cons, hbegins, if_neg noNumber, if_neg noWord, if_pos quote]
          · rename_i noQuote
            obtain ⟨⟨found, last⟩, hsign, heq⟩ := Option.map_eq_some_iff.1 h
            obtain ⟨rfl, rfl⟩ := Prod.mk.inj heq
            obtain ⟨hp, htext, again⟩ := exists_sign hsign
            have signs (t : Text) (ht : Agree last t) :
                signLexeme? (found ++ t) = some (.sign found, t) := by
              rw [signLexeme?, again t ht, Option.map_some]
            refine ⟨found, hp, htext, fun t => next?_append hp.ne_nil htext ?_ (signs t)⟩
            intro r hbegins
            rw [next?_cons, hbegins, if_neg noNumber, if_neg noWord, if_neg noQuote]

/-! ### Names -/

section

variable {c : Char} {name after : Text}

theorem isNameStart_numberCodes :
    ∀ code ∈ 46 :: List.range' 48 10, isNameStart (Char.ofNat code) = false := by
  decide

/-- Names do not begin like numbers. -/
theorem not_isDigit_of_isNameStart (h : isNameStart c) : c.isDigit = false ∧ c ≠ '.' := by
  have hcode : c.toNat ∉ 46 :: List.range' 48 10 := by
    intro hmem
    have hstart := isNameStart_numberCodes _ hmem
    rw [Char.ofNat_toNat, h] at hstart
    cases hstart
  constructor
  · rw [Bool.eq_false_iff]
    intro hdigit
    simp only [Char.isDigit, Bool.and_eq_true, decide_eq_true_eq, UInt32.le_iff_toNat_le,
      ge_iff_le] at hdigit
    have hrange : 48 ≤ c.toNat ∧ c.toNat ≤ 57 := hdigit
    refine hcode (List.mem_cons_of_mem _ ?_)
    rw [List.mem_range'_1]
    omega
  · rintro rfl
    exact hcode (by decide)

theorem isWordLike_of_isNameStart (h : isNameStart c) : isWordLike c := by
  simp only [isNameStart, isWordLike, isNameContinue] at h ⊢
  split at h
  · rename_i ascii
    simp only [ascii, if_true, Char.isAlphanum]
    rw [Bool.or_eq_true] at h ⊢
    left
    rcases h with letter | underscore <;> simp_all
  · rename_i large
    simp [large]
    omega

theorem isWordLike_of_isName (h : isName name) : ∀ c ∈ name, isWordLike c := by
  intro c hc
  rcases isNameStart_or_isNameContinue h c hc with hstart | hcontinue
  · exact isWordLike_of_isNameStart hstart
  · rw [isWordLike, hcontinue, Bool.true_or]

/-- A name is read as one lexeme, up to a character that belongs to no name and opens no text. -/
theorem next?_name (h : isName name) (hafter : after.head?.any isWordLike = false)
    (hquote : after.head?.any isQuote = false) :
    next? (name ++ after) = some (.name name, after) := by
  have found := word?_append (isWordLike_of_isName h) hafter
  rw [hquote, Bool.false_and, if_neg Bool.false_ne_true, if_pos h] at found
  cases name with
  | nil => cases h
  | cons c rest =>
      have hstart : isNameStart c := by
        simp only [isName, Bool.and_eq_true] at h
        exact h.1
      obtain ⟨hdigit, hdot⟩ := not_isDigit_of_isNameStart hstart
      have hnumber : ¬beginsNumber (c :: (rest ++ after)) := by
        rw [beginsNumber_cons, hdigit]
        simp [hdot]
      have hword : beginsWord c := by rw [beginsWord, hstart, Bool.true_or]
      rw [List.cons_append, next?_cons, if_neg hnumber, if_pos hword]
      exact found

end

end Stencil.Script.Lexeme
