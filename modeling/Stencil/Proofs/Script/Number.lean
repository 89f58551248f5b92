import Stencil.Proofs.Script.Agree

/-!
# Numbers

A number is read again wherever it is followed by a text that agrees with what follows it up to a
blank (`Lexeme.exists_number`). Digits, exponents and the word that may follow directly are taken
one after another, and for each of them it is the same.
-/

namespace Stencil.Script.Lexeme

/-! ### Digits -/

variable {base : Nat} {c : Char} {s t text rest : Text}

theorem digitOf?_ten (h : c.isDigit) : (digitOf? 10 c).isSome := by
  have hc : c.toNat ≤ 57 := by
    simp only [Char.isDigit, Bool.and_eq_true, decide_eq_true_eq] at h
    exact h.2
  have hvalue : c.toNat - 48 < 10 := by omega
  simp [digitOf?, h, hvalue]

theorem digits_of_head (h : t.head?.any (fun c => (digitOf? base c).isSome) = false) :
    digits base t = ([], t) := by
  match t, h with
  | [], _ => rfl
  | [c], h =>
      have hc : (digitOf? base c).isSome = false := h
      simp only [digits, hc, Bool.false_eq_true, if_false]
  | c :: d :: rest, h =>
      have hc : digitOf? base c = none := by
        rwa [List.head?_cons, Option.any_some, Option.isSome_eq_false_iff,
          Option.isNone_iff_eq_none] at h
      simp only [digits, hc, Option.isNone_none, if_true]

/-- Digits go on with a digit. An underscore between two of them is the other case
(`digits_underscore`). -/
theorem digits_cons (hc : (digitOf? base c).isSome) (h : ∀ d ∈ t.head?, d ≠ '_') :
    digits base (c :: t) = (c :: (digits base t).1, (digits base t).2) := by
  cases t with
  | nil => simp [digits, hc]
  | cons d rest =>
      have hd : d ≠ '_' := h d rfl
      simp [digits, Option.isSome_iff_ne_none.1 hc, hd]

theorem digit_head (h : Agree s t) (hs : s.head?.any (fun c => (digitOf? base c).isSome) = false) :
    t.head?.any (fun c => (digitOf? base c).isSome) = false := by
  rwa [h.any_head fun c hc => by rw [digitOf?_of_isBlank hc]; rfl]

theorem not_isBlank_of_digit (h : (digitOf? base c).isSome) : ¬isBlank c := by
  intro blank
  rw [digitOf?_of_isBlank blank] at h
  cases h

theorem digits_ne_nil (hc : (digitOf? base c).isSome) : (digits base (c :: t)).1 ≠ [] := by
  have hne : digitOf? base c ≠ none := Option.isSome_iff_ne_none.1 hc
  match t with
  | [] => simp [digits, hc]
  | d :: rest =>
      by_cases hd : d = '_'
      · match rest with
        | [] => simp [digits, hne, hd]
        | e :: rest => by_cases he : (digitOf? base e).isSome <;> simp [digits, hne, hd, he]
      · simp [digits, hne, hd]

/-- The last digit, in front of what is no digit. -/
theorem digits_last (hc : (digitOf? base c).isSome)
    (ht : t.head?.any (fun c => (digitOf? base c).isSome) = false) (h : ∀ d ∈ t.head?, d ≠ '_') :
    digits base (c :: t) = ([c], t) := by
  rw [digits_cons hc h, digits_of_head ht]

/-- An underscore that no digit follows is left where it is. -/
theorem digits_underscore {r : Text} (hc : (digitOf? base c).isSome)
    (hr : r.head?.any (fun c => (digitOf? base c).isSome) = false) (ht : Agree ('_' :: r) t) :
    digits base (c :: t) = ([c], t) := by
  cases ht with
  | stop left _ => exact absurd (left '_' rfl) (by decide)
  | cons _ more =>
      have hmore := digit_head more hr
      rename_i t
      cases t with
      | nil => simp [digits, Option.isSome_iff_ne_none.1 hc]
      | cons e t =>
          have he : (digitOf? base e).isSome = false := hmore
          simp [digits, Option.isSome_iff_ne_none.1 hc, he]

/-- Digits are read again in front of a text that agrees with what follows them. -/
theorem exists_digits (base : Nat) (text : Text) :
    ∃ p, IsPiece p text (digits base text).2 ∧ (p = [] → (digits base text).1 = [])
      ∧ ∀ t, Agree (digits base text).2 t → digits base (p ++ t) = ((digits base text).1, t) := by
  -- Five of the eight cases of `digits` are one of two: no digit at all, or a single digit with
  -- something behind it that does not go on.
  have none_of_head {text : Text}
      (h : text.head?.any (fun c => (digitOf? base c).isSome) = false) :
      ∃ p, IsPiece p text text ∧ (p = [] → ([] : Text) = [])
        ∧ ∀ t, Agree text t → digits base (p ++ t) = ([], t) :=
    ⟨[], ⟨rfl, by simp⟩, fun _ => rfl, fun t ht => digits_of_head (digit_head ht h)⟩
  have single {c : Char} {r : Text} (hc : (digitOf? base c).isSome)
      (hr : ∀ t, Agree r t → digits base (c :: t) = ([c], t)) :
      ∃ p, IsPiece p (c :: r) r ∧ (p = [] → [c] = [])
        ∧ ∀ t, Agree r t → digits base (p ++ t) = ([c], t) :=
    ⟨[c], ⟨rfl, by simpa using not_isBlank_of_digit hc⟩, by simp, hr⟩
  fun_induction digits base text with
  | case1 => exact none_of_head rfl
  | case2 c hc =>
      refine single hc fun t ht => ?_
      refine digits_last hc (digit_head ht rfl) fun d hd => ?_
      rcases ht.head with ⟨-, right⟩ | same
      · rw [right d hd]
        decide
      · rw [← same] at hd
        cases hd
  | case3 c hc => exact none_of_head (by simpa using hc)
  | case4 c d rest hc => exact none_of_head (by simpa using hc)
  | case5 c hc e rest he more after heq ih =>
      obtain ⟨p, ⟨htext, solid⟩, hp, again⟩ := ih
      have hc : (digitOf? base c).isSome := Option.isSome_iff_ne_none.2 (by simpa using hc)
      -- The digit behind the underscore belongs to what is read next, so the underscore does stand
      -- between two digits in every text that agrees.
      have nonempty : p ≠ [] := fun h => digits_ne_nil he (hp h)
      obtain ⟨e', p, rfl⟩ := List.exists_cons_of_ne_nil nonempty
      obtain rfl : e = e' := by simpa using (List.cons.inj htext).1
      refine ⟨c :: '_' :: e :: p, ⟨by simpa using htext, ?_⟩, by simp, fun t ht => ?_⟩
      · simp only [List.forall_mem_cons] at solid ⊢
        exact ⟨not_isBlank_of_digit hc, by decide, solid⟩
      · have hdigits := again t ht
        simp only [List.cons_append] at hdigits ⊢
        simp [digits, Option.isSome_iff_ne_none.1 hc, he, hdigits]
  | case6 c hc e rest he =>
      have hc : (digitOf? base c).isSome := Option.isSome_iff_ne_none.2 (by simpa using hc)
      exact single hc fun t => digits_underscore hc (by simpa using he)
  | case7 c hc =>
      have hc : (digitOf? base c).isSome := Option.isSome_iff_ne_none.2 (by simpa using hc)
      exact single hc fun t => digits_underscore hc rfl
  | case8 c d rest hc hd more after heq ih =>
      have hc : (digitOf? base c).isSome := Option.isSome_iff_ne_none.2 (by simpa using hc)
      rw [heq] at ih
      obtain ⟨p, ⟨htext, solid⟩, hp, again⟩ := ih
      refine ⟨c :: p, ⟨by rw [htext]; rfl, ?_⟩, by simp, fun t ht => ?_⟩
      · exact List.forall_mem_cons.2 ⟨not_isBlank_of_digit hc, solid⟩
      -- No underscore may come up behind the digit: either the piece goes on as before, or what
      -- follows agrees with what followed.
      · have hunder : ∀ x ∈ (p ++ t).head?, x ≠ '_' := by
          intro x hx
          cases p with
          | cons y p =>
              obtain rfl : d = y := by simpa using (List.cons.inj htext).1
              obtain rfl : d = x := by simpa using hx
              exact hd
          | nil =>
              rw [List.nil_append] at hx htext
              rcases ht.head with ⟨-, right⟩ | same
              · rw [right x hx]
                decide
              · rw [← same, ← htext] at hx
                obtain rfl : d = x := by simpa using hx
                exact hd
        rw [List.cons_append, digits_cons hc hunder, again t ht]

/-- Whether there are digits at all is seen at the next character. -/
theorem digits_eq_nil_of_agree {s t : Text} (h : Agree s t) (hs : (digits base s).1 = []) :
    (digits base t).1 = [] := by
  have hhead : s.head?.any (fun c => (digitOf? base c).isSome) = false := by
    cases s with
    | nil => rfl
    | cons c s =>
        cases hc : (digitOf? base c).isSome with
        | false => exact hc
        | true => exact absurd hs (digits_ne_nil hc)
  rw [digits_of_head (digit_head h hhead)]

/-! ### Numbers -/

/-- The sign of an exponent, which may be missing, in front of its digits. -/
structure Signed (sign : Text) (factor : Int) (body : Text) : Prop where
  sign_eq : sign = ['-'] ∧ factor = -1 ∨ sign = ['+'] ∧ factor = 1
    ∨ sign = [] ∧ factor = 1 ∧ body.head?.any (fun c => c = '-' || c = '+') = false

theorem exists_signed (text : Text) :
    ∃ sign factor body, text = sign ++ body ∧ Signed sign factor body := by
  match text with
  | '-' :: body => exact ⟨['-'], -1, body, rfl, ⟨.inl ⟨rfl, rfl⟩⟩⟩
  | '+' :: body => exact ⟨['+'], 1, body, rfl, ⟨.inr (.inl ⟨rfl, rfl⟩)⟩⟩
  | [] => exact ⟨[], 1, [], rfl, ⟨.inr (.inr ⟨rfl, rfl, rfl⟩)⟩⟩
  | c :: rest =>
      by_cases hminus : c = '-'
      · exact ⟨['-'], -1, rest, by rw [hminus]; rfl, ⟨.inl ⟨rfl, rfl⟩⟩⟩
      by_cases hplus : c = '+'
      · exact ⟨['+'], 1, rest, by rw [hplus]; rfl, ⟨.inr (.inl ⟨rfl, rfl⟩)⟩⟩
      exact ⟨[], 1, c :: rest, rfl, ⟨.inr (.inr ⟨rfl, rfl, by simp [hminus, hplus]⟩)⟩⟩

theorem Signed.agree {sign body : Text} {factor : Int} (h : Signed sign factor body)
    (hagree : Agree body t) : Signed sign factor t := by
  obtain ⟨h | h | ⟨rfl, rfl, hhead⟩⟩ := h
  · exact ⟨.inl h⟩
  · exact ⟨.inr (.inl h)⟩
  · refine ⟨.inr (.inr ⟨rfl, rfl, ?_⟩)⟩
    rwa [hagree.any_head fun c hc => ?_]
    have hminus : c ≠ '-' := fun h => absurd (h ▸ hc) (by decide)
    have hplus : c ≠ '+' := fun h => absurd (h ▸ hc) (by decide)
    simp [hminus, hplus]

theorem Signed.solid {sign body : Text} {factor : Int} (h : Signed sign factor body) :
    ∀ c ∈ sign, ¬isBlank c := by
  obtain ⟨⟨rfl, -⟩ | ⟨rfl, -⟩ | ⟨rfl, -⟩⟩ := h
  · exact List.forall_mem_singleton.2 (by decide)
  · exact List.forall_mem_singleton.2 (by decide)
  · exact List.forall_mem_nil _

theorem exponent_signed {e : Char} {sign body : Text} {factor : Int} (he : e = 'e' ∨ e = 'E')
    (h : Signed sign factor body) :
    exponent (e :: (sign ++ body)) =
      if (digits 10 body).1.isEmpty then none
      else some (factor * valueOf 10 (digits 10 body).1, (digits 10 body).2) := by
  have he : (e = 'e' || e = 'E') = true := by simpa using he
  obtain ⟨⟨rfl, rfl⟩ | ⟨rfl, rfl⟩ | ⟨rfl, rfl, hhead⟩⟩ := h
  · simp [exponent, he]
  · simp [exponent, he]
  · rw [List.nil_append]
    unfold exponent
    simp only [he, if_true]
    split
    · simp at hhead
    · simp at hhead
    · rfl

theorem exponent_other {e : Char} {rest : Text} (he : ¬(e = 'e' ∨ e = 'E')) :
    exponent (e :: rest) = none := by
  simp only [not_or] at he
  simp [exponent, he]

/-- An exponent is read again in front of a text that agrees with what follows it. -/
theorem exists_exponent {text rest : Text} {power : Int}
    (h : exponent text = some (power, rest)) :
    ∃ p, IsPiece p text rest ∧ p ≠ [] ∧ ∀ t, Agree rest t → exponent (p ++ t) = some (power, t) := by
  cases text with
  | nil => simp [exponent] at h
  | cons e text =>
      by_cases he : e = 'e' ∨ e = 'E'
      · obtain ⟨sign, factor, body, rfl, hsigned⟩ := exists_signed text
        rw [exponent_signed he hsigned] at h
        obtain ⟨p, ⟨htext, solid⟩, hp, again⟩ := exists_digits 10 body
        cases hempty : (digits 10 body).1.isEmpty with
        | true => simp [hempty] at h
        | false =>
            simp only [hempty, Bool.false_eq_true, if_false, Option.some.injEq,
              Prod.mk.injEq] at h
            obtain ⟨rfl, rfl⟩ := h
            refine ⟨e :: (sign ++ p), ⟨?_, ?_⟩, by simp, fun t ht => ?_⟩
            · rw [List.cons_append, List.append_assoc, ← htext]
            · have hfirst : ¬isBlank e := by rcases he with rfl | rfl <;> decide
              exact List.forall_mem_cons.2 ⟨hfirst, List.forall_mem_append.2 ⟨hsigned.solid, solid⟩⟩
            -- The sign is read again because the texts behind it agree, the digits because the
            -- piece has all of them.
            · have hbody : Agree body (p ++ t) := by
                have := ht.append p
                rwa [← htext] at this
              rw [List.cons_append, List.append_assoc, exponent_signed he (hsigned.agree hbody),
                again t ht]
              simp [hempty]
      · rw [exponent_other he] at h
        cases h

/-- No exponent becomes one by what stands behind it, as long as the next character stays. -/
theorem exponent_eq_none_of_agree {s t : Text} (hagree : Agree s t) (h : exponent s = none) :
    exponent t = none := by
  cases hagree with
  | stop left right =>
      cases t with
      | nil => rfl
      | cons c t =>
          obtain rfl := right c rfl
          exact exponent_other (by decide)
  | cons c more =>
      rename_i s t
      by_cases he : c = 'e' ∨ c = 'E'
      · obtain ⟨sign, factor, body, rfl, hsigned⟩ := exists_signed s
        obtain ⟨t, rfl, hbody⟩ := more.of_append hsigned.solid
        rw [exponent_signed he hsigned] at h
        have hnil : (digits 10 body).1 = [] := by
          cases hdigits : (digits 10 body).1 with
          | nil => rfl
          | cons d more => simp [hdigits] at h
        rw [exponent_signed he (hsigned.agree hbody), digits_eq_nil_of_agree hbody hnil]
        rfl
      · exact exponent_other he

/-- The characters of names, and all that are not ASCII. -/
def isWordLike (c : Char) : Bool :=
  isNameContinue c || 128 ≤ c.toNat

theorem isWordLike_newline : isWordLike '\n' = false := by decide

/-- The words in front of both texts are the same, unless the old one goes on with a blank. -/
theorem Agree.takeWhile (h : Agree s t) :
    s.takeWhile isWordLike = t.takeWhile isWordLike
      ∨ ∃ c ∈ s.takeWhile isWordLike, isBlank c ∧ 128 ≤ c.toNat := by
  induction h with
  | @stop s t left right =>
      have ht : t.takeWhile isWordLike = [] := by
        cases t with
        | nil => rfl
        | cons c t =>
            obtain rfl := right c rfl
            exact List.takeWhile_cons_of_neg (by rw [isWordLike_newline]; decide)
      cases s with
      | nil => exact .inl ht.symm
      | cons c s =>
          have blank : isBlank c := left c rfl
          cases hc : isWordLike c with
          | false =>
              left
              rw [ht, List.takeWhile_cons_of_neg (by rw [hc]; decide)]
          | true =>
              -- A blank that looks like a character of a word is not an ASCII one. It cannot go on
              -- a name, so the word is none.
              right
              refine ⟨c, by simp [hc], blank, ?_⟩
              simpa [isWordLike, not_isNameContinue_of_isBlank blank] using hc
  | cons c more ih =>
      cases hc : isWordLike c with
      | false => simp [hc]
      | true =>
          simp only [List.takeWhile_cons_of_pos hc]
          rcases ih with same | ⟨d, hd, blank⟩
          · exact .inl (by rw [same])
          · exact .inr ⟨d, List.mem_cons_of_mem _ hd, blank⟩

/-- What may follow a number does not depend on anything beyond a blank. -/
theorem mayFollowNumber_of_agree {s t : Text} (hagree : Agree s t) (h : mayFollowNumber s) :
    mayFollowNumber t := by
  rcases hagree.takeWhile with same | ⟨c, hc, -, wide⟩
  · have hs : mayFollowNumber s = mayFollowNumber t := by
      unfold mayFollowNumber
      rw [show (s.takeWhile fun c => isNameContinue c || 128 ≤ c.toNat) = t.takeWhile isWordLike
        from same]
      rfl
    rwa [← hs]
  · -- The words that may follow are ASCII.
    unfold mayFollowNumber at h
    rw [show (s.takeWhile fun c => isNameContinue c || 128 ≤ c.toNat) = s.takeWhile isWordLike
      from rfl] at h
    have hall : ∀ allowed ∈ ["and", "else", "for", "if", "in", "is", "not", "or"],
        allowed.toList.all fun d => d.toNat < 128 := by decide
    rcases Bool.or_eq_true _ _ ▸ h with hempty | hany
    · rw [List.isEmpty_iff.1 hempty] at hc
      cases hc
    · obtain ⟨allowed, hmem, heq⟩ := List.any_eq_true.1 hany
      rw [← of_decide_eq_true heq] at hc
      have := of_decide_eq_true (List.all_eq_true.1 (hall allowed hmem) c hc)
      omega

/-- The number with its whole part and what follows it. -/
theorem decimalNumber?_dot {r : Text} (h : (digits 10 text).2 = '.' :: r) :
    decimalNumber? text =
      let (power, rest) := (exponent (digits 10 r).2).getD (0, (digits 10 r).2)
      if !mayFollowNumber rest then none
      else some (.constant (.float (Decimal.toFloat
        (valueOf 10 ((digits 10 text).1 ++ (digits 10 r).1)) (power - (digits 10 r).1.length))),
        rest) := by
  unfold decimalNumber?
  simp only [h]
  cases exponent (digits 10 r).2 <;> rfl

section

variable (h : (digits 10 text).2.head? ≠ some '.')

include h

theorem decimalNumber?_power {power : Int}
    (hexponent : exponent (digits 10 text).2 = some (power, rest)) :
    decimalNumber? text =
      if !mayFollowNumber rest then none
      else some (.constant (.float (Decimal.toFloat (valueOf 10 ((digits 10 text).1 ++ []))
        (power - ([] : Text).length))), rest) := by
  unfold decimalNumber?
  split
  rename_i whole after hdigits
  rw [hdigits] at h hexponent ⊢
  split
  rename_i fraction afterFraction hfraction
  split at hfraction
  · exact absurd rfl h
  · cases hfraction
    simp only [hexponent]
    rfl

/-- A number without a point and without an exponent. Leading zeros are refused, unless there is
nothing else. -/
theorem decimalNumber?_whole (hexponent : exponent (digits 10 text).2 = none) :
    decimalNumber? text =
      if !mayFollowNumber (digits 10 text).2 then none
      else if (digits 10 text).1.head? = some '0' && (digits 10 text).1.any (· ≠ '0') then none
      else if digitLimit < (digits 10 text).1.length then none
      else some (.constant (.int (valueOf 10 (digits 10 text).1)), (digits 10 text).2) := by
  unfold decimalNumber?
  split
  rename_i whole after hdigits
  rw [hdigits] at h hexponent ⊢
  split
  rename_i fraction afterFraction hfraction
  split at hfraction
  · exact absurd rfl h
  · cases hfraction
    simp only [hexponent]

end

/-- An exponent, or none, is read again in front of a text that agrees with what follows. -/
theorem exists_power (text : Text) :
    ∃ p, IsPiece p text ((exponent text).getD (0, text)).2 ∧ (exponent text = none → p = [])
      ∧ ∀ t, Agree ((exponent text).getD (0, text)).2 t →
          exponent (p ++ t) = (exponent text).map fun found => (found.1, t) := by
  cases h : exponent text with
  | none => exact ⟨[], ⟨rfl, by simp⟩, fun _ => rfl, fun t ht => exponent_eq_none_of_agree ht h⟩
  | some found =>
      obtain ⟨power, rest⟩ := found
      obtain ⟨p, piece, -, again⟩ := exists_exponent h
      exact ⟨p, piece, by simp, again⟩

/-- The digits behind a mark such as `0x`. One underscore may stand in front of them, which is the
next lemma. -/
theorem markedNumber?_eq {body : Text} (h : body.head? ≠ some '_') :
    markedNumber? base body =
      if (digits base body).1.isEmpty || !mayFollowNumber (digits base body).2 then none
      else some (.constant (.int (valueOf base (digits base body).1)), (digits base body).2) := by
  unfold markedNumber?
  split
  · exact absurd rfl h
  · rfl

theorem markedNumber?_underscore (body : Text) :
    markedNumber? base ('_' :: body) =
      if (digits base body).1.isEmpty || !mayFollowNumber (digits base body).2 then none
      else some (.constant (.int (valueOf base (digits base body).1)), (digits base body).2) :=
  rfl

/-- A number behind its mark is read again in front of a text that agrees with what follows it. -/
theorem exists_markedNumber {lexeme : Lexeme} (h : markedNumber? base text = some (lexeme, rest)) :
    ∃ p, IsPiece p text rest ∧ ∀ t, Agree rest t → markedNumber? base (p ++ t) = some (lexeme, t) := by
  by_cases hunder : text.head? = some '_'
  · obtain ⟨body, rfl⟩ : ∃ body, text = '_' :: body := by
      cases text with
      | nil => simp at hunder
      | cons c body => exact ⟨body, by simpa using hunder⟩
    rw [markedNumber?_underscore] at h
    simp only [Option.ite_none_left_eq_some, Option.some.injEq, Prod.mk.injEq, Bool.or_eq_true,
      not_or] at h
    obtain ⟨⟨nonempty, follows⟩, rfl, rfl⟩ := h
    obtain ⟨p, ⟨htext, solid⟩, -, again⟩ := exists_digits base body
    refine ⟨'_' :: p, ⟨congrArg ('_' :: ·) htext, ?_⟩, fun t ht => ?_⟩
    · exact List.forall_mem_cons.2 ⟨by decide, solid⟩
    · have hfollows : mayFollowNumber t := mayFollowNumber_of_agree ht (by simpa using follows)
      have found : ¬((digits base body).1.isEmpty || !mayFollowNumber t) = true := by
        rw [hfollows, Bool.or_eq_true, not_or]
        exact ⟨nonempty, by decide⟩
      rw [List.cons_append, markedNumber?_underscore, again t ht, if_neg found]
  · rw [markedNumber?_eq hunder] at h
    simp only [Option.ite_none_left_eq_some, Option.some.injEq, Prod.mk.injEq, Bool.or_eq_true,
      not_or] at h
    obtain ⟨⟨nonempty, follows⟩, rfl, rfl⟩ := h
    obtain ⟨p, ⟨htext, solid⟩, hp, again⟩ := exists_digits base text
    refine ⟨p, ⟨htext, solid⟩, fun t ht => ?_⟩
    -- The piece has a digit in it, so no underscore can come to stand behind the mark.
    have hhead : (p ++ t).head? ≠ some '_' := by
      cases p with
      | nil => simp [hp rfl] at nonempty
      | cons c p =>
          rw [htext] at hunder
          exact hunder
    have hfollows : mayFollowNumber t := mayFollowNumber_of_agree ht (by simpa using follows)
    have found : ¬((digits base text).1.isEmpty || !mayFollowNumber t) = true := by
      rw [hfollows, Bool.or_eq_true, not_or]
      exact ⟨nonempty, by decide⟩
    rw [markedNumber?_eq hhead, again t ht, if_neg found]

/-- The number is read again in front of every text that agrees with what follows it; its piece is
empty only where neither a digit nor a point stands. -/
def IsReread (text rest : Text) (lexeme : Lexeme) : Prop :=
  ∃ p, IsPiece p text rest ∧ (p = [] → (digits 10 text).1 = [] ∧ text.head? ≠ some '.')
    ∧ ∀ t, Agree rest t → decimalNumber? (p ++ t) = some (lexeme, t)

/-- A number with a point. -/
theorem isReread_dot {lexeme : Lexeme} {r : Text} (hr : (digits 10 text).2 = '.' :: r)
    (h : decimalNumber? text = some (lexeme, rest)) : IsReread text rest lexeme := by
  obtain ⟨p, ⟨htext, solid⟩, hp, again⟩ := exists_digits 10 text
  obtain ⟨q, ⟨hq, qsolid⟩, -, qagain⟩ := exists_digits 10 r
  obtain ⟨x, ⟨hx, xsolid⟩, xnil, xagain⟩ := exists_power (digits 10 r).2
  rw [decimalNumber?_dot hr] at h
  simp only [Option.ite_none_left_eq_some, Option.some.injEq, Prod.mk.injEq] at h
  obtain ⟨follows, rfl, rfl⟩ := h
  refine ⟨p ++ '.' :: (q ++ x), ⟨?_, ?_⟩, by simp, fun t ht => ?_⟩
  · rw [List.append_assoc, List.cons_append, List.append_assoc, ← hx, ← hq, ← hr, ← htext]
  · have hpoint : ¬isBlank '.' := by decide
    exact List.forall_mem_append.2 ⟨solid, List.forall_mem_cons.2
      ⟨hpoint, List.forall_mem_append.2 ⟨qsolid, xsolid⟩⟩⟩
  · have hxt : Agree (digits 10 r).2 (x ++ t) := by
      have := ht.append x
      rwa [← hx] at this
    have hqt : Agree (digits 10 text).2 ('.' :: (q ++ (x ++ t))) := by
      have := (hxt.append q).cons '.'
      rwa [← hq, ← hr] at this
    have hdigits := again _ hqt
    rw [List.append_assoc, List.cons_append, List.append_assoc,
      decimalNumber?_dot (r := q ++ (x ++ t)) (by rw [hdigits]), hdigits, qagain _ hxt, xagain t ht]
    have hfollows : mayFollowNumber t := mayFollowNumber_of_agree ht (by simpa using follows)
    cases hexponent : exponent (digits 10 r).2 with
    | none => simp [xnil hexponent, hfollows]
    | some found => simp [hfollows]

section

variable (hdot : (digits 10 text).2.head? ≠ some '.')

include hdot

/-- No point appears where the texts agree. -/
theorem head?_ne_of_agree {t : Text} (ht : Agree (digits 10 text).2 t) : t.head? ≠ some '.' := by
  intro hhead
  rcases ht.head with ⟨-, right⟩ | same
  · exact absurd (right '.' hhead) (by decide)
  · exact hdot (same.trans hhead)

/-- Without digits the text itself is what follows them. -/
theorem head?_ne_of_digits_eq_nil {p : Text} (htext : text = p ++ (digits 10 text).2)
    (hp : p = []) : text.head? ≠ some '.' := by
  subst hp
  rwa [← List.nil_append (digits 10 text).2, ← htext] at hdot

/-- A number of nothing but digits. -/
theorem isReread_whole {lexeme : Lexeme} (hexponent : exponent (digits 10 text).2 = none)
    (h : decimalNumber? text = some (lexeme, rest)) : IsReread text rest lexeme := by
  obtain ⟨p, ⟨htext, solid⟩, hp, again⟩ := exists_digits 10 text
  rw [decimalNumber?_whole hdot hexponent] at h
  simp only [Option.ite_none_left_eq_some, Option.some.injEq, Prod.mk.injEq] at h
  obtain ⟨follows, zero, long, rfl, rfl⟩ := h
  refine ⟨p, ⟨htext, solid⟩,
    fun hnil => ⟨hp hnil, head?_ne_of_digits_eq_nil hdot htext hnil⟩, fun t ht => ?_⟩
  have hdigits := again t ht
  have hnone : exponent (digits 10 (p ++ t)).2 = none := by
    rw [hdigits]
    exact exponent_eq_none_of_agree ht hexponent
  have hhead : (digits 10 (p ++ t)).2.head? ≠ some '.' := by
    rw [hdigits]
    exact head?_ne_of_agree hdot ht
  have hfollows : mayFollowNumber t := mayFollowNumber_of_agree ht (by simpa using follows)
  rw [decimalNumber?_whole hhead hnone, hdigits, if_neg (by simp [hfollows]), if_neg zero,
    if_neg long]

/-- A number of digits and an exponent. -/
theorem isReread_power {lexeme : Lexeme} {power : Int} {after : Text}
    (hexponent : exponent (digits 10 text).2 = some (power, after))
    (h : decimalNumber? text = some (lexeme, rest)) : IsReread text rest lexeme := by
  obtain ⟨p, ⟨htext, solid⟩, hp, again⟩ := exists_digits 10 text
  obtain ⟨x, ⟨hx, xsolid⟩, -, xagain⟩ := exists_exponent hexponent
  rw [decimalNumber?_power hdot hexponent] at h
  simp only [Option.ite_none_left_eq_some, Option.some.injEq, Prod.mk.injEq] at h
  obtain ⟨follows, rfl, rfl⟩ := h
  refine ⟨p ++ x, ⟨?_, ?_⟩, fun hnil => ?_, fun t ht => ?_⟩
  · rw [List.append_assoc]
    exact htext.trans (congrArg (p ++ ·) hx)
  · exact List.forall_mem_append.2 ⟨solid, xsolid⟩
  · have hnil := (List.append_eq_nil_iff.1 hnil).1
    exact ⟨hp hnil, head?_ne_of_digits_eq_nil hdot htext hnil⟩
  · have hxt : Agree (digits 10 text).2 (x ++ t) := by
      have := ht.append x
      rwa [← hx] at this
    have hdigits := again _ hxt
    have hsome : exponent (digits 10 (p ++ (x ++ t))).2 = some (power, t) := by
      rw [hdigits]
      exact xagain t ht
    have hhead : (digits 10 (p ++ (x ++ t))).2.head? ≠ some '.' := by
      rw [hdigits]
      exact head?_ne_of_agree hdot hxt
    have hfollows : mayFollowNumber t := mayFollowNumber_of_agree ht (by simpa using follows)
    rw [List.append_assoc, decimalNumber?_power hhead hsome, hdigits, if_neg (by simp [hfollows])]

end

/-- A decimal number is read again in front of a text that agrees with what follows it. -/
theorem isReread_of_decimalNumber? {lexeme : Lexeme}
    (h : decimalNumber? text = some (lexeme, rest)) : IsReread text rest lexeme := by
  by_cases hdot : (digits 10 text).2.head? = some '.'
  · obtain ⟨r, hr⟩ := List.head?_eq_some_iff.1 hdot
    exact isReread_dot hr h
  · cases hexponent : exponent (digits 10 text).2 with
    | none => exact isReread_whole hdot hexponent h
    | some found => exact isReread_power hdot hexponent h

/-- Does a number in another base than ten begin here? -/
def isMarked : Text → Bool
  | '0' :: mark :: _ => ['x', 'X', 'o', 'O', 'b', 'B'].contains mark
  | _ => false

theorem isMarked_zero (text : Text) :
    isMarked ('0' :: text) = text.head?.any fun c => ['x', 'X', 'o', 'O', 'b', 'B'].contains c := by
  cases text <;> rfl

theorem isMarked_of_head (h : text.head? ≠ some '0') : isMarked text = false := by
  unfold isMarked
  split
  · exact absurd rfl h
  · rfl

theorem Agree.isMarked_eq (h : Agree s t) : isMarked t = isMarked s := by
  have unmarked : ∀ code ∈ blankCodes,
      ['x', 'X', 'o', 'O', 'b', 'B'].contains (Char.ofNat code) = false := by decide
  cases h with
  | stop left right =>
      rw [isMarked_of_head fun hs => absurd (left _ hs) (by decide),
        isMarked_of_head fun ht => absurd (right _ ht) (by decide)]
  | cons c more =>
      by_cases hc : c = '0'
      · rw [hc, isMarked_zero, isMarked_zero, more.any_head fun d hd => ?_]
        have := unmarked _ (mem_blankCodes hd)
        rwa [Char.ofNat_toNat] at this
      · rw [isMarked_of_head (by simpa using hc), isMarked_of_head (by simpa using hc)]

theorem number?_of_not_isMarked (h : isMarked text = false) :
    number? text = decimalNumber? text := by
  unfold number?
  split
  · rename_i mark rest
    simp only [isMarked, List.contains_eq_mem, List.mem_cons, List.not_mem_nil, or_false,
      decide_eq_false_iff_not, not_or] at h
    simp [h]
  · rfl

/-- A number with a mark has its base fixed by the mark, whatever digits follow. -/
theorem exists_of_isMarked (h : isMarked text) :
    ∃ mark base rest, text = '0' :: mark :: rest ∧ ¬isBlank mark
      ∧ ∀ rest, number? ('0' :: mark :: rest) = markedNumber? base rest := by
  unfold isMarked at h
  split at h
  · rename_i mark rest
    simp only [List.contains_eq_mem, List.mem_cons, List.not_mem_nil, or_false,
      decide_eq_true_eq] at h
    rcases h with rfl | rfl | rfl | rfl | rfl | rfl
    · exact ⟨'x', 16, rest, rfl, by decide, fun _ => rfl⟩
    · exact ⟨'X', 16, rest, rfl, by decide, fun _ => rfl⟩
    · exact ⟨'o', 8, rest, rfl, by decide, fun _ => rfl⟩
    · exact ⟨'O', 8, rest, rfl, by decide, fun _ => rfl⟩
    · exact ⟨'b', 2, rest, rfl, by decide, fun _ => rfl⟩
    · exact ⟨'B', 2, rest, rfl, by decide, fun _ => rfl⟩
  · cases h

/-- A number is read again in front of a text that agrees with what follows it. -/
theorem exists_number {lexeme : Lexeme} (h : number? text = some (lexeme, rest))
    (hhead : text.head?.any fun c => c.isDigit || c = '.') :
    ∃ p, IsPiece p text rest ∧ p ≠ [] ∧ ∀ t, Agree rest t → number? (p ++ t) = some (lexeme, t) := by
  cases hmarked : isMarked text with
  | true =>
      obtain ⟨mark, base, body, rfl, hmark, hnumber⟩ := exists_of_isMarked hmarked
      rw [hnumber] at h
      obtain ⟨p, ⟨rfl, solid⟩, again⟩ := exists_markedNumber h
      refine ⟨'0' :: mark :: p, ⟨rfl, ?_⟩, by simp, fun t ht => ?_⟩
      · exact List.forall_mem_cons.2 ⟨by decide, List.forall_mem_cons.2 ⟨hmark, solid⟩⟩
      · exact (hnumber (p ++ t)).trans (again t ht)
  | false =>
      rw [number?_of_not_isMarked hmarked] at h
      obtain ⟨p, ⟨htext, solid⟩, hp, again⟩ := isReread_of_decimalNumber? h
      refine ⟨p, ⟨htext, solid⟩, fun hnil => ?_, fun t ht => ?_⟩
      · obtain ⟨hdigits, hdot⟩ := hp hnil
        cases text with
        | nil => simp at hhead
        | cons c text =>
            have hc : c.isDigit := by
              rcases Bool.or_eq_true _ _ ▸ hhead with hc | hc
              · exact hc
              · exact absurd (congrArg some (of_decide_eq_true hc)) hdot
            exact digits_ne_nil (digitOf?_ten hc) hdigits
      · have hagree : Agree text (p ++ t) := by
          have := ht.append p
          rwa [← htext] at this
        rw [number?_of_not_isMarked (hagree.isMarked_eq.trans hmarked), again t ht]

end Stencil.Script.Lexeme
