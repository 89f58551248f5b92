import Stencil.Proofs.Segment.Places

/-!
# Where cutting fails

A template without a cutting is cut as far as it goes. `Segment.Rounds d text done rest` says that
`done` is made of the first rounds of the text, each a literal and the block behind it, and
`Segment.Blocked` that the first round of what follows them fails: a closing delimiter stands in its
literal, or its block has no end. Cutting fails with an error just when the text goes on in this way
(`cutFrom_eq_error_iff`).

The error stands in the text where its token says, and everything in front of the piece that fails
is a template of its own (`tokenize_eq_error_iff`).
-/

namespace Stencil

namespace Segment

/-- `done` is made of the first rounds of the text, and `rest` follows them. -/
inductive Rounds (d : Delimiters) : Text → Text → Text → Prop
  | nil {text} : Rounds d text [] text
  | cons {text before kind inside raw next done rest}
      (round : Round d text before kind inside raw next) (more : Rounds d next done rest) :
      Rounds d text (before ++ (Shape.source d (.block kind raw) ++ done)) rest

/-- The first round of a text that begins at `place` fails with an error. `before` is the literal in
front of the block that fails; in front of a literal that fails there is nothing. -/
inductive Blocked (d : Delimiters) (place : Place) : Text → Text → DelimiterError → Prop
  /-- A closing delimiter stands in the literal, here for the first time. That of expressions is
  preferred. -/
  | literal {literal rest before after kind} (unopened : d.Unopened literal rest)
      (ends : rest = [] ∨ ∃ kind, d.opener kind <+: rest)
      (first : Text.FirstCut (d.closer kind) literal before after)
      (preferred : kind = .statement → ¬d.expressionEnd <:+: literal) :
      Blocked d place (literal ++ rest) []
        ⟨d.opener kind, ⟨.text, d.closer kind, place.after before⟩⟩
  /-- No closing delimiter stands behind the one that opens the block. -/
  | block {before kind inside} (unopened : d.Unopened before (d.opener kind ++ inside))
      (unclosed : d.Unclosed before)
      (opened : kind = .statement → ¬d.expressionStart <+: d.statementStart ++ inside)
      (endless : ¬d.closer kind <:+: inside) :
      Blocked d place (before ++ (d.opener kind ++ inside)) before
        ⟨d.closer kind, ⟨.text, d.opener kind, place.after before⟩⟩

variable {d : Delimiters} {text done rest next inside before part : Text} {place : Place}
variable {kind : BlockKind} {raw : Text} {shapes : List Shape} {error : DelimiterError}

/-! ### The first round -/

theorem ofLiteral_eq_error_iff (valid : d.AreNonempty) :
    ofLiteral d place text = .error error ↔
      ∃ kind before after, Text.FirstCut (d.closer kind) text before after
        ∧ (kind = .statement → ¬d.expressionEnd <:+: text)
        ∧ error = ⟨d.opener kind, ⟨.text, d.closer kind, place.after before⟩⟩ := by
  have stray : ∀ kind, strayCloser? d place text kind = some error ↔
      ∃ before after, Text.FirstCut (d.closer kind) text before after
        ∧ error = ⟨d.opener kind, ⟨.text, d.closer kind, place.after before⟩⟩ := by
    intro kind
    simp only [strayCloser?, Option.map_eq_some_iff, Prod.exists, Text.splitAt?_eq_some_iff,
      eq_comm (b := error)]
  constructor
  · intro h
    by_cases hempty : text = []
    · subst hempty
      cases h
    · rw [ofLiteral, if_neg (by simpa using hempty)] at h
      cases hexpression : strayCloser? d place text .expression with
      | some found =>
          rw [hexpression] at h
          cases h
          obtain ⟨before, after, first, rfl⟩ := (stray .expression).1 hexpression
          refine ⟨.expression, before, after, first, fun same => ?_, rfl⟩
          cases same
      | none =>
          cases hstatement : strayCloser? d place text .statement with
          | some found =>
              rw [hexpression, hstatement] at h
              cases h
              obtain ⟨before, after, first, rfl⟩ := (stray .statement).1 hstatement
              -- The closer of a statement is only at fault when there is no stray closer of an
              -- expression, even a later one.
              have preferred := strayCloser?_eq_none_iff.1 hexpression
              exact ⟨.statement, before, after, first, fun _ => preferred, rfl⟩
          | none =>
              rw [hexpression, hstatement] at h
              cases h
  · intro h
    obtain ⟨kind, before, after, first, preferred, herror⟩ := h
    have hfound := (stray kind).2 ⟨before, after, first, herror⟩
    have hne : text ≠ [] := by
      rw [first.text_eq]
      simp [(valid kind).2]
    rw [ofLiteral, if_neg (by simpa using hne)]
    cases kind with
    | expression => rw [hfound]
    | statement =>
        have hnone : strayCloser? d place text .expression = none :=
          strayCloser?_eq_none_iff.2 (preferred rfl)
        rw [hnone, hfound]

theorem ofLiteral_eq_placed (valid : d.AreNonempty) (h : d.Unclosed text) :
    ofLiteral d place text = .ok (placed d place (literals text)) :=
  (ofLiteral_eq_ok_iff valid).2 ⟨h, rfl⟩

/-- A first round that fails, fails. -/
theorem Blocked.cutFrom_eq (valid : d.AreNonempty) (h : Blocked d place rest before error) :
    cutFrom d place rest = .error error := by
  cases h with
  | @literal literal rest before after kind unopened ends first preferred =>
      have hlead : ofLiteral d place literal
          = .error ⟨d.opener kind, ⟨.text, d.closer kind, place.after before⟩⟩ :=
        (ofLiteral_eq_error_iff valid).2 ⟨kind, before, after, first, preferred, rfl⟩
      rcases ends with rfl | ⟨opening, inside, rfl⟩
      · rw [List.append_nil, cutFrom_of_none ((nextBlock?_eq_none_iff valid).2 unopened), hlead]
      · -- The next block is the one that opens there, though another delimiter may win the tie.
        obtain ⟨found, hfound⟩ : ∃ found,
            d.openedBy? (d.opener opening ++ inside) = some found := by
          refine Option.ne_none_iff_exists'.1 fun none_ => ?_
          exact Delimiters.openedBy?_eq_none_iff.1 none_ opening ⟨inside, rfl⟩
        obtain ⟨⟨tail, htail⟩, opened⟩ := Delimiters.openedBy?_eq_some_iff.1 hfound
        rw [← htail] at unopened opened ⊢
        have hnext := (nextBlock?_eq_some_iff valid).2
          ⟨rfl, unopened, fun same => by subst same; exact opened rfl⟩
        rw [cutFrom, hnext]
        dsimp only
        rw [hlead]
  | @block _ kind inside unopened unclosed opened endless =>
      rw [cutFrom, (nextBlock?_eq_some_iff valid).2 ⟨rfl, unopened, opened⟩]
      dsimp only
      rw [ofLiteral_eq_placed valid unclosed]
      dsimp only
      rw [Text.splitAt?_eq_none_iff.2 endless]

/-- **One round**: cutting fails in the first round, or behind it. -/
theorem cutFrom_round (valid : d.AreNonempty) (h : cutFrom d place text = .error error) :
    (∃ before, Blocked d place text before error)
      ∨ ∃ before kind inside raw rest, Round d text before kind inside raw rest
          ∧ cutFrom d (place.after (before ++ Shape.source d (.block kind raw))) rest
            = .error error := by
  cases hnext : nextBlock? d text with
  | none =>
      rw [cutFrom_of_none hnext, ofLiteral_eq_error_iff valid] at h
      obtain ⟨kind, before, after, first, preferred, rfl⟩ := h
      have blocked : Blocked d place (text ++ []) [] _ :=
        .literal ((nextBlock?_eq_none_iff valid).1 hnext) (.inl rfl) first preferred
      rw [List.append_nil] at blocked
      exact .inl ⟨_, blocked⟩
  | some found =>
      obtain ⟨before, kind, inside⟩ := found
      obtain ⟨rfl, unopened, opened⟩ := (nextBlock?_eq_some_iff valid).1 hnext
      -- The literal in front is checked before the block's own closer is looked for.
      by_cases unclosed : d.Unclosed before
      · cases hclose : Text.splitAt? (d.closer kind) inside with
        | none =>
            have endless := Text.splitAt?_eq_none_iff.1 hclose
            have blocked : Blocked d place _ before _ := .block unopened unclosed opened endless
            rw [blocked.cutFrom_eq valid] at h
            cases h
            exact .inl ⟨_, blocked⟩
        | some split =>
            have round : Round d (before ++ (d.opener kind ++ inside)) before kind inside split.1
                split.2 := ⟨rfl, unopened, unclosed, opened, Text.splitAt?_eq_some_iff.1 hclose⟩
            refine .inr ⟨before, kind, inside, split.1, split.2, round, ?_⟩
            rw [cutFrom_of_round valid round] at h
            rw [Place.after_append]
            generalize cutFrom d ((place.after before).after _) split.2 = result at h ⊢
            cases result with
            | ok more => cases h
            | error found =>
                cases h
                rfl
      · cases hlead : ofLiteral d place before with
        | ok lead => exact absurd ((ofLiteral_eq_ok_iff valid).1 hlead).1 unclosed
        | error found =>
            obtain ⟨kind', first, after, hfirst, preferred, rfl⟩ :=
              (ofLiteral_eq_error_iff valid).1 hlead
            have blocked : Blocked d place _ [] _ :=
              .literal unopened (.inr ⟨kind, List.prefix_append ..⟩) hfirst preferred
            rw [blocked.cutFrom_eq valid] at h
            cases h
            exact .inl ⟨_, blocked⟩

/-! ### All rounds -/

theorem Rounds.text_eq (h : Rounds d text done rest) : text = done ++ rest := by
  induction h with
  | nil => rfl
  | cons round _ ih => simp [round.text_eq, round.closed.text_eq, ih, Shape.source]

/-- **Cutting fails** just when a round fails and those before it do not. -/
theorem cutFrom_eq_error_iff (valid : d.AreNonempty) :
    cutFrom d place text = .error error ↔
      ∃ done rest before, Rounds d text done rest
        ∧ Blocked d (place.after done) rest before error := by
  constructor
  · intro h
    -- The rest behind a round is shorter than the text, so the induction is on the length.
    induction hsize : text.length using Nat.strongRecOn generalizing text place with
    | ind size ih =>
        rcases cutFrom_round valid h with ⟨before, blocked⟩ |
          ⟨before, kind, inside, raw, rest, round, hrest⟩
        · exact ⟨[], text, before, .nil, blocked⟩
        · obtain ⟨done, final, lead, rounds, blocked⟩ :=
            ih _ (hsize ▸ round.length_lt valid) hrest rfl
          refine ⟨_, final, lead, .cons round rounds, ?_⟩
          rwa [← List.append_assoc, Place.after_append]
  · intro h
    obtain ⟨done, rest, before, rounds, blocked⟩ := h
    induction rounds generalizing place with
    | nil => exact blocked.cutFrom_eq valid
    | @cons text lead kind inside raw next done rest round _ ih =>
        rw [cutFrom_of_round valid round, ih (by simpa using blocked)]
        rfl

/-! ### What stands before the failure -/

theorem unopened_mono {literal : Text} (h : d.Unopened literal rest) (hpart : part <+: rest) :
    d.Unopened literal part := by
  intro before after hliteral hne kind hopen
  refine h before after hliteral hne kind (hopen.trans ?_)
  exact (List.prefix_append_right_inj after).2 hpart

/-- A round is one of any part of the text that holds it. -/
theorem Round.cut (h : Round d text before kind inside raw rest) (hpart : part <+: rest) :
    Round d (before ++ (Shape.source d (.block kind raw) ++ part)) before kind
      (raw ++ d.closer kind ++ part) raw part where
  text_eq := by simp [Shape.source]
  unopened := by
    refine unopened_mono h.unopened ((List.prefix_append_right_inj _).2 ?_)
    rw [h.closed.text_eq]
    exact (List.prefix_append_right_inj _).2 hpart
  unclosed := h.unclosed
  opened same hopen := by
    refine h.opened same (hopen.trans ((List.prefix_append_right_inj _).2 ?_))
    rw [h.closed.text_eq]
    exact (List.prefix_append_right_inj _).2 hpart
  closed := by
    obtain ⟨more, rfl⟩ := hpart
    refine ⟨rfl, fun b a hba => h.closed.first b (a ++ more) ?_⟩
    rw [h.closed.text_eq, ← List.append_assoc, hba]
    simp

/-- The rounds of a text in front of a text that is cut are cut. -/
theorem Rounds.exists_cutting (valid : d.AreNonempty) (h : Rounds d text done rest)
    (hpart : part <+: rest) (cutting : Cutting d part shapes) :
    ∃ all, Cutting d (done ++ part) all := by
  induction h with
  | nil => exact ⟨shapes, cutting⟩
  | @cons text before kind inside raw next done rest round rounds ih =>
      obtain ⟨all, hall⟩ := ih hpart
      have hprefix : done ++ part <+: next := by
        rw [rounds.text_eq]
        exact (List.prefix_append_right_inj done).2 hpart
      rw [List.append_assoc, List.append_assoc]
      exact ⟨_, (cutting_iff valid).2 (.inr ⟨_, _, _, _, _, all, round.cut hprefix, hall, rfl⟩)⟩

/-- What stands in front of the failure is cut. -/
theorem Rounds.exists_cutting_of_blocked (valid : d.AreNonempty) (h : Rounds d text done rest)
    (blocked : Blocked d place rest before error) :
    ∃ shapes, Cutting d (done ++ before) shapes := by
  cases blocked with
  | literal => exact h.exists_cutting valid List.nil_prefix .nil
  | @block _ kind inside unopened unclosed opened endless =>
      have cutting : Cutting d before (literals before) :=
        (cutting_iff valid).2 (.inl ⟨unopened_mono unopened List.nil_prefix, unclosed, rfl⟩)
      exact h.exists_cutting valid (List.prefix_append ..) cutting

/-- The delimiter at fault stands in the text. -/
theorem Blocked.stands (h : Blocked d (Place.after {} done) rest before error) :
    Text.StandsAt error.token.value (done ++ rest) error.token.place := by
  cases h with
  | @literal literal rest before after kind unopened ends first preferred =>
      refine ⟨done ++ before, after ++ rest, ?_, (Place.after_append ..).symm⟩
      rw [first.text_eq]
      simp
  | @block _ kind inside unopened unclosed opened endless =>
      exact ⟨done ++ before, inside, by simp, (Place.after_append ..).symm⟩

end Segment

/-- The error points at the delimiter that is at fault: it stands in the text at its place, the
rounds before it are cut, and the next one fails because of it. What stands in front of the piece
that fails is a template without an error. -/
structure DelimiterError.IsIn (d : Delimiters) (text : Text) (error : DelimiterError) : Prop where
  stands : Text.StandsAt error.token.value text error.token.place
  fails : ∃ done rest before, Segment.Rounds d text done rest
    ∧ Segment.Blocked d (Place.after {} done) rest before error
    ∧ ∃ tokens, tokenize d (done ++ before) = .ok tokens

/-- **Tokenizing fails** just with the errors that the text has. -/
theorem tokenize_eq_error_iff {d : Delimiters} (valid : d.AreNonempty) {text : Text}
    {error : DelimiterError} : tokenize d text = .error error ↔ error.IsIn d text := by
  have hcut : tokenize d text = .error error ↔ Segment.cutFrom d {} text = .error error := by
    unfold tokenize Segment.cut
    cases Segment.cutFrom d {} text <;> simp [Except.map]
  rw [hcut, Segment.cutFrom_eq_error_iff valid]
  constructor
  · intro h
    obtain ⟨done, rest, before, rounds, blocked⟩ := h
    have reads := ((tokenize_iff_cutting valid (done ++ before)).2.1).2
      (rounds.exists_cutting_of_blocked valid blocked)
    exact ⟨rounds.text_eq ▸ blocked.stands, done, rest, before, rounds, blocked, reads⟩
  · intro h
    obtain ⟨done, rest, before, rounds, blocked, -⟩ := h.fails
    exact ⟨done, rest, before, rounds, blocked⟩

end Stencil
