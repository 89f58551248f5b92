import Stencil.Proofs.Segment.Cutting
import Stencil.Proofs.Sequence

/-!
# The cutting is found

`Segment.cutFrom` goes round by round: a literal, which may be empty, and the block behind it. A
cutting has the same rounds (`cutting_iff`), and the search for the next block, for a closing
delimiter in a literal and for the end of a block decide each of them. So a template has one cutting
at most, and it is found when there is one (`cutFrom_eq_ok_iff`).
-/

namespace Stencil

namespace Segment

variable {d : Delimiters} {text rest inside before : Text} {shapes more : List Shape}
variable {kind : BlockKind} {place : Place} {segments : List Segment}

/-! ### The next block -/

theorem nextBlock?_of_openedBy? (h : d.openedBy? (d.opener kind ++ inside) = some kind) :
    nextBlock? d (d.opener kind ++ inside) = some ([], kind, inside) := by
  have hdrop : (d.opener kind ++ inside).drop (d.opener kind).length = inside := List.drop_left
  cases htext : d.opener kind ++ inside with
  | nil =>
      rw [htext] at h
      rw [nextBlock?, h, Option.map_some, (List.append_eq_nil_iff.1 htext).2]
  | cons c text =>
      rw [htext] at h hdrop
      simp only [nextBlock?, h, hdrop]

theorem nextBlock?_of_none {c : Char} (h : d.openedBy? (c :: text) = none) :
    nextBlock? d (c :: text) =
      (nextBlock? d text).map fun (before, found) => (c :: before, found) := by
  simp only [nextBlock?, h]

theorem openedBy?_nil (valid : d.AreNonempty) : d.openedBy? [] = none :=
  Delimiters.openedBy?_eq_none_iff.2 fun kind h => (valid kind).1 (List.prefix_nil.1 h)

/-- There is no block if and only if no opener stands anywhere in the text. -/
theorem nextBlock?_eq_none_iff (valid : d.AreNonempty) :
    nextBlock? d text = none ↔ d.Unopened text [] := by
  induction text with
  | nil => simpa [nextBlock?, openedBy?_nil valid] using Delimiters.unopened_nil
  | cons c text ih =>
      rw [Delimiters.unopened_cons, List.append_nil, ← ih, nextBlock?]
      cases d.openedBy? (c :: text) <;> simp

/-- **The next block** opens behind a literal in which no block opens. -/
theorem nextBlock?_eq_some_iff (valid : d.AreNonempty) :
    nextBlock? d text = some (before, kind, inside) ↔
      text = before ++ (d.opener kind ++ inside) ∧ d.Unopened before (d.opener kind ++ inside)
        ∧ (kind = .statement → ¬d.expressionStart <+: d.statementStart ++ inside) := by
  constructor
  · intro h
    induction text generalizing before with
    | nil => simp [nextBlock?, openedBy?_nil valid] at h
    | cons c text ih =>
        -- The search goes character by character, and so does `Unopened`.
        cases hopen : d.openedBy? (c :: text) with
        | none =>
            rw [nextBlock?_of_none hopen] at h
            obtain ⟨⟨before, found⟩, hfound, heq⟩ := Option.map_eq_some_iff.1 h
            cases heq
            obtain ⟨rfl, unopened, opened⟩ := ih hfound
            exact ⟨rfl, Delimiters.unopened_cons.2 ⟨hopen, unopened⟩, opened⟩
        | some found =>
            obtain ⟨⟨tail, htail⟩, opened⟩ := Delimiters.openedBy?_eq_some_iff.1 hopen
            rw [← htail] at h hopen opened ⊢
            rw [nextBlock?_of_openedBy? hopen] at h
            cases h
            refine ⟨rfl, Delimiters.unopened_nil, ?_⟩
            rintro rfl
            exact opened rfl
  · intro h
    obtain ⟨rfl, unopened, opened⟩ := h
    induction before with
    | nil =>
        refine nextBlock?_of_openedBy? (Delimiters.openedBy?_eq_some_iff.2 ⟨⟨inside, rfl⟩, ?_⟩)
        rintro rfl
        exact opened rfl
    | cons c before ih =>
        obtain ⟨hopen, unopened⟩ := Delimiters.unopened_cons.1 unopened
        rw [List.cons_append, nextBlock?_of_none hopen, ih unopened]
        rfl

/-! ### Literals and places -/

/-- The cutting of a text in which no block opens. -/
def literals (text : Text) : List Shape :=
  if text.isEmpty then [] else [.literal text]

/-- The segments of a cutting of a text that begins at `place`. -/
def placed (d : Delimiters) : Place → List Shape → List Segment
  | _, [] => []
  | place, shape :: shapes => ⟨place, shape⟩ :: placed d (place.after (shape.source d)) shapes

@[simp] theorem literals_nil : literals [] = [] := rfl

theorem literals_of_ne_nil (h : text ≠ []) : literals text = [.literal text] := by
  simp [literals, h]

@[simp] theorem flatMap_source_literals : (literals text).flatMap (Shape.source d) = text := by
  cases text <;> simp [literals, Shape.source]

theorem placed_append :
    placed d place (shapes ++ more) =
      placed d place shapes ++ placed d (place.after (shapes.flatMap (Shape.source d))) more := by
  induction shapes generalizing place with
  | nil => rfl
  | cons shape shapes ih => simp [placed, ih]

@[simp] theorem map_shape_placed : (placed d place shapes).map Segment.shape = shapes := by
  induction shapes generalizing place with
  | nil => rfl
  | cons shape shapes ih => simp [placed, ih]

theorem strayCloser?_eq_none_iff :
    strayCloser? d place text kind = none ↔ ¬d.closer kind <:+: text := by
  rw [strayCloser?, Option.map_eq_none_iff, Text.splitAt?_eq_none_iff]

theorem unclosed_iff :
    d.Unclosed text ↔ strayCloser? d place text .expression = none
      ∧ strayCloser? d place text .statement = none := by
  rw [strayCloser?_eq_none_iff, strayCloser?_eq_none_iff]
  constructor
  · exact fun h => ⟨h .expression, h .statement⟩
  · rintro ⟨expression, statement⟩ kind
    cases kind with
    | expression => exact expression
    | statement => exact statement

/-- A literal is one segment, unless a closing delimiter stands in it. -/
theorem ofLiteral_eq_ok_iff (valid : d.AreNonempty) :
    ofLiteral d place text = .ok segments ↔
      d.Unclosed text ∧ segments = placed d place (literals text) := by
  by_cases hempty : text = []
  · subst hempty
    simp [ofLiteral, placed, Delimiters.unclosed_nil valid, eq_comm]
  · rw [unclosed_iff, literals_of_ne_nil hempty, ofLiteral, if_neg (by simpa using hempty)]
    cases strayCloser? d place text .expression with
    | some error => simp
    | none =>
        cases strayCloser? d place text .statement with
        | some error => simp
        | none => simp [placed, eq_comm]

/-! ### Rounds -/

/-- A block after a literal that may be empty, and the rest of the text behind it. -/
structure Round (d : Delimiters) (text before : Text) (kind : BlockKind) (inside raw rest : Text) :
    Prop where
  text_eq : text = before ++ (d.opener kind ++ inside)
  unopened : d.Unopened before (d.opener kind ++ inside)
  unclosed : d.Unclosed before
  opened : kind = .statement → ¬d.expressionStart <+: d.statementStart ++ inside
  closed : Text.FirstCut (d.closer kind) inside raw rest

/-- Every round uses up some text, since delimiters are not empty. -/
theorem Round.length_lt (valid : d.AreNonempty) {raw : Text}
    (h : Round d text before kind inside raw rest) : rest.length < text.length := by
  have := List.length_pos_iff.2 (valid kind).1
  rw [h.text_eq, h.closed.text_eq]
  simp only [List.length_append]
  omega

/-- A cutting is one literal, or a round and a cutting of the rest. -/
theorem cutting_iff (valid : d.AreNonempty) :
    Cutting d text shapes ↔
      (d.Unopened text [] ∧ d.Unclosed text ∧ shapes = literals text)
      ∨ ∃ before kind inside raw rest more, Round d text before kind inside raw rest
          ∧ Cutting d rest more ∧ shapes = literals before ++ .block kind raw :: more := by
  constructor
  · intro h
    cases h with
    | nil => exact .inl ⟨Delimiters.unopened_nil, Delimiters.unclosed_nil valid, rfl⟩
    | @block kind raw inside rest more opened closed hmore =>
        have round : Round d (d.opener kind ++ inside) [] kind inside raw rest :=
          ⟨rfl, Delimiters.unopened_nil, Delimiters.unclosed_nil valid, opened, closed⟩
        exact .inr ⟨[], kind, inside, raw, rest, more, round, hmore, rfl⟩
    | @literal text rest shapes ne unopened unclosed apart hmore =>
        rw [← List.singleton_append, ← literals_of_ne_nil ne]
        cases hmore with
        | nil =>
            rw [List.append_nil, List.append_nil]
            exact .inl ⟨unopened, unclosed, rfl⟩
        -- Two literals never stand side by side.
        | literal => exact absurd rfl (apart _)
        | @block kind raw inside rest more opened closed hmore =>
            have round : Round d (text ++ (d.opener kind ++ inside)) text kind inside raw rest :=
              ⟨rfl, unopened, unclosed, opened, closed⟩
            exact .inr ⟨text, kind, inside, raw, rest, more, round, hmore, rfl⟩
  · rintro (⟨unopened, unclosed, rfl⟩ | ⟨before, kind, inside, raw, rest, more, round, hmore, rfl⟩)
    · by_cases hempty : text = []
      · subst hempty
        exact .nil
      · rw [literals_of_ne_nil hempty]
        have := Cutting.literal hempty unopened unclosed (by simp) .nil
        rwa [List.append_nil] at this
    · obtain ⟨rfl, unopened, unclosed, opened, closed⟩ := round
      have block := Cutting.block opened closed hmore
      by_cases hempty : before = []
      · subst hempty
        exact block
      · rw [literals_of_ne_nil hempty]
        exact .literal hempty unopened unclosed (by simp) block

/-! ### The cutting -/

/-- Without a block the rest of the text is one literal. -/
theorem cutFrom_of_none (h : nextBlock? d text = none) :
    cutFrom d place text = ofLiteral d place text := by
  rw [cutFrom, h]

/-- A cutting that is found goes on behind a round. -/
theorem exists_round (valid : d.AreNonempty) (h : nextBlock? d text = some (before, kind, inside))
    (found : cutFrom d place text = .ok segments) :
    ∃ raw rest, Round d text before kind inside raw rest := by
  obtain ⟨htext, unopened, opened⟩ := (nextBlock?_eq_some_iff valid).1 h
  rw [cutFrom, h] at found
  dsimp only at found
  cases hlead : ofLiteral d place before with
  | error error =>
      rw [hlead] at found
      cases found
  | ok lead =>
      rw [hlead] at found
      cases hclose : Text.splitAt? (d.closer kind) inside with
      | none =>
          rw [hclose] at found
          cases found
      | some split =>
          exact ⟨split.1, split.2, htext, unopened, ((ofLiteral_eq_ok_iff valid).1 hlead).1, opened,
            Text.splitAt?_eq_some_iff.1 hclose⟩

/-- One round, and then the rest. -/
theorem cutFrom_of_round (valid : d.AreNonempty) {raw : Text}
    (round : Round d text before kind inside raw rest) :
    cutFrom d place text =
      (placed d place (literals before) ++ ⟨place.after before, .block kind raw⟩ :: ·) <$>
        cutFrom d ((place.after before).after (Shape.source d (.block kind raw))) rest := by
  have hnext := (nextBlock?_eq_some_iff valid).2 ⟨round.text_eq, round.unopened, round.opened⟩
  have hlead : ofLiteral d place before = .ok (placed d place (literals before)) :=
    (ofLiteral_eq_ok_iff valid).2 ⟨round.unclosed, rfl⟩
  rw [cutFrom, hnext]
  dsimp only
  rw [hlead, Text.splitAt?_eq_some_iff.2 round.closed]
  dsimp only
  rw [if_pos (round.length_lt valid), Shape.source]
  cases cutFrom d ((place.after before).after (d.opener kind ++ raw ++ d.closer kind)) rest <;> rfl

theorem cutFrom_of_some (valid : d.AreNonempty)
    (h : nextBlock? d text = some (before, kind, inside)) :
    cutFrom d place text = .ok segments ↔
      ∃ raw rest more, Round d text before kind inside raw rest
        ∧ cutFrom d ((place.after before).after (Shape.source d (.block kind raw))) rest = .ok more
        ∧ segments = placed d place (literals before)
            ++ ⟨place.after before, .block kind raw⟩ :: more := by
  constructor
  · intro found
    obtain ⟨raw, rest, round⟩ := exists_round valid h found
    rw [cutFrom_of_round valid round, map_eq_ok_iff] at found
    obtain ⟨more, hmore, rfl⟩ := found
    exact ⟨raw, rest, more, round, hmore, rfl⟩
  · intro h
    obtain ⟨raw, rest, more, round, hmore, rfl⟩ := h
    rw [cutFrom_of_round valid round, hmore]
    rfl

theorem placed_round {raw : Text} :
    placed d place (literals before ++ .block kind raw :: more) =
      placed d place (literals before) ++ ⟨place.after before, .block kind raw⟩ ::
        placed d ((place.after before).after (Shape.source d (.block kind raw))) more := by
  rw [placed_append, flatMap_source_literals, placed]

/-- **A cutting is found** just when there is one. -/
theorem cutFrom_eq_ok_iff (valid : d.AreNonempty) :
    cutFrom d place text = .ok segments ↔
      ∃ shapes, Cutting d text shapes ∧ segments = placed d place shapes := by
  -- The rest behind a round is shorter than the text, so the induction is on the length.
  induction hsize : text.length using Nat.strongRecOn generalizing text place segments with
  | ind size ih =>
      cases hnext : nextBlock? d text with
      | none =>
          have unopened := (nextBlock?_eq_none_iff valid).1 hnext
          rw [cutFrom_of_none hnext, ofLiteral_eq_ok_iff valid]
          constructor
          · intro h
            obtain ⟨unclosed, rfl⟩ := h
            exact ⟨_, (cutting_iff valid).2 (.inl ⟨unopened, unclosed, rfl⟩), rfl⟩
          · intro h
            obtain ⟨shapes, hshapes, rfl⟩ := h
            rcases (cutting_iff valid).1 hshapes with ⟨-, unclosed, rfl⟩ |
              ⟨before, kind, inside, raw, rest, more, round, -⟩
            · exact ⟨unclosed, rfl⟩
            · rw [(nextBlock?_eq_some_iff valid).2 ⟨round.text_eq, round.unopened, round.opened⟩]
                at hnext
              cases hnext
      | some found =>
          obtain ⟨before, kind, inside⟩ := found
          rw [cutFrom_of_some valid hnext]
          constructor
          · intro h
            obtain ⟨raw, rest, more, round, hmore, rfl⟩ := h
            have hlt := round.length_lt valid
            obtain ⟨shapes, hshapes, rfl⟩ := (ih _ (hsize ▸ hlt) rfl).1 hmore
            refine ⟨literals before ++ .block kind raw :: shapes, ?_, placed_round.symm⟩
            exact (cutting_iff valid).2
              (.inr ⟨before, kind, inside, raw, rest, shapes, round, hshapes, rfl⟩)
          · intro h
            obtain ⟨shapes, hshapes, rfl⟩ := h
            rcases (cutting_iff valid).1 hshapes with ⟨unopened, -, -⟩ |
              ⟨before', kind', inside', raw, rest, more, round, hmore, rfl⟩
            · rw [(nextBlock?_eq_none_iff valid).2 unopened] at hnext
              cases hnext
            · rw [(nextBlock?_eq_some_iff valid).2 ⟨round.text_eq, round.unopened, round.opened⟩]
                at hnext
              cases hnext
              have hlt := round.length_lt valid
              exact ⟨raw, rest, _, round, (ih _ (hsize ▸ hlt) rfl).2 ⟨more, hmore, rfl⟩,
                placed_round⟩

/-- A text has one cutting at most. -/
theorem Cutting.unique (valid : d.AreNonempty) (h : Cutting d text shapes)
    (h' : Cutting d text more) : shapes = more := by
  have hfound : cut d text = .ok (placed d {} shapes) :=
    (cutFrom_eq_ok_iff valid).2 ⟨shapes, h, rfl⟩
  have hfound' : cut d text = .ok (placed d {} more) :=
    (cutFrom_eq_ok_iff valid).2 ⟨more, h', rfl⟩
  rw [hfound, Except.ok.injEq] at hfound'
  have := congrArg (List.map Segment.shape) hfound'
  simpa using this

end Segment

end Stencil
