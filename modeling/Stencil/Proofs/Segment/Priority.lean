import Stencil.Proofs.Segment.Cutting

/-!
# Which opener wins

Where the opening delimiters of both kinds stand at one place, an expression opens. `tokenizeFirst`
is tokenizing with this choice as a parameter: it is `tokenize` when expressions win
(`tokenizeFirst_expression`), and the choice makes no difference when at no place both openers stand
(`tokenizeFirst_eq`).
-/

namespace Stencil

/-- The other kind of block. -/
def BlockKind.other : BlockKind → BlockKind
  | expression => statement
  | statement => expression

/-- The kind of block that opens at the very start of a text, when `first` wins a tie. -/
def Delimiters.openedFirst? (d : Delimiters) (first : BlockKind) (text : Text) : Option BlockKind :=
  if (d.opener first).isPrefixOf text then some first
  else if (d.opener first.other).isPrefixOf text then some first.other
  else none

namespace Segment

/-! ### Cutting with a choice -/

/-- `nextBlock?`, when `first` wins a tie. -/
def nextBlockFirst? (d : Delimiters) (first : BlockKind) : Text → Option (Text × BlockKind × Text)
  | [] =>
      (d.openedFirst? first []).map fun kind => ([], kind, [])
  | c :: rest =>
      match d.openedFirst? first (c :: rest) with
      | some kind => some ([], kind, (c :: rest).drop (d.opener kind).length)
      | none => (nextBlockFirst? d first rest).map fun (before, found) => (c :: before, found)

/-- `cutFrom`, when `first` wins a tie. -/
def cutFromFirst (d : Delimiters) (first : BlockKind) (place : Place) (text : Text) :
    Except DelimiterError (List Segment) :=
  match nextBlockFirst? d first text with
  | none => ofLiteral d place text
  | some (before, kind, inside) =>
      match ofLiteral d place before with
      | .error error => .error error
      | .ok lead =>
          let start := place.after before
          match Text.splitAt? (d.closer kind) inside with
          | none => .error ⟨d.closer kind, ⟨.text, d.opener kind, start⟩⟩
          | some (raw, rest) =>
              if rest.length < text.length then
                let next := start.after (d.opener kind ++ raw ++ d.closer kind)
                match cutFromFirst d first next rest with
                | .error error => .error error
                | .ok more => .ok (lead ++ ⟨start, .block kind raw⟩ :: more)
              else .ok lead
  termination_by text.length

end Segment

/-- The tokens of a template, when `first` wins a tie. -/
def tokenizeFirst (d : Delimiters) (first : BlockKind) (text : Text) :
    Except DelimiterError (List Token) :=
  (Segment.cutFromFirst d first {} text).map (·.filterMap Segment.token?)

/-! ### The choice that makes no difference -/

variable {d : Delimiters} {first : BlockKind} {text : Text} {place : Place}

theorem Delimiters.openedFirst?_expression :
    d.openedFirst? .expression text = d.openedBy? text := rfl

/-- Of two openers that never stand at one place each wins where it stands. -/
theorem Delimiters.openedFirst?_statement
    (apart : ¬(d.expressionStart <+: text ∧ d.statementStart <+: text)) :
    d.openedFirst? .statement text = d.openedBy? text := by
  simp only [openedFirst?, openedBy?, opener, BlockKind.other, List.isPrefixOf_iff_prefix]
  by_cases expression : d.expressionStart <+: text
  · have statement : ¬d.statementStart <+: text := fun h => apart ⟨expression, h⟩
    rw [if_neg statement, if_pos expression, if_pos expression]
  · simp only [if_neg expression]

namespace Segment

/-- Where the priority decides nothing, the search for the next block is the same. -/
theorem nextBlockFirst?_eq (h : ∀ text, d.openedFirst? first text = d.openedBy? text) :
    nextBlockFirst? d first text = nextBlock? d text := by
  induction text with
  | nil => rw [nextBlockFirst?, nextBlock?, h]
  | cons c rest ih =>
      rewrite [nextBlockFirst?, nextBlock?, h, ih]
      cases d.openedBy? (c :: rest) <;> rfl

theorem cutFromFirst_eq (h : ∀ text, d.openedFirst? first text = d.openedBy? text) :
    cutFromFirst d first place text = cutFrom d place text := by
  -- Both go round by round, and the rest behind a round is shorter than the text.
  induction hsize : text.length using Nat.strongRecOn generalizing text place with
  | ind size ih =>
      rw [cutFromFirst, cutFrom, nextBlockFirst?_eq h]
      cases nextBlock? d text with
      | none => rfl
      | some found =>
          obtain ⟨before, kind, inside⟩ := found
          dsimp only
          cases ofLiteral d place before with
          | error error => rfl
          | ok lead =>
              dsimp only
              cases Text.splitAt? (d.closer kind) inside with
              | none => rfl
              | some split =>
                  dsimp only
                  by_cases shorter : split.2.length < text.length
                  · rewrite [if_pos shorter, if_pos shorter, ih _ (hsize ▸ shorter) rfl]
                    cases cutFrom d ((place.after before).after
                      (d.opener kind ++ split.1 ++ d.closer kind)) split.2 <;> rfl
                  · rw [if_neg shorter, if_neg shorter]

end Segment

/-- Expressions are what wins a tie in `tokenize`. -/
theorem tokenizeFirst_expression : tokenizeFirst d .expression text = tokenize d text := by
  rw [tokenizeFirst, Segment.cutFromFirst_eq fun _ => Delimiters.openedFirst?_expression]
  rfl

/-- **Without a tie the choice makes no difference**: statements may as well win. -/
theorem tokenizeFirst_eq (apart : ∀ text, ¬(d.expressionStart <+: text ∧ d.statementStart <+: text)) :
    tokenizeFirst d first text = tokenize d text := by
  cases first with
  | expression => exact tokenizeFirst_expression
  | statement =>
      rw [tokenizeFirst,
        Segment.cutFromFirst_eq fun text => Delimiters.openedFirst?_statement (apart text)]
      rfl

end Stencil
