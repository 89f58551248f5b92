import Stencil.Proofs.Block.Soundness

/-!
# Nesting of blocks

Assembling never looks at more than one open block, so that blocks of different families lie inside
one another has to be read off the bodies. Here it is said by one scan of the whole list of tokens,
from left to right, with a stack of the blocks that are open: an opening pushes a block, a closing
pops one of its own family, and a branch begins in a block of its own family on top.

There is one exception, which is what the tokens before the first branch of a `switch` are for: they
belong to the body of that branch. A block that is opened among them may be closed in that body, and
then the first branch begins below it. `Nesting.step` takes the exception as a parameter, so
`Nesting.scan false` is the scan that knows no exception. What is assembled passes the scan that does
(`isNested_of_assemble`).
-/

namespace Stencil

namespace Nesting

/-- A block that was opened and is not yet closed. -/
structure Opened where
  family : Family
  /-- Has a branch begun in it, other than the condition of a conditional? -/
  branched : Bool := false
  deriving Repr, DecidableEq

/-- The stack after a branch of the block on top. -/
def branchOnTop? (family : Family) : List Opened → Option (List Opened)
  | [] => none
  | top :: outer =>
      if top.family = family then some ({ top with branched := true } :: outer) else none

/-- The stack after the first branch of the innermost `switch`, whatever blocks are open in it. -/
def firstBranch? : List Opened → Option (List Opened)
  | [] => none
  | top :: outer =>
      if top.family = .switch then
        if top.branched then none else some ({ top with branched := true } :: outer)
      else (firstBranch? outer).map (top :: ·)

/-- The stack after a branch of a family. With `early`, the first branch of a `switch` may stand
inside of blocks that were opened in front of it. -/
def branch? (early : Bool) (family : Family) (stack : List Opened) : Option (List Opened) :=
  (branchOnTop? family stack).or
    (if early && family = .switch then firstBranch? stack else none)

/-- The stack after a token, if the token may stand there. -/
def step (early : Bool) (keywords : Keywords) (stack : List Opened) (token : Token) :
    Option (List Opened) :=
  match token.keyword? keywords with
  | none => some stack
  | some keyword =>
      match keyword.role, stack with
      | .opening, stack => some ({ family := keyword.family } :: stack)
      | .closing, top :: outer => if top.family = keyword.family then some outer else none
      | .closing, [] => none
      | .branch, stack | .lastBranch, stack => branch? early keyword.family stack

/-- The stack after a run of tokens. -/
def scan (early : Bool) (keywords : Keywords) (stack : List Opened) (tokens : List Token) :
    Option (List Opened) :=
  tokens.foldlM (step early keywords) stack

/-- The blocks of the tokens lie inside one another. -/
def IsNested (early : Bool) (keywords : Keywords) (tokens : List Token) : Prop :=
  scan early keywords [] tokens = some []

instance (early : Bool) (keywords : Keywords) (tokens : List Token) :
    Decidable (IsNested early keywords tokens) :=
  inferInstanceAs (Decidable (_ = _))

variable {early : Bool} {keywords : Keywords} {keyword : Keyword} {family : Family}
variable {token : Token} {tokens more : List Token} {stack after below : List Opened}

/-! ### Single tokens -/

theorem step_of_kind (kind : ∀ name, token.kind ≠ .statement name) :
    step early keywords stack token = some stack := by
  have : token.keyword? keywords = none := by
    unfold Token.keyword?
    split
    · rename_i name h
      exact absurd h (kind name)
    · rfl
  rw [step, this]

theorem step_opener (valid : keywords.fault? = none) (h : token.Spells keywords family.opener) :
    step early keywords stack token = some ({ family } :: stack) := by
  simp only [step, h.lookup? valid, Keyword.role_opener, Keyword.family_opener]

theorem step_closer (valid : keywords.fault? = none) (h : token.Spells keywords family.closer)
    {top : Opened} (own : top.family = family) :
    step early keywords (top :: stack) token = some stack := by
  simp only [step, h.lookup? valid, Keyword.role_closer, Keyword.family_closer, if_pos own]

theorem step_branch (valid : keywords.fault? = none) (h : token.Spells keywords keyword)
    (role : keyword.role = .branch ∨ keyword.role = .lastBranch) :
    step early keywords stack token = branch? early keyword.family stack := by
  rcases role with role | role <;> simp only [step, h.lookup? valid, role]

/-! ### Branches -/

/-- The branch of a conditional can only belong to the block on top. -/
theorem branchOnTop?_eq_some_iff :
    branchOnTop? family stack = some after ↔
      ∃ block outer, stack = block :: outer ∧ block.family = family
        ∧ after = { block with branched := true } :: outer := by
  cases stack with
  | nil => simp [branchOnTop?]
  | cons top outer =>
      simp only [branchOnTop?, Option.ite_none_right_eq_some, Option.some.injEq, List.cons.injEq]
      constructor
      · intro h
        obtain ⟨own, rfl⟩ := h
        exact ⟨top, outer, ⟨rfl, rfl⟩, own, rfl⟩
      · intro h
        obtain ⟨_, _, ⟨rfl, rfl⟩, own, rfl⟩ := h
        exact ⟨own, rfl⟩

/-- The first branch of a `switch` goes to the nearest open `switch`, whatever else has been opened
inside of it meanwhile, if that one has no branch so far. -/
theorem firstBranch?_eq_some_iff :
    firstBranch? stack = some after ↔
      ∃ inner block outer, stack = inner ++ block :: outer ∧ block.family = .switch
        ∧ block.branched = false ∧ (∀ other ∈ inner, other.family ≠ .switch)
        ∧ after = inner ++ { block with branched := true } :: outer := by
  induction stack generalizing after with
  | nil => simp [firstBranch?]
  | cons top below ih =>
      rw [firstBranch?]
      by_cases isSwitch : top.family = .switch
      · rw [if_pos isSwitch, Option.ite_none_left_eq_some, Option.some.injEq]
        constructor
        · intro h
          obtain ⟨fresh, rfl⟩ := h
          exact ⟨[], top, below, rfl, isSwitch, by simpa using fresh, by simp, rfl⟩
        · intro h
          obtain ⟨inner, block, outer, hstack, -, fresh, others, rfl⟩ := h
          cases inner with
          | nil =>
              cases hstack
              exact ⟨by simp [fresh], rfl⟩
          | cons first inner =>
              cases hstack
              exact absurd isSwitch (others _ (List.mem_cons_self ..))
      · rw [if_neg isSwitch, Option.map_eq_some_iff]
        constructor
        · intro h
          obtain ⟨rest, hrest, rfl⟩ := h
          obtain ⟨inner, block, outer, rfl, own, fresh, others, rfl⟩ := ih.1 hrest
          refine ⟨top :: inner, block, outer, rfl, own, fresh, ?_, rfl⟩
          exact List.forall_mem_cons.2 ⟨isSwitch, others⟩
        · intro h
          obtain ⟨inner, block, outer, hstack, own, fresh, others, rfl⟩ := h
          cases inner with
          | nil =>
              cases hstack
              exact absurd own isSwitch
          | cons first inner =>
              cases hstack
              have others := (List.forall_mem_cons.1 others).2
              exact ⟨_, ih.2 ⟨inner, block, outer, rfl, own, fresh, others, rfl⟩, rfl⟩

/-- **All that a branch can do**: it marks one block of its family, on top of the stack or, as the
first branch of a `switch`, below blocks of other families. -/
theorem branch?_eq_some_iff :
    branch? early family stack = some after ↔
      ∃ inner block outer, stack = inner ++ block :: outer ∧ block.family = family
        ∧ after = inner ++ { block with branched := true } :: outer
        ∧ (inner = [] ∨ early ∧ family = .switch ∧ block.branched = false
            ∧ ∀ other ∈ inner, other.family ≠ .switch) := by
  rw [branch?, Option.or_eq_some_iff, branchOnTop?_eq_some_iff]
  constructor
  · rintro (⟨block, outer, rfl, own, rfl⟩ | ⟨-, h⟩)
    · exact ⟨[], block, outer, rfl, own, rfl, .inl rfl⟩
    · rw [Option.ite_none_right_eq_some, Bool.and_eq_true, decide_eq_true_eq] at h
      obtain ⟨⟨hearly, rfl⟩, hfirst⟩ := h
      obtain ⟨inner, block, outer, rfl, own, fresh, others, rfl⟩ := firstBranch?_eq_some_iff.1 hfirst
      exact ⟨inner, block, outer, rfl, own, rfl, .inr ⟨hearly, rfl, fresh, others⟩⟩
  · rintro ⟨inner, block, outer, rfl, own, rfl, place⟩
    cases inner with
    | nil => exact .inl ⟨block, outer, rfl, own, rfl⟩
    | cons top inner =>
        obtain ⟨hearly, rfl, fresh, others⟩ := place.resolve_left (by simp)
        refine .inr ⟨?_, ?_⟩
        · exact if_neg (others top (by simp))
        · rw [if_pos (by simp [hearly])]
          exact firstBranch?_eq_some_iff.2 ⟨_, block, outer, rfl, own, fresh, others, rfl⟩

/-! ### Other blocks below -/

/-- What may happen on a stack may happen on top of other blocks, and leaves them as they are. -/
theorem step_append (h : step early keywords stack token = some after) :
    step early keywords (stack ++ below) token = some (after ++ below) := by
  rw [step] at h ⊢
  cases hkeyword : token.keyword? keywords with
  | none =>
      rw [hkeyword] at h
      cases h
      rfl
  | some keyword =>
      simp only [hkeyword] at h ⊢
      cases hrole : keyword.role with
      | opening =>
          simp only [hrole, Option.some.injEq] at h
          subst h
          rfl
      | closing =>
          cases stack with
          | nil => simp [hrole] at h
          | cons top outer =>
              simp only [hrole, Option.ite_none_right_eq_some, Option.some.injEq] at h
              obtain ⟨own, rfl⟩ := h
              exact if_pos own
      | branch | lastBranch =>
          simp only [hrole] at h ⊢
          obtain ⟨inner, block, outer, rfl, own, rfl, place⟩ := branch?_eq_some_iff.1 h
          refine branch?_eq_some_iff.2 ⟨inner, block, outer ++ below, ?_, own, ?_, place⟩ <;> simp

theorem scan_cons :
    scan early keywords stack (token :: tokens) =
      (step early keywords stack token).bind fun next => scan early keywords next tokens :=
  List.foldlM_cons ..

theorem scan_append :
    scan early keywords stack (tokens ++ more) =
      (scan early keywords stack tokens).bind fun mid => scan early keywords mid more :=
  List.foldlM_append ..

/-- What lies deeper in the stack than a scan gets has no part in it. The converse does not hold, as
a branch may look for its block through the whole stack. -/
theorem scan_below (h : scan early keywords stack tokens = some after) (below : List Opened) :
    scan early keywords (stack ++ below) tokens = some (after ++ below) := by
  induction tokens generalizing stack with
  | nil =>
      cases h
      rfl
  | cons token rest ih =>
      rw [scan_cons] at h ⊢
      obtain ⟨next, hnext, hrest⟩ := Option.bind_eq_some_iff.1 h
      rw [step_append hnext, Option.bind_some, ih hrest]

/-- Nested tokens leave every stack as it is. -/
theorem IsNested.scan_eq (h : IsNested early keywords tokens) (stack : List Opened) :
    scan early keywords stack tokens = some stack :=
  scan_below h stack

/-! ### Stacks and depths -/

/-- The number of open blocks of a family. -/
def depth (family : Family) (stack : List Opened) : Nat :=
  stack.countP (·.family = family)

/-- The stack has as many blocks of a family as the depth of the family counts. -/
theorem depthStep_of_step (h : step early keywords stack token = some after) :
    family.depthStep keywords (depth family stack) token = some (depth family after) := by
  rw [step] at h
  cases hkeyword : token.keyword? keywords with
  | none =>
      have role : token.role? keywords family = none := by rw [Token.role?, hkeyword]; rfl
      rw [hkeyword] at h
      cases h
      rw [Family.depthStep, role]
  | some keyword =>
      have role : token.role? keywords family =
          if keyword.family = family then some keyword.role else none := by
        by_cases same : keyword.family = family <;> simp [Token.role?, hkeyword, same]
      simp only [hkeyword] at h
      cases hrole : keyword.role with
      | opening =>
          simp only [hrole, Option.some.injEq] at h
          subst h
          by_cases same : keyword.family = family <;>
            simp [Family.depthStep, role, hrole, same, depth]
      | closing =>
          cases stack with
          | nil => simp [hrole] at h
          | cons top outer =>
              simp only [hrole, Option.ite_none_right_eq_some, Option.some.injEq] at h
              obtain ⟨own, rfl⟩ := h
              by_cases same : keyword.family = family <;>
                simp [Family.depthStep, role, hrole, same, depth, own]
      | branch | lastBranch =>
          simp only [hrole] at h
          obtain ⟨_, _, _, rfl, own, rfl, -⟩ := branch?_eq_some_iff.1 h
          by_cases same : keyword.family = family <;>
            simp [Family.depthStep, role, hrole, same, depth, own]

/-- The depth that the assembler counts for one family is the number of its blocks in the stack. -/
theorem depthAfter_of_scan (h : scan early keywords stack tokens = some after) :
    family.depthAfter keywords (depth family stack) tokens = some (depth family after) := by
  induction tokens generalizing stack with
  | nil =>
      cases h
      rfl
  | cons token rest ih =>
      rw [scan_cons] at h
      obtain ⟨next, hnext, hrest⟩ := Option.bind_eq_some_iff.1 h
      rw [Family.depthAfter_cons, depthStep_of_step hnext, Option.bind_some, ih hrest]

/-! ### Blocks -/

theorem IsNested.leaf (kind : ∀ name, token.kind ≠ .statement name)
    (h : IsNested early keywords tokens) : IsNested early keywords (token :: tokens) := by
  rw [IsNested, scan_cons, step_of_kind kind, Option.bind_some]
  exact h

/-- The tokens can stand in a block of the family, whether or not a branch of it has begun. -/
def IsInner (early : Bool) (keywords : Keywords) (family : Family) (tokens : List Token) : Prop :=
  ∀ branched outer, ∃ later,
    scan early keywords (⟨family, branched⟩ :: outer) tokens = some (⟨family, later⟩ :: outer)

/-- Nested tokens may stand in the body of any block. -/
theorem IsNested.isInner (h : IsNested early keywords tokens) :
    IsInner early keywords family tokens :=
  fun branched _ => ⟨branched, h.scan_eq _⟩

theorem IsInner.append (h : IsInner early keywords family tokens)
    (h' : IsInner early keywords family more) : IsInner early keywords family (tokens ++ more) := by
  intro branched outer
  obtain ⟨mid, hmid⟩ := h branched outer
  obtain ⟨later, hlater⟩ := h' mid outer
  exact ⟨later, by rw [scan_append, hmid, Option.bind_some, hlater]⟩

/-- A branch of the block around, and what follows it up to the next one. -/
theorem IsInner.branch (valid : keywords.fault? = none) (h : token.Spells keywords keyword)
    (role : keyword.role = .branch ∨ keyword.role = .lastBranch)
    (inner : IsNested early keywords tokens) :
    IsInner early keywords keyword.family (token :: tokens) := by
  intro branched outer
  have begins : step early keywords (⟨keyword.family, branched⟩ :: outer) token =
      some (⟨keyword.family, true⟩ :: outer) := by
    rw [step_branch valid h role, branch?_eq_some_iff]
    exact ⟨[], _, outer, rfl, rfl, rfl, .inl rfl⟩
  exact ⟨true, by rw [scan_cons, begins, Option.bind_some, inner.scan_eq]⟩

/-- One block and what follows it. All that is asked of the inside is that the block is on top of
the stack again at the end, with or without a branch. -/
theorem IsNested.block (valid : keywords.fault? = none) (family : Family) {opener closer : Token}
    (opens : opener.Spells keywords family.opener)
    (inner : ∀ outer, ∃ later,
      scan early keywords (⟨family, false⟩ :: outer) tokens = some (⟨family, later⟩ :: outer))
    (closes : closer.Spells keywords family.closer) (rest : IsNested early keywords more) :
    IsNested early keywords (opener :: tokens ++ closer :: more) := by
  obtain ⟨later, hlater⟩ := inner []
  rw [IsNested, List.cons_append, scan_cons, step_opener valid opens, Option.bind_some, scan_append,
    hlater, Option.bind_some, scan_cons, step_closer valid closes rfl, Option.bind_some]
  exact rest

/-- The first branch of a `switch` begins among nested tokens, where every inner `switch` is closed.
The blocks that are open there are closed behind it. -/
theorem scan_firstBranch (valid : keywords.fault? = none) (h : token.Spells keywords keyword)
    (role : keyword.role = .branch ∨ keyword.role = .lastBranch) (own : keyword.family = .switch)
    (closed : Family.switch.IsClosed keywords tokens)
    (whole : IsNested true keywords (tokens ++ more)) (outer : List Opened) :
    scan true keywords (⟨.switch, false⟩ :: outer) (tokens ++ token :: more) =
      some (⟨.switch, true⟩ :: outer) := by
  rw [IsNested, scan_append] at whole
  obtain ⟨inner, hbefore, hafter⟩ := Option.bind_eq_some_iff.1 whole
  -- The depth of the family is zero in front of the branch, so no `switch` is among the open blocks.
  have others : ∀ other ∈ inner, other.family ≠ .switch := by
    have hdepth : Family.switch.depthAfter keywords (depth .switch []) tokens =
        some (depth .switch inner) := depthAfter_of_scan hbefore
    rw [depth, List.countP_nil, closed, Option.some.injEq] at hdepth
    simpa [depth, List.countP_eq_zero] using hdepth.symm
  have begins : step true keywords (inner ++ ⟨.switch, false⟩ :: outer) token =
      some (inner ++ ⟨.switch, true⟩ :: outer) := by
    rw [step_branch valid h role, own, branch?_eq_some_iff]
    exact ⟨inner, _, outer, rfl, rfl, rfl, .inr ⟨rfl, rfl, rfl, others⟩⟩
  have hbefore := scan_below hbefore (⟨.switch, false⟩ :: outer)
  have hafter := scan_below hafter (⟨.switch, true⟩ :: outer)
  rw [List.nil_append] at hbefore hafter
  rw [scan_append, hbefore, Option.bind_some, scan_cons, begins, Option.bind_some, hafter]

/-! ### Trees -/

/-- How a run that is read as a phrase passes the scan: items leave an empty stack empty, and
branches can stand in a block of the family of their statement. -/
def Passes (keywords : Keywords) (tokens : List Token) : Phrase → Prop
  | .items _ => IsNested true keywords tokens
  | .branches keyword _ | .last keyword _ =>
      keyword.role = .branch ∨ keyword.role = .lastBranch →
        IsInner true keywords keyword.family tokens

/-- The induction is on the derivation. A body that a `switch` shares with the tokens before its
first branch is nested as a whole, so the stack at the branch is known from its first part. -/
theorem passes_of_derives (valid : keywords.fault? = none) {phrase : Phrase}
    (h : Derives keywords tokens phrase) : Passes keywords tokens phrase := by
  induction h with
  | nil => exact rfl
  | text kind _ more => exact IsNested.leaf (by simp [kind]) more
  | expression kind _ more => exact IsNested.leaf (by simp [kind]) more
  | conditional opens _ _ _ closes _ first middle tail more =>
      have inner := (first.isInner.append (middle (by simp [Keyword.role]))).append
        (tail (by simp [Keyword.role]))
      exact IsNested.block valid .conditional opens (inner false) closes more
  | iteration opens _ _ closes _ body more =>
      exact IsNested.block valid .iteration opens (body.isInner false) closes more
  | switch opens _ closes _ body more =>
      exact IsNested.block valid .switch opens (body.isInner false) closes more
  | switchDefault opens closed begins _ closes _ body more =>
      have inner := scan_firstBranch valid begins (.inr rfl) rfl closed body
      exact IsNested.block valid .switch opens (fun _ => ⟨true, inner _⟩) closes more
  | switchCases opens closed begins _ _ _ closes _ body middle tail more =>
      refine IsNested.block valid .switch opens (fun outer => ?_) closes more
      have first := scan_firstBranch valid begins (.inl rfl) rfl closed body outer
      -- The first `case` has begun a branch, so all later ones belong to a block that is on top.
      obtain ⟨later, hlater⟩ : ∃ later, scan true keywords (⟨.switch, true⟩ :: outer) (_ ++ _) =
          some (⟨.switch, later⟩ :: outer) :=
        ((middle (by simp [Keyword.role])).append (tail (by simp [Keyword.role]))) true outer
      exact ⟨later, by rw [List.append_assoc, scan_append, first, Option.bind_some, hlater]⟩
  | noBranch => exact fun _ => IsNested.isInner rfl
  | branch begins _ _ body others =>
      exact fun role => (IsInner.branch valid begins role body).append (others role)
  | noLast => exact fun _ => IsNested.isInner rfl
  | last begins _ body => exact fun role => IsInner.branch valid begins role body

end Nesting

/-- **Blocks are nested** in all that is assembled: one scan with a stack finds every closing and
every branch in a block of its own family, on top of the stack, but for the first branch of a
`switch`, which may begin inside of blocks that were opened behind the `switch`. -/
theorem isNested_of_assemble {keywords : Keywords} (valid : keywords.fault? = none)
    {tokens : List Token} {nodes : List Node} (h : assemble keywords tokens = .ok nodes) :
    Nesting.IsNested true keywords tokens :=
  Nesting.passes_of_derives valid (derives_of_assemble valid h)

/-- A block in one branch, with a `switch` in it whose first case follows a whole block. -/
theorem isNested_of_assemble_inner :
    ({} : Keywords).fault? = none ∧
      Nesting.IsNested true {}
        [⟨.statement Keyword.if_.label, ['y'], {}⟩, ⟨.statement Keyword.switch.label, ['x'], {}⟩,
          ⟨.statement Keyword.foreach.label, "i in x".toList, {}⟩,
          ⟨.statement Keyword.endforeach.label, [], {}⟩,
          ⟨.statement Keyword.case.label, ['1'], {}⟩, ⟨.text, ['z'], {}⟩,
          ⟨.statement Keyword.endswitch.label, [], {}⟩, ⟨.statement Keyword.endif.label, [], {}⟩] :=
  ⟨by decide, isNested_of_assemble (by decide) rfl⟩

/-- A conditional that is opened before the first case of a `switch` and closed in it. -/
def Nesting.crossing : List Token :=
  [⟨.statement Keyword.switch.label, ['x'], {}⟩, ⟨.statement Keyword.if_.label, ['y'], {}⟩,
    ⟨.statement Keyword.case.label, ['1'], {}⟩, ⟨.text, ['z'], {}⟩,
    ⟨.statement Keyword.endif.label, [], {}⟩, ⟨.statement Keyword.endswitch.label, [], {}⟩]

/-- The exception is needed: the tokens are assembled, and the scan without it refuses them. -/
theorem Nesting.not_isNested_crossing :
    ({} : Keywords).fault? = none ∧
      assemble {} crossing =
        .ok [.switch (Script.prepare ['x'])
          [(Script.prepare ['1'],
            [.conditional [(Script.prepare ['y'], [.text ['z']])] none])] none] ∧
      ¬ IsNested false {} crossing :=
  ⟨by decide, rfl, by decide⟩

end Stencil
