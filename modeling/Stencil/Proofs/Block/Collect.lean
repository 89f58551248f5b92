import Stencil.Proofs.Block.Levels

/-!
# What an open block has collected

`OpenBlock.Collects keywords block tokens` is the invariant of assembling inside of a block: `tokens`
are what has been read since the opening of the block, the opening included, and `block` holds all
of them. A token that is kept and a token that begins a branch both preserve it (`Collects.keep`,
`Collects.enterBranch`).

`Collects.layout` reads the tokens back from the block. They are the opening, the *lead* before the
first branch statement, and the *runs* that the branch statements begin. The lead is the body of the
first branch of a conditional, and in a `switch` it stands at the front of the first branch's body;
`OpenBlock.attach` says this once for all families.
-/

namespace Stencil

/-- The tokens of runs, each after the statement that begins it. -/
def spread (runs : List (Token × List Token)) : List Token :=
  runs.flatMap fun run => run.1 :: run.2

@[simp] theorem spread_nil : spread [] = [] := rfl

@[simp] theorem spread_cons (run : Token × List Token) (runs : List (Token × List Token)) :
    spread (run :: runs) = run.1 :: run.2 ++ spread runs :=
  List.flatMap_cons ..

@[simp] theorem spread_append (runs more : List (Token × List Token)) :
    spread (runs ++ more) = spread runs ++ spread more :=
  List.flatMap_append ..

/-- The statement begins a branch of a family, in the role `role`. -/
def Token.Begins (keywords : Keywords) (family : Family) (role : Role) (token : Token) : Prop :=
  ∃ keyword, keyword.family = family ∧ keyword.role = role ∧ token.Spells keywords keyword

namespace OpenBlock

/-- The branches of a block whose opening is followed by `lead` and the runs of its branch
statements. -/
def attach (opener : Token) (lead : List Token) :
    Family → List (Token × List Token) → List (Token × List Token)
  | .conditional, runs => (opener, lead) :: runs
  | _, [] => []
  | _, run :: more => (run.1, lead ++ run.2) :: more

/-- A block that has read `lead` after its opening and no branch statement. -/
def leading (family : Family) (opener : Token) (lead : List Token) (depth : Nat) : OpenBlock :=
  { start family opener with body := lead, depth }

/-- A block that has read `inner` after the statement of a further branch. -/
def inBranch (block : OpenBlock) (token : Token) (inner : List Token) (depth : Nat) : OpenBlock :=
  { block.enterBranch token with body := (block.enterBranch token).body ++ inner, depth }

/-- The tokens since the opening of a block, and the block that holds them. -/
inductive Collects (keywords : Keywords) : OpenBlock → List Token → Prop
  | leading {family opener lead depth} (opens : opener.Spells keywords family.opener)
      (inside : family.depthAfter keywords 0 lead = some depth) :
      Collects keywords (leading family opener lead (depth + 1)) (opener :: lead)
  | inBranch {block tokens token inner role depth} (before : Collects keywords block tokens)
      (outer : block.depth = 1) (open_ : ¬block.IsLast keywords)
      (begins : token.Begins keywords block.family role)
      (isBranch : role = .branch ∨ role = .lastBranch)
      (inside : block.family.depthAfter keywords 0 inner = some depth) :
      Collects keywords (block.inBranch token inner (depth + 1)) (tokens ++ token :: inner)

variable {keywords : Keywords} {block : OpenBlock} {tokens lead inner : List Token} {token : Token}
variable {family : Family} {opener : Token} {depth next : Nat} {role : Role}

@[simp] theorem family_enterBranch : (block.enterBranch token).family = block.family := by
  unfold enterBranch finishBranch
  cases block.branch <;> rfl

@[simp] theorem depth_enterBranch : (block.enterBranch token).depth = block.depth := by
  unfold enterBranch finishBranch
  cases block.branch <;> rfl

@[simp] theorem branch_enterBranch : (block.enterBranch token).branch = some token := rfl

@[simp] theorem family_inBranch : (block.inBranch token inner depth).family = block.family := by
  unfold inBranch enterBranch finishBranch
  cases block.branch <;> rfl

@[simp] theorem opener_inBranch : (block.inBranch token inner depth).opener = block.opener := by
  unfold inBranch enterBranch finishBranch
  cases block.branch <;> rfl

/-! ### The two moves that go on -/

theorem Collects.start (opens : token.Spells keywords family.opener) :
    Collects keywords (start family token) [token] :=
  .leading opens rfl

/-- A token inside of the block is collected as it stands. The guard on the depth is what keeps a
closer of the block itself away. -/
theorem Collects.keep (h : Collects keywords block tokens) (hdepth : block.depth = depth + 1)
    (hstep : block.family.depthStep keywords depth token = some next) :
    Collects keywords (block.keep token (next + 1)) (tokens ++ [token]) := by
  cases h with
  | leading opens inside =>
      cases Nat.succ.inj hdepth
      exact .leading opens (Family.depthAfter_concat inside hstep)
  | @inBranch block tokens branch inner role depth before outer open_ begins isBranch inside =>
      cases Nat.succ.inj hdepth
      rw [family_inBranch] at hstep
      have inside' := Family.depthAfter_concat inside hstep
      simpa [OpenBlock.keep, OpenBlock.push, OpenBlock.inBranch] using
        Collects.inBranch before outer open_ begins isBranch inside'

/-- A token that begins a branch is collected too, unless the last branch has begun already. -/
theorem Collects.enterBranch (h : Collects keywords block tokens) (hdepth : block.depth = 1)
    (open_ : ¬block.IsLast keywords) (begins : token.Begins keywords block.family role)
    (isBranch : role = .branch ∨ role = .lastBranch) :
    Collects keywords (block.enterBranch token) (tokens ++ [token]) := by
  have same : block.inBranch token [] 1 = block.enterBranch token := by
    rw [← hdepth]
    unfold OpenBlock.inBranch OpenBlock.enterBranch finishBranch
    cases block.branch <;> simp
  rw [← same]
  exact .inBranch h hdepth open_ begins isBranch rfl

theorem Collects.opens (h : Collects keywords block tokens) :
    block.opener.Spells keywords block.family.opener := by
  induction h with
  | leading opens => exact opens
  | inBranch _ _ _ _ _ _ ih => simpa using ih

theorem Collects.exists_depth (h : Collects keywords block tokens) :
    ∃ depth, block.depth = depth + 1 := by
  cases h <;> exact ⟨_, rfl⟩

/-! ### Layout -/

/-- The block holds `lead` and the runs of its branch statements. -/
structure LaidOut (block : OpenBlock) (lead : List Token) (runs : List (Token × List Token)) :
    Prop where
  sections : block.sections = attach block.opener lead block.family runs
  /-- The current branch is the one of the last run. -/
  current : ∀ run, runs.getLast? = some run → block.branch = some run.1
  /-- Before the first run the block is as it was opened, with the lead in its body. -/
  plain : runs = [] → block = leading block.family block.opener lead block.depth

variable {runs : List (Token × List Token)} {run : Token × List Token}

/-- A run that comes later leaves the runs before it as they are. Only the first run of a `switch`
takes in what stands in front of it. -/
theorem attach_concat (h : runs ≠ [] ∨ family = .conditional) :
    attach opener lead family (runs ++ [run]) = attach opener lead family runs ++ [run] := by
  cases runs with
  | nil =>
      cases h.resolve_left (by simp)
      rfl
  | cons first more => cases family <;> rfl

theorem sections_inBranch_of_some {current : Token} (h : block.branch = some current) :
    (block.inBranch token inner depth).sections = block.sections ++ [(token, inner)] := by
  simp [inBranch, OpenBlock.enterBranch, finishBranch, sections, h]

theorem sections_inBranch_of_none (h : block.branch = none) :
    (block.inBranch token inner depth).sections
      = block.branches ++ [(token, block.body ++ inner)] := by
  simp [inBranch, OpenBlock.enterBranch, finishBranch, sections, h]

theorem LaidOut.leading : (leading family opener lead depth).LaidOut lead [] where
  sections := by cases family <;> rfl
  current := by simp
  plain _ := rfl

/-- One more run. The case split is on whether a branch has begun: the first run of a `switch` is
joined with the tokens in front of it, every other one is put behind the runs so far. -/
theorem LaidOut.inBranch (h : block.LaidOut lead runs) :
    (block.inBranch token inner depth).LaidOut lead (runs ++ [(token, inner)]) where
  sections := by
    rw [family_inBranch, opener_inBranch]
    cases hbranch : block.branch with
    | some current =>
        -- A branch has begun, so either there is a run already, or the block is a conditional,
        -- whose opener begins its first branch.
        have more : runs ≠ [] ∨ block.family = .conditional := by
          refine Classical.or_iff_not_imp_left.2 fun hruns => ?_
          have hplain := h.plain (not_not.1 hruns)
          rw [hplain] at hbranch
          by_contra other
          simp [OpenBlock.leading, start, other] at hbranch
        rw [sections_inBranch_of_some hbranch, attach_concat more, h.sections]
    | none =>
        -- No branch has begun, so the block is as `leading` says, and what stands in front goes
        -- into the new run.
        have hruns : runs = [] := by
          by_contra hne
          have := h.current _ (List.getLast?_eq_some_getLast hne)
          simp [hbranch] at this
        subst hruns
        have hplain := h.plain rfl
        have other : block.family ≠ .conditional := by
          intro same
          rw [hplain] at hbranch
          simp [OpenBlock.leading, start, same] at hbranch
        have hbody : block.body = lead := by rw [hplain]; rfl
        have hbranches : block.branches = [] := by rw [hplain]; rfl
        rw [sections_inBranch_of_none hbranch, hbody, hbranches]
        cases hfamily : block.family with
        | conditional => exact absurd hfamily other
        | iteration | switch => rfl
  current run hrun := by
    rw [List.getLast?_concat, Option.some.injEq] at hrun
    rw [← hrun]
    rfl
  plain hruns := by simp at hruns

/-- A block whose last run is one of a last branch takes no further branch. -/
theorem LaidOut.isLast (h : block.LaidOut lead (runs ++ [run]))
    (begins : run.1.Begins keywords block.family .lastBranch) : block.IsLast keywords := by
  obtain ⟨keyword, hfamily, hrole, spells⟩ := begins
  refine ⟨keyword, hfamily ▸ Keyword.last?_of_role hrole, ?_⟩
  simp [isInBranch, h.current run List.getLast?_concat, spells.name_eq]

/-- **What a block has collected** is its opening, the lead, and one run after another. All runs
begin a branch, and only the last one may begin a last branch. -/
theorem Collects.layout (h : Collects keywords block tokens) :
    ∃ lead done, ∃ final : Option (Token × List Token),
      tokens = block.opener :: lead ++ spread (done ++ final.toList)
        ∧ block.LaidOut lead (done ++ final.toList)
        ∧ (∀ run ∈ done, run.1.Begins keywords block.family .branch)
        ∧ (∀ run ∈ final, run.1.Begins keywords block.family .lastBranch)
        ∧ block.family.depthAfter keywords 0 lead
            = some (if done ++ final.toList = [] then block.depth - 1 else 0) := by
  induction h with
  | leading opens inside =>
      exact ⟨_, [], none, by simp; rfl, .leading, by simp, by simp, inside⟩
  | @inBranch block tokens token inner role depth before outer open_ begins isBranch inside ih =>
      obtain ⟨lead, done, final, rfl, laid, hdone, hfinal, hlead⟩ := ih
      -- Behind a last branch no further branch begins, so there is none yet.
      have hempty : final = none := by
        rw [Option.eq_none_iff_forall_not_mem]
        rintro run rfl
        exact absurd (laid.isLast (hfinal run rfl)) open_
      subst hempty
      rw [outer, Nat.sub_self, ite_self] at hlead
      rw [Option.toList_none, List.append_nil] at laid
      simp only [opener_inBranch, family_inBranch]
      rcases isBranch with rfl | rfl
      · refine ⟨lead, done ++ [(token, inner)], none, by simp, by simpa using laid.inBranch, ?_,
          by simp, by simpa using hlead⟩
        intro run hrun
        rcases List.mem_append.1 hrun with hrun | hrun
        · exact hdone run hrun
        · rw [List.mem_singleton.1 hrun]
          exact begins
      · exact ⟨lead, done, some (token, inner), by simp, laid.inBranch, hdone, by simpa using begins,
          by simpa using hlead⟩

end OpenBlock

end Stencil
