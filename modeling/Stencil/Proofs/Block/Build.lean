import Stencil.Proofs.Block.Collect

/-!
# Building a closed block

What the node of a closed block is made of, in the terms of its layout: the lead, the runs of its
branches, and the run of its last branch (`parts_conditional`, `parts_switch`). Keywords are
valid throughout, so the word of a branch tells which statement began it.
-/

namespace Stencil

/-! ### Branch statements by family -/

namespace Token

variable {keywords : Keywords} {token : Token}

/-- Inside a conditional, the two roles of a branch are the words `elseif` and `else`. -/
theorem begins_conditional :
    (token.Begins keywords .conditional .branch ↔ token.Spells keywords .elseif)
      ∧ (token.Begins keywords .conditional .lastBranch ↔ token.Spells keywords .else_) := by
  constructor <;> constructor
  · intro h
    obtain ⟨keyword, hfamily, hrole, h⟩ := h
    cases keyword <;> simp_all [Keyword.family, Keyword.role]
  · exact fun h => ⟨.elseif, rfl, rfl, h⟩
  · intro h
    obtain ⟨keyword, hfamily, hrole, h⟩ := h
    cases keyword <;> simp_all [Keyword.family, Keyword.role]
  · exact fun h => ⟨.else_, rfl, rfl, h⟩

/-- Inside a `switch`, the two roles of a branch are the words `case` and `default`. -/
theorem begins_switch :
    (token.Begins keywords .switch .branch ↔ token.Spells keywords .case)
      ∧ (token.Begins keywords .switch .lastBranch ↔ token.Spells keywords .default) := by
  constructor <;> constructor
  · intro h
    obtain ⟨keyword, hfamily, hrole, h⟩ := h
    cases keyword <;> simp_all [Keyword.family, Keyword.role]
  · exact fun h => ⟨.case, rfl, rfl, h⟩
  · intro h
    obtain ⟨keyword, hfamily, hrole, h⟩ := h
    cases keyword <;> simp_all [Keyword.family, Keyword.role]
  · exact fun h => ⟨.default, rfl, rfl, h⟩

/-- No word of a loop begins a branch, so the body of a loop is never divided. -/
theorem not_begins_iteration {role : Role} (isBranch : role = .branch ∨ role = .lastBranch) :
    ¬token.Begins keywords .iteration role := by
  intro h
  obtain ⟨keyword, hfamily, hrole, -⟩ := h
  rcases isBranch with rfl | rfl <;> cases keyword <;> simp_all [Keyword.family, Keyword.role]

/-- A loop has no runs of branches. -/
theorem runs_eq_nil_of_iteration {done : List (Token × List Token)}
    {final : Option (Token × List Token)}
    (hdone : ∀ run ∈ done, run.1.Begins keywords .iteration .branch)
    (hfinal : ∀ run ∈ final, run.1.Begins keywords .iteration .lastBranch) :
    done = [] ∧ final = none :=
  ⟨List.eq_nil_iff_forall_not_mem.2 fun run hrun =>
      not_begins_iteration (.inl rfl) (hdone run hrun),
    Option.eq_none_iff_forall_not_mem.2 fun run hrun =>
      not_begins_iteration (.inr rfl) (hfinal run hrun)⟩

end Token

namespace OpenBlock

variable {keywords : Keywords} {block : OpenBlock} {token : Token} {keyword other : Keyword}
variable {lead : List Token} {done runs : List (Token × List Token)} {run : Token × List Token}
variable {final : Option (Token × List Token)}

/-! ### The current branch -/

/-- Which branch an open block is in can be read off the word of the branch, as no two keywords have
one spelling. -/
theorem isInBranch_iff (valid : keywords.fault? = none) (h : block.branch = some token)
    (spells : token.Spells keywords keyword) :
    block.isInBranch (keywords.spelling other) = true ↔ keyword = other := by
  rw [isInBranch, h, Option.any_some, decide_eq_true_eq, spells.name_eq,
    Keywords.spelling_inj valid]

/-- A block takes further branches as long as its current branch is not a last one. -/
theorem not_isLast (valid : keywords.fault? = none)
    (h : ∀ token ∈ block.branch, ∃ keyword, token.Spells keywords keyword
      ∧ keyword.role ≠ .lastBranch) : ¬block.IsLast keywords := by
  intro h
  obtain ⟨last, hlast, hword⟩ := h
  have role : last.role = .lastBranch := by
    cases hfamily : block.family <;> simp [hfamily, Family.last?] at hlast <;>
      subst hlast <;> rfl
  cases hbranch : block.branch with
  | none => simp [isInBranch, hbranch] at hword
  | some token =>
      obtain ⟨keyword, spells, hrole⟩ := h token hbranch
      rw [isInBranch_iff valid hbranch spells] at hword
      exact hrole (hword ▸ role)

theorem eq_of_sections_concat (runs : List (Token × List Token))
    (h : block.sections = runs ++ [run]) (hb : block.branch = some token) :
    block.branches = runs ∧ block.body = run.2 := by
  obtain ⟨hbranches, hrun⟩ : block.branches = runs ∧ (token, block.body) = run := by
    simpa [sections, hb] using h
  exact ⟨hbranches, hrun ▸ rfl⟩

theorem LaidOut.exists_current (laid : block.LaidOut lead runs) (h : runs ≠ []) :
    ∃ run ∈ runs, block.branch = some run.1 := by
  obtain ⟨last, hlast⟩ := Option.ne_none_iff_exists'.1 (List.getLast?_eq_none_iff.not.2 h)
  exact ⟨last, List.mem_of_getLast? hlast, laid.current last hlast⟩

/-! ### Parts -/

/-- The parts of a conditional: a branch for its opening and for each run, and the body of its last
branch. -/
theorem LaidOut.parts_conditional (valid : keywords.fault? = none)
    (laid : block.LaidOut lead (done ++ final.toList)) (hfamily : block.family = .conditional)
    (opens : block.opener.Spells keywords .if_)
    (hdone : ∀ run ∈ done, run.1.Spells keywords .elseif)
    (hfinal : ∀ run ∈ final, run.1.Spells keywords .else_) :
    block.parts keywords = ((block.opener, lead) :: done, final.map (·.2)) := by
  have sections := laid.sections
  rw [hfamily] at sections
  cases final with
  | some run =>
      have hbranch := laid.current run (by simp)
      have inElse := (isInBranch_iff valid hbranch (hfinal run rfl)).2 (rfl : Keyword.else_ = _)
      obtain ⟨hbranches, hbody⟩ := eq_of_sections_concat ((block.opener, lead) :: done)
        (by simpa [attach] using sections) hbranch
      simp [parts, hfamily, inElse, hbranches, hbody]
  | none =>
      -- Without a run of `else` the current branch is an `elseif`, or the opener itself.
      have notElse : block.isInBranch (keywords.spelling .else_) = false := by
        rw [Bool.eq_false_iff]
        intro inElse
        rw [Option.toList_none, List.append_nil] at laid
        cases hlast : done.getLast? with
        | none =>
            have hplain := laid.plain (List.getLast?_eq_none_iff.1 hlast)
            have hbranch : block.branch = some block.opener := by
              rw [hplain, hfamily]
              rfl
            rw [isInBranch_iff valid hbranch opens] at inElse
            cases inElse
        | some run =>
            have hbranch := laid.current run hlast
            have spells := hdone run (List.mem_of_getLast? hlast)
            rw [isInBranch_iff valid hbranch spells] at inElse
            cases inElse
      simpa [parts, hfamily, notElse, attach] using sections

/-- The parts of a `switch` without branches. -/
theorem LaidOut.parts_switch_plain (laid : block.LaidOut lead [])
    (hfamily : block.family = .switch) :
    block.parts keywords = ([], some lead) := by
  rw [laid.plain rfl, hfamily]
  rfl

/-- The parts of a `switch` with nothing but a default. -/
theorem LaidOut.parts_switch_default (valid : keywords.fault? = none)
    (laid : block.LaidOut lead [run]) (hfamily : block.family = .switch)
    (begins : run.1.Spells keywords .default) :
    block.parts keywords = ([], some (lead ++ run.2)) := by
  have hbranch := laid.current run rfl
  have sections := laid.sections
  rw [hfamily] at sections
  have notCase : block.isInBranch (keywords.spelling .case) = false := by
    simp [Bool.eq_false_iff, isInBranch_iff valid hbranch begins]
  obtain ⟨hbranches, hbody⟩ := eq_of_sections_concat [] sections hbranch
  simp [parts, hfamily, notCase, hbranches, hbody]

/-- The parts of a `switch` with cases: the lead belongs to the first of them. -/
theorem LaidOut.parts_switch_cases (valid : keywords.fault? = none)
    (laid : block.LaidOut lead (run :: done ++ final.toList)) (hfamily : block.family = .switch)
    (hdone : ∀ case ∈ run :: done, case.1.Spells keywords .case)
    (hfinal : ∀ run ∈ final, run.1.Spells keywords .default) :
    block.parts keywords = ((run.1, lead ++ run.2) :: done, final.map (·.2)) := by
  have sections := laid.sections
  rw [hfamily] at sections
  cases final with
  | some last =>
      have hbranch := laid.current last List.getLast?_concat
      have notCase : block.isInBranch (keywords.spelling .case) = false := by
        simp [Bool.eq_false_iff, isInBranch_iff valid hbranch (hfinal last rfl)]
      obtain ⟨hbranches, hbody⟩ := eq_of_sections_concat ((run.1, lead ++ run.2) :: done)
        (by simpa [attach] using sections) hbranch
      simp [parts, hfamily, notCase, hbranches, hbody]
  | none =>
      rw [Option.toList_none, List.append_nil] at laid
      obtain ⟨last, hlast, hbranch⟩ := laid.exists_current (List.cons_ne_nil run done)
      have spells := hdone last hlast
      have inCase := (isInBranch_iff valid hbranch spells).2 (rfl : Keyword.case = _)
      simpa [parts, hfamily, inCase, attach] using sections

/-! ### Nodes -/

/-- The branch that a part of a block becomes. -/
def Becomes (assemble : List Token → Except StatementError (List Node))
    (part : Token × List Token) (branch : Text × List Node) : Prop :=
  branch.1 = Script.prepare part.1.value ∧ assemble part.2 = .ok branch.2

variable {assemble : List Token → Except StatementError (List Node)} {node : Node}
variable {branches : List (Token × List Token)} {last : Option (List Token)}

/-- The branches of a block become trees one by one, with the subtrees of their own tokens. -/
theorem mapM_branches_eq_ok_iff {trees : List (Text × List Node)} :
    (branches.mapM fun part => do
      return (Script.prepare part.1.value, ← assemble part.2) : Except StatementError _) = .ok trees
      ↔ List.Forall₂ (Becomes assemble) branches trees := by
  have becomes : ∀ part branch, (do
      return (Script.prepare part.1.value, ← assemble part.2) : Except StatementError _) = .ok branch
      ↔ Becomes assemble part branch := by
    intro part branch
    simp only [bind_eq_ok_iff, pure_eq_ok_iff]
    constructor
    · intro h
      obtain ⟨tree, htree, rfl⟩ := h
      exact ⟨rfl, htree⟩
    · intro h
      obtain ⟨hsource, htree⟩ := h
      exact ⟨branch.2, htree, Prod.ext hsource.symm rfl⟩
  simp only [mapM_eq_ok_iff, becomes]

/-- What a conditional is made of: the last branch first, then the others, in the order in which
their errors are found. -/
theorem build_conditional (hfamily : block.family = .conditional)
    (hparts : block.parts keywords = (branches, last)) :
    block.build keywords assemble = .ok node ↔
      ∃ otherwise trees, last.mapM assemble = .ok otherwise
        ∧ List.Forall₂ (Becomes assemble) branches trees
        ∧ node = .conditional trees otherwise := by
  simp only [build, hfamily, hparts, mapM_branches_eq_ok_iff, bind_eq_ok_iff, pure_eq_ok_iff]
  constructor
  · intro h
    obtain ⟨otherwise, hlast, trees, htrees, rfl⟩ := h
    exact ⟨otherwise, trees, hlast, htrees, rfl⟩
  · intro h
    obtain ⟨otherwise, trees, hlast, htrees, rfl⟩ := h
    exact ⟨otherwise, hlast, trees, htrees, rfl⟩

theorem build_switch (hfamily : block.family = .switch)
    (hparts : block.parts keywords = (branches, last)) :
    block.build keywords assemble = .ok node ↔
      ∃ otherwise trees, last.mapM assemble = .ok otherwise
        ∧ List.Forall₂ (Becomes assemble) branches trees
        ∧ node = .switch (Script.prepare block.opener.value) trees otherwise := by
  simp only [build, hfamily, hparts, mapM_branches_eq_ok_iff, bind_eq_ok_iff, pure_eq_ok_iff]
  constructor
  · intro h
    obtain ⟨otherwise, hlast, trees, htrees, rfl⟩ := h
    exact ⟨otherwise, trees, hlast, htrees, rfl⟩
  · intro h
    obtain ⟨otherwise, trees, hlast, htrees, rfl⟩ := h
    exact ⟨otherwise, hlast, trees, htrees, rfl⟩

/-- What a loop is made of: the header of its argument, and the tree of its whole body. -/
theorem build_iteration (hfamily : block.family = .iteration) :
    block.build keywords assemble = .ok node ↔
      ∃ header tree, LoopHeader.ofArgument block.opener.name block.opener.value = .ok header
        ∧ assemble block.body = .ok tree
        ∧ node = .iteration { header with collection := Script.prepare header.collection } tree := by
  simp only [build, hfamily, bind_eq_ok_iff, pure_eq_ok_iff, OpenBlock.header]
  constructor
  · intro h
    obtain ⟨header, hheader, tree, htree, rfl⟩ := h
    split at hheader
    · cases hheader
    · rename_i found hfound
      cases hheader
      exact ⟨found, tree, hfound, htree, rfl⟩
  · intro h
    obtain ⟨header, tree, hheader, htree, rfl⟩ := h
    exact ⟨_, by rw [hheader], tree, htree, rfl⟩

end OpenBlock

end Stencil
