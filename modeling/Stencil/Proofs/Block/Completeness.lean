import Stencil.Proofs.Block.Soundness

/-!
# Derived trees are assembled

The other direction: tokens that derive a tree are assembled to it. A run that is quiet in a family,
that is, closed in it and without unknown statements, passes through an open block of the family
into the current body; so the runs of a derived block reach the block in the layout that its
derivation has, and its bodies are assembled by induction on the derivation.

With soundness, `assemble_iff_derives` says which tree tokens have, and when they have none.
-/

namespace Stencil

/-- The run passes through a block of the family into its body. -/
structure IsQuiet (keywords : Keywords) (family : Family) (tokens : List Token) : Prop where
  known : ∀ token ∈ tokens, token.IsKnown keywords
  closed : family.IsClosed keywords tokens

variable {keywords : Keywords} {tokens : List Token} {nodes : List Node}

/-- What is derived is quiet for every family, not only for the one around it: its words all stand
inside of blocks of its own. -/
theorem Derives.isQuiet (valid : keywords.fault? = none) (h : Derives keywords tokens (.items nodes))
    (family : Family) : IsQuiet keywords family tokens :=
  ⟨h.isKnown valid, h.isClosed valid family⟩

/-- Quiet tokens can be cut wherever no block is open. -/
theorem IsQuiet.of_append {before inner : List Token} {family : Family}
    (h : IsQuiet keywords family (before ++ inner)) (closed : family.IsClosed keywords before) :
    IsQuiet keywords family before ∧ IsQuiet keywords family inner := by
  refine ⟨⟨fun token htoken => h.known token (by simp [htoken]), closed⟩,
    ⟨fun token htoken => h.known token (by simp [htoken]), ?_⟩⟩
  have := h.closed
  rwa [Family.IsClosed, Family.depthAfter_append_of_isClosed closed] at this

/-- A run that a statement of the family begins, in the role `role`, is a run of a block. -/
structure IsRun (keywords : Keywords) (family : Family) (role : Role)
    (run : Token × List Token) : Prop where
  begins : run.1.Begins keywords family role
  quiet : IsQuiet keywords family run.2

/-- A block that only waits for its closing statement or for a further branch. -/
structure OpenBlock.Waits (block : OpenBlock) (family : Family) (opener : Token)
    (lead : List Token) (runs : List (Token × List Token)) : Prop where
  family_eq : block.family = family
  opener_eq : block.opener = opener
  depth_eq : block.depth = 1
  laid : block.LaidOut lead runs

namespace Assembly

variable (build : OpenBlock → Except StatementError Node) {block : OpenBlock} {family : Family}
variable {opener token closer : Token} {lead rest : List Token} {depth next : Nat} {node : Node}
variable {done runs : List (Token × List Token)} {run : Token × List Token} {role : Role}
variable {final : Option (Token × List Token)}

/-! ### Inside of a block -/

variable (nodes)

/-- Tokens that have an answer at the inner depth are kept. -/
theorem run_kept (known : ∀ token ∈ tokens, token.IsKnown keywords)
    (hdepth : block.depth = depth + 1) (h : block.family.depthAfter keywords depth tokens = some next) :
    Assembly.run keywords build ⟨nodes, some block⟩ tokens =
      .ok ⟨nodes, some { block with body := block.body ++ tokens, depth := next + 1 }⟩ := by
  induction tokens generalizing block depth with
  | nil =>
      cases h
      simp [← hdepth]
  | cons token rest ih =>
      rw [Family.depthAfter_cons] at h
      obtain ⟨mid, hmid, hrest⟩ := Option.bind_eq_some_iff.1 h
      have hmove : Assembly.move keywords ⟨nodes, some block⟩ token = _ :=
        move_keep (known token (by simp)) hdepth hmid
      rw [run_cons, step_of_proceed hmove]
      have hkeep : (block.keep token (mid + 1)).depth = mid + 1 := rfl
      refine (ih (fun other hother => known other (by simp [hother])) hkeep hrest).trans ?_
      simp [OpenBlock.keep, OpenBlock.push]

/-- The opening and the lead. -/
theorem run_lead (valid : keywords.fault? = none) (opens : opener.Spells keywords family.opener)
    (quiet : IsQuiet keywords family lead) :
    Assembly.run keywords build ⟨nodes, none⟩ (opener :: lead) =
      .ok ⟨nodes, some (.leading family opener lead 1)⟩ := by
  rw [run_cons, step_of_proceed (move_opener valid opens)]
  exact run_kept nodes build quiet.known rfl quiet.closed

/-- One run. -/
theorem run_branch (valid : keywords.fault? = none) (h : block.Waits family opener lead done)
    (open_ : ¬block.IsLast keywords) (isRun : IsRun keywords family role run)
    (isBranch : role = .branch ∨ role = .lastBranch) :
    ∃ next, Assembly.run keywords build ⟨nodes, some block⟩ (run.1 :: run.2) = .ok ⟨nodes, some next⟩
      ∧ next.Waits family opener lead (done ++ [run]) ∧ next.branch = some run.1 := by
  obtain ⟨rfl, rfl, hdepth, laid⟩ := h
  obtain ⟨keyword, hfamily, rfl, spells⟩ := isRun.begins
  refine ⟨block.inBranch run.1 run.2 1, ?_,
    ⟨OpenBlock.family_inBranch, OpenBlock.opener_inBranch, rfl, laid.inBranch⟩, rfl⟩
  rw [run_cons, step_of_proceed (move_branch valid hdepth hfamily isBranch spells open_)]
  have inner : (block.enterBranch run.1).depth = 0 + 1 := by simp [hdepth]
  have closed : (block.enterBranch run.1).family.IsClosed keywords run.2 := by
    simpa using isRun.quiet.closed
  exact run_kept nodes build isRun.quiet.known inner closed

/-- Any number of runs that are no last branch. -/
theorem run_branches (valid : keywords.fault? = none) (h : block.Waits family opener lead done)
    (open_ : ¬block.IsLast keywords) (areRuns : ∀ run ∈ runs, IsRun keywords family .branch run) :
    ∃ next, Assembly.run keywords build ⟨nodes, some block⟩ (spread runs) = .ok ⟨nodes, some next⟩
      ∧ next.Waits family opener lead (done ++ runs) ∧ ¬next.IsLast keywords := by
  induction runs generalizing block done with
  | nil => exact ⟨block, rfl, by simpa using h, open_⟩
  | cons run runs ih =>
      have isRun := areRuns run (by simp)
      obtain ⟨mid, hmid, waits, hbranch⟩ :=
        run_branch nodes build valid h open_ isRun (.inl rfl)
      -- The new branch is no last one, so a further run may follow it.
      have still : ¬mid.IsLast keywords := by
        refine OpenBlock.not_isLast valid fun token htoken => ?_
        obtain ⟨keyword, -, hrole, spells⟩ := isRun.begins
        obtain rfl : run.1 = token := by simpa [hbranch] using htoken
        exact ⟨keyword, spells, by simp [hrole]⟩
      obtain ⟨next, hnext, waits', last⟩ :=
        ih waits still fun run hrun => areRuns run (by simp [hrun])
      refine ⟨next, ?_, by simpa using waits', last⟩
      rw [spread_cons, run_append_of_ok hmid, hnext]

/-- Everything before the closing of a block. -/
theorem run_open (valid : keywords.fault? = none) (opens : opener.Spells keywords family.opener)
    (quiet : IsQuiet keywords family lead) (hdone : ∀ run ∈ done, IsRun keywords family .branch run)
    (hfinal : ∀ run ∈ final, IsRun keywords family .lastBranch run) :
    ∃ block, Assembly.run keywords build ⟨nodes, none⟩
        (opener :: lead ++ spread (done ++ final.toList)) = .ok ⟨nodes, some block⟩
      ∧ block.Waits family opener lead (done ++ final.toList) := by
  have waits : (OpenBlock.leading family opener lead 1).Waits family opener lead [] :=
    ⟨rfl, rfl, rfl, .leading⟩
  have open_ : ¬(OpenBlock.leading family opener lead 1).IsLast keywords := by
    refine OpenBlock.not_isLast valid fun token htoken => ⟨family.opener, ?_, by simp⟩
    obtain ⟨-, rfl⟩ : family = .conditional ∧ opener = token := by
      simpa [OpenBlock.leading, OpenBlock.start] using htoken
    exact opens
  obtain ⟨mid, hmid, waits', last⟩ :=
    run_branches nodes build valid waits open_ hdone
  rw [spread_append, run_append_of_ok (run_lead nodes build valid opens quiet),
    run_append_of_ok hmid]
  cases final with
  | none => exact ⟨mid, rfl, by simpa using waits'⟩
  | some run =>
      obtain ⟨next, hnext, waits'', -⟩ :=
        run_branch nodes build valid waits' last (hfinal run rfl) (.inr rfl)
      exact ⟨next, by simpa using hnext, by simpa using waits''⟩

/-- **A whole block** adds its node, whatever else follows. -/
theorem run_block (valid : keywords.fault? = none) (opens : opener.Spells keywords family.opener)
    (quiet : IsQuiet keywords family lead) (hdone : ∀ run ∈ done, IsRun keywords family .branch run)
    (hfinal : ∀ run ∈ final, IsRun keywords family .lastBranch run)
    (closes : closer.Spells keywords family.closer)
    (hbuild : ∀ block : OpenBlock, block.Waits family opener lead (done ++ final.toList) →
      build block = .ok node) :
    Assembly.run keywords build ⟨nodes, none⟩
        (opener :: lead ++ spread (done ++ final.toList) ++ closer :: rest) =
      Assembly.run keywords build ⟨nodes ++ [node], none⟩ rest := by
  obtain ⟨block, hblock, waits⟩ :=
    run_open nodes build valid opens quiet hdone hfinal
  have hclose : Assembly.move keywords ⟨nodes, some block⟩ closer = _ :=
    move_closer valid waits.depth_eq (waits.family_eq ▸ closes)
  rw [run_append_of_ok hblock, run_cons, step_of_close hclose, hbuild block waits]
  rfl

end Assembly

/-! ### Derivations -/

/-- The tokens add their nodes to those before them. -/
def Adds (keywords : Keywords) (tokens : List Token) (nodes : List Node) : Prop :=
  ∀ before,
    Assembly.run keywords (OpenBlock.build keywords (assemble keywords)) ⟨before, none⟩ tokens
      = .ok ⟨before ++ nodes, none⟩

variable {keyword : Keyword} {trees : List (Text × List Node)} {family : Family} {role : Role}
variable {runs : List (Token × List Token)} {opener closer : Token} {inner rest : List Token}

/-- The use that is made of `Adds`: with nothing in front, the assembler returns the nodes. -/
theorem Adds.assemble (h : Adds keywords tokens nodes) : assemble keywords tokens = .ok nodes := by
  rw [assemble_eq, h []]
  rfl

/-- A statement begins a run of a block, and the body of the run is derived. -/
def Starts (keywords : Keywords) (keyword : Keyword) (run : Token × List Token) : Prop :=
  run.1.Spells keywords keyword ∧ ∀ family, IsQuiet keywords family run.2

theorem Starts.isRun {run : Token × List Token} (h : Starts keywords keyword run) :
    IsRun keywords keyword.family keyword.role run :=
  ⟨⟨keyword, rfl, rfl, h.1⟩, h.2 keyword.family⟩

/-- How what is read as a phrase is assembled. -/
def Assembles (keywords : Keywords) (tokens : List Token) : Phrase → Prop
  | .items nodes => Adds keywords tokens nodes
  | .branches keyword trees => ∃ runs, tokens = spread runs
      ∧ (∀ run ∈ runs, Starts keywords keyword run)
      ∧ List.Forall₂ (OpenBlock.Becomes (assemble keywords)) runs trees
  | .last keyword otherwise => ∃ final : Option (Token × List Token), tokens = spread final.toList
      ∧ (∀ run ∈ final, Starts keywords keyword run)
      ∧ (final.map (·.2)).mapM (assemble keywords) = .ok otherwise

/-- A block that consists of a lead and runs adds one node before what follows. -/
theorem Adds.block (valid : keywords.fault? = none) (family : Family) (lead : List Token)
    (runs : List (Token × List Token)) (final : Option (Token × List Token)) {node : Node}
    (layout : inner = lead ++ spread (runs ++ final.toList))
    (opens : opener.Spells keywords family.opener) (quiet : IsQuiet keywords family lead)
    (hruns : ∀ run ∈ runs, IsRun keywords family .branch run)
    (hfinal : ∀ run ∈ final, IsRun keywords family .lastBranch run)
    (closes : closer.Spells keywords family.closer)
    (hbuild : ∀ block : OpenBlock, block.Waits family opener lead (runs ++ final.toList) →
      block.build keywords (Stencil.assemble keywords) = .ok node)
    (more : Adds keywords rest nodes) :
    Adds keywords (opener :: inner ++ closer :: rest) (node :: nodes) := by
  intro before
  rw [layout, ← List.cons_append, Assembly.run_block before _ valid opens quiet hruns hfinal closes
    hbuild, more, List.append_assoc]
  rfl

/-! ### Rules of the grammar -/

section

variable {first lead middle tail : List Token} {branch : Token} {tree nodes : List Node}
variable {otherwise : Option (List Node)} {header : LoopHeader} {token : Token} {node : Node}

/-- A token that no block takes up adds its node. -/
theorem Adds.leaf
    (hmove : ∀ before, Assembly.move keywords ⟨before, none⟩ token
      = .ok (.proceed ⟨before ++ [node], none⟩))
    (more : Adds keywords rest nodes) : Adds keywords (token :: rest) (node :: nodes) := by
  intro before
  rw [Assembly.run_cons, Assembly.step_of_proceed (hmove before)]
  exact (more _).trans (by simp)

/-- The assembler reads what the rule for conditionals derives. This and the rules below have their
parts read already, and only follow the outermost block. -/
theorem Adds.conditional (valid : keywords.fault? = none) (opens : opener.Spells keywords .if_)
    (quiet : IsQuiet keywords .conditional first) (body : Adds keywords first tree)
    (others : Assembles keywords middle (.branches .elseif trees))
    (final : Assembles keywords tail (.last .else_ otherwise))
    (closes : closer.Spells keywords .endif) (more : Adds keywords rest nodes) :
    Adds keywords (opener :: (first ++ middle ++ tail) ++ closer :: rest)
      (.conditional ((Script.prepare opener.value, tree) :: trees) otherwise :: nodes) := by
  obtain ⟨runs, rfl, hruns, htrees⟩ := others
  obtain ⟨final, rfl, hfinal, hlast⟩ := final
  refine Adds.block valid .conditional first runs final (by simp) opens quiet
    (fun run hrun => (hruns run hrun).isRun) (fun run hrun => (hfinal run hrun).isRun) closes
    (fun block waits => ?_) more
  obtain ⟨hfamily, rfl, -, laid⟩ := waits
  have hparts := laid.parts_conditional valid hfamily opens (fun run hrun => (hruns run hrun).1)
    fun run hrun => (hfinal run hrun).1
  exact (OpenBlock.build_conditional hfamily hparts).2
    ⟨_, _, hlast, .cons ⟨rfl, body.assemble⟩ htrees, rfl⟩

theorem Adds.iteration (valid : keywords.fault? = none) (opens : opener.Spells keywords .foreach)
    (accepted : LoopHeader.ofArgument opener.name opener.value = .ok header)
    (quiet : IsQuiet keywords .iteration inner) (body : Adds keywords inner tree)
    (closes : closer.Spells keywords .endforeach) (more : Adds keywords rest nodes) :
    Adds keywords (opener :: inner ++ closer :: rest)
      (.iteration { header with collection := Script.prepare header.collection } tree :: nodes) := by
  refine Adds.block valid .iteration inner [] none (by simp) opens quiet (by simp) (by simp) closes
    (fun block waits => ?_) more
  obtain ⟨hfamily, rfl, -, laid⟩ := waits
  have hbody : block.body = inner := congrArg OpenBlock.body (laid.plain rfl)
  exact (OpenBlock.build_iteration hfamily).2 ⟨_, _, accepted, hbody ▸ body.assemble, rfl⟩

theorem Adds.switch (valid : keywords.fault? = none) (opens : opener.Spells keywords .switch)
    (quiet : IsQuiet keywords .switch lead) (body : Adds keywords lead tree)
    (closes : closer.Spells keywords .endswitch) (more : Adds keywords rest nodes) :
    Adds keywords (opener :: lead ++ closer :: rest)
      (.switch (Script.prepare opener.value) [] (some tree) :: nodes) := by
  refine Adds.block valid .switch lead [] none (by simp) opens quiet (by simp) (by simp) closes
    (fun block waits => ?_) more
  obtain ⟨hfamily, rfl, -, laid⟩ := waits
  refine (OpenBlock.build_switch hfamily (laid.parts_switch_plain hfamily)).2 ⟨_, _, ?_, .nil, rfl⟩
  rw [Option.mapM_some, body.assemble]
  rfl

/-- A `switch` whose first branch is the default, which takes in what stands in front of it. -/
theorem Adds.switchDefault (valid : keywords.fault? = none) (opens : opener.Spells keywords .switch)
    (quiet : IsQuiet keywords .switch (lead ++ inner))
    (closed : Family.switch.IsClosed keywords lead) (begins : branch.Spells keywords .default)
    (body : Adds keywords (lead ++ inner) tree)
    (closes : closer.Spells keywords .endswitch) (more : Adds keywords rest nodes) :
    Adds keywords (opener :: (lead ++ branch :: inner) ++ closer :: rest)
      (.switch (Script.prepare opener.value) [] (some tree) :: nodes) := by
  obtain ⟨hlead, hinner⟩ := quiet.of_append closed
  have final : IsRun keywords .switch .lastBranch (branch, inner) :=
    ⟨⟨.default, rfl, rfl, begins⟩, hinner⟩
  refine Adds.block valid .switch lead [] (some (branch, inner)) (by simp) opens hlead (by simp)
    (by simpa using final) closes (fun block waits => ?_) more
  obtain ⟨hfamily, rfl, -, laid⟩ := waits
  refine (OpenBlock.build_switch hfamily (laid.parts_switch_default valid hfamily begins)).2
    ⟨_, _, ?_, .nil, rfl⟩
  rw [Option.mapM_some, body.assemble]
  rfl

/-- A `switch` with a first `case`, which takes in what stands in front of it; the others follow. -/
theorem Adds.switchCases (valid : keywords.fault? = none) (opens : opener.Spells keywords .switch)
    (quiet : IsQuiet keywords .switch (lead ++ inner))
    (closed : Family.switch.IsClosed keywords lead) (begins : branch.Spells keywords .case)
    (body : Adds keywords (lead ++ inner) tree)
    (others : Assembles keywords middle (.branches .case trees))
    (final : Assembles keywords tail (.last .default otherwise))
    (closes : closer.Spells keywords .endswitch) (more : Adds keywords rest nodes) :
    Adds keywords (opener :: (lead ++ branch :: inner ++ middle ++ tail) ++ closer :: rest)
      (.switch (Script.prepare opener.value) ((Script.prepare branch.value, tree) :: trees)
        otherwise :: nodes) := by
  obtain ⟨runs, rfl, hruns, htrees⟩ := others
  obtain ⟨final, rfl, hfinal, hlast⟩ := final
  obtain ⟨hlead, hinner⟩ := quiet.of_append closed
  have head : IsRun keywords .switch .branch (branch, inner) :=
    ⟨⟨.case, rfl, rfl, begins⟩, hinner⟩
  refine Adds.block valid .switch lead ((branch, inner) :: runs) final (by simp) opens hlead
    (List.forall_mem_cons.2 ⟨head, fun run hrun => (hruns run hrun).isRun⟩)
    (fun run hrun => (hfinal run hrun).isRun) closes (fun block waits => ?_) more
  obtain ⟨hfamily, rfl, -, laid⟩ := waits
  have hparts := laid.parts_switch_cases valid hfamily
    (List.forall_mem_cons.2 ⟨begins, fun run hrun => (hruns run hrun).1⟩)
    fun run hrun => (hfinal run hrun).1
  exact (OpenBlock.build_switch hfamily hparts).2
    ⟨_, _, hlast, .cons ⟨rfl, body.assemble⟩ htrees, rfl⟩

end

/-- The induction is on the derivation; the bodies are quiet because they are derived. -/
theorem Derives.assembles (valid : keywords.fault? = none) {phrase : Phrase}
    (h : Derives keywords tokens phrase) : Assembles keywords tokens phrase := by
  induction h with
  | nil =>
      intro before
      simp
  | text kind _ more => exact .leaf (fun before => Assembly.move_text kind) more
  | expression kind _ more => exact .leaf (fun before => Assembly.move_expression kind) more
  | conditional opens body _ _ closes _ tree others final more =>
      exact .conditional valid opens (body.isQuiet valid _) tree others final closes more
  | iteration opens accepted body closes _ tree more =>
      exact .iteration valid opens accepted (body.isQuiet valid _) tree closes more
  | switch opens body closes _ tree more =>
      exact .switch valid opens (body.isQuiet valid _) tree closes more
  | switchDefault opens closed begins body closes _ tree more =>
      exact .switchDefault valid opens (body.isQuiet valid _) closed begins tree closes more
  | switchCases opens closed begins body _ _ closes _ tree others final more =>
      exact .switchCases valid opens (body.isQuiet valid _) closed begins tree others final closes
        more
  | noBranch => exact ⟨[], rfl, by simp, .nil⟩
  | @branch keyword token inner rest tree branches begins body _ first others =>
      -- Branches are collected as runs first and become trees when the block is closed.
      obtain ⟨runs, rfl, hruns, htrees⟩ := others
      refine ⟨(token, inner) :: runs, by simp, ?_, .cons ⟨rfl, first.assemble⟩ htrees⟩
      intro run hrun
      rcases List.mem_cons.1 hrun with rfl | hrun
      · exact ⟨begins, body.isQuiet valid⟩
      · exact hruns run hrun
  | noLast => exact ⟨none, rfl, by simp, rfl⟩
  | @last keyword token inner tree begins body first =>
      refine ⟨some (token, inner), by simp, ?_, ?_⟩
      · simpa using ⟨begins, body.isQuiet valid⟩
      · rw [Option.map_some, Option.mapM_some, first.assemble]
        rfl

/-- **Completeness.** What is derived from tokens is what they are assembled to. -/
theorem Derives.assemble (valid : keywords.fault? = none)
    (h : Derives keywords tokens (.items nodes)) : assemble keywords tokens = .ok nodes :=
  Adds.assemble (h.assembles valid)

/-- **Assembling is deriving**: tokens are assembled to the tree that they derive, and there is an
error just when they derive none. -/
theorem assemble_iff_derives (valid : keywords.fault? = none) (tokens : List Token) :
    (∀ nodes, assemble keywords tokens = .ok nodes ↔ Derives keywords tokens (.items nodes))
      ∧ ((∃ error, assemble keywords tokens = .error error)
        ↔ ¬∃ nodes, Derives keywords tokens (.items nodes)) := by
  have ok : ∀ nodes, assemble keywords tokens = .ok nodes ↔ Derives keywords tokens (.items nodes) :=
    fun nodes => ⟨derives_of_assemble valid, fun h => h.assemble valid⟩
  refine ⟨ok, ?_⟩
  simp only [← ok]
  cases assemble keywords tokens <;> simp

/-- A conditional that is opened before the first case and closed in it. -/
theorem assemble_iff_derives_crossing :
    ({} : Keywords).fault? = none ∧
      Derives {}
        [⟨.statement Keyword.switch.label, ['x'], {}⟩, ⟨.statement Keyword.if_.label, ['y'], {}⟩,
          ⟨.statement Keyword.case.label, ['1'], {}⟩, ⟨.text, ['z'], {}⟩,
          ⟨.statement Keyword.endif.label, [], {}⟩, ⟨.statement Keyword.endswitch.label, [], {}⟩]
        (.items
          [.switch (Script.prepare ['x'])
            [(Script.prepare ['1'],
              [.conditional [(Script.prepare ['y'], [.text ['z']])] none])] none]) :=
  ⟨by decide, ((assemble_iff_derives (by decide) _).1 _).1 rfl⟩

end Stencil
