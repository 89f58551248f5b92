import Stencil.Proofs.Block.Completeness
import Stencil.Proofs.Block.Fault

/-!
# The state after some tokens

What the state of an assembly says of the tokens that it has consumed. With no block open, its nodes
are their tree. With a block open, its nodes are the tree of what stands before the opening, the
depth counts the openings and closings of the family since then, and the block stores every token
since the opening once, in order (`Assembly.IsAfter`).

`OpenBlock.Collects` is the invariant behind it, and it holds along every run. `Stores`, the count
and the roles of the stored branches are read off it, each by its own cases.

A closed block has collected its opening besides its bodies, and its closing comes behind. So each
body lacks two tokens at least of the list that it is cut out of (`Hands.length_add_two_le`). This
is why the recursion ends, and why its equation has one solution (`eq_assemble_iff`).
-/

namespace Stencil

/-! ### Counting statements -/

instance (keywords : Keywords) (keyword : Keyword) (token : Token) :
    Decidable (token.Spells keywords keyword) :=
  inferInstanceAs (Decidable (_ = _))

/-- How many of the tokens are the statement. -/
def Keyword.count (keywords : Keywords) (keyword : Keyword) (tokens : List Token) : Nat :=
  tokens.countP fun token => token.Spells keywords keyword

namespace Keyword

variable {keywords : Keywords} {keyword : Keyword} {token : Token} {tokens more : List Token}

theorem count_cons : count keywords keyword (token :: tokens)
    = count keywords keyword tokens + if token.Spells keywords keyword then 1 else 0 := by
  simp [count, List.countP_cons]

theorem count_append : count keywords keyword (tokens ++ more)
    = count keywords keyword tokens + count keywords keyword more :=
  List.countP_append ..

end Keyword

namespace Token

variable {keywords : Keywords} {token : Token} {family : Family} {keyword other : Keyword}

/-- A token is one statement at most. -/
theorem Spells.eq (valid : keywords.fault? = none) (h : token.Spells keywords keyword)
    (h' : token.Spells keywords other) : keyword = other :=
  (Keywords.spelling_inj valid).1 (h.name_eq.symm.trans h'.name_eq)

theorem Spells.not_closer (valid : keywords.fault? = none)
    (h : token.Spells keywords family.opener) : ¬token.Spells keywords family.closer := by
  intro closes
  have same := h.eq valid closes
  cases family <;> cases same

/-- What opens a block of a family is one word only. -/
theorem role?_eq_opening_iff (valid : keywords.fault? = none) :
    token.role? keywords family = some .opening ↔ token.Spells keywords family.opener := by
  constructor
  · intro h
    obtain ⟨keyword, hkeyword, rfl, role⟩ := role?_eq_some_iff.1 h
    rw [← Keyword.eq_opener_of_role role]
    exact spells_of_keyword? hkeyword
  · intro h
    simpa using h.role? valid

theorem role?_eq_closing_iff (valid : keywords.fault? = none) :
    token.role? keywords family = some .closing ↔ token.Spells keywords family.closer := by
  constructor
  · intro h
    obtain ⟨keyword, hkeyword, rfl, role⟩ := role?_eq_some_iff.1 h
    rw [← Keyword.eq_closer_of_role role]
    exact spells_of_keyword? hkeyword
  · intro h
    simpa using h.role? valid

end Token

namespace Family

variable {keywords : Keywords} {family : Family} {token : Token} {tokens : List Token}
variable {depth next : Nat}

/-- One token changes the depth by one for an opener and for a closer, and by nothing otherwise. It
is written without subtraction, so that it adds up along a list. -/
theorem depthStep_count (valid : keywords.fault? = none)
    (h : family.depthStep keywords depth token = some next) :
    next + (if token.Spells keywords family.closer then 1 else 0)
      = depth + if token.Spells keywords family.opener then 1 else 0 := by
  simp only [← Token.role?_eq_opening_iff valid, ← Token.role?_eq_closing_iff valid]
  cases hrole : token.role? keywords family with
  | none => simp_all [depthStep]
  | some role =>
      cases role with
      | opening => simpa [depthStep, hrole] using h.symm
      | closing =>
          obtain ⟨pos, rfl⟩ : depth ≠ 0 ∧ depth - 1 = next := by simpa [depthStep, hrole] using h
          simp
          omega
      | branch | lastBranch =>
          obtain ⟨pos, rfl⟩ : depth ≠ 0 ∧ depth = next := by simpa [depthStep, hrole] using h
          simp

/-- The depth counts openings up and closings down. -/
theorem depthAfter_count (valid : keywords.fault? = none)
    (h : family.depthAfter keywords depth tokens = some next) :
    next + family.closer.count keywords tokens = depth + family.opener.count keywords tokens := by
  induction tokens generalizing depth with
  | nil =>
      cases h
      rfl
  | cons token rest ih =>
      rw [depthAfter_cons] at h
      obtain ⟨mid, hmid, hrest⟩ := Option.bind_eq_some_iff.1 h
      have hstep := depthStep_count valid hmid
      have := ih hrest
      rw [Keyword.count_cons, Keyword.count_cons]
      omega

end Family

/-! ### Open blocks -/

namespace OpenBlock

/-- The tokens since the opening of a block, the opening included, are those that the block stores:
its finished branches, each behind the statement that began it, and the current one. -/
inductive Stores (keywords : Keywords) (block : OpenBlock) : List Token → Prop
  /-- Without a branch all of them stand in the body. -/
  | body (family : block.family ≠ .conditional) (branch : block.branch = none)
      (branches : block.branches = []) : Stores keywords block (block.opener :: block.body)
  /-- In a conditional the opening begins the first branch. -/
  | branches {current} (family : block.family = .conditional)
      (branch : block.branch = some current) :
      Stores keywords block (spread (block.branches ++ [(current, block.body)]))
  /-- In a `switch` the first branch stores the tokens before its statement in front of its own. -/
  | afterLead {current first lead own more} (family : block.family = .switch)
      (branch : block.branch = some current)
      (sections : block.branches ++ [(current, block.body)] = (first, lead ++ own) :: more)
      (closed : Family.switch.IsClosed keywords lead) :
      Stores keywords block (block.opener :: lead ++ spread ((first, own) :: more))

/-- The statement began a branch that others may follow: the first one of a conditional, or one that
is not the last of its family. -/
def BeganBranch (keywords : Keywords) (block : OpenBlock) (token : Token) : Prop :=
  (block.family = .conditional ∧ token = block.opener)
    ∨ token.Begins keywords block.family .branch

/-- What an open block says of the tokens behind its opening. -/
structure IsAfter (keywords : Keywords) (block : OpenBlock) (inside : List Token) : Prop where
  opens : block.opener.Spells keywords block.family.opener
  pos : 1 ≤ block.depth
  depth : block.depth + block.family.closer.count keywords inside
    = 1 + block.family.opener.count keywords inside
  stores : block.Stores keywords (block.opener :: inside)
  current : ∀ token ∈ block.branch,
    block.BeganBranch keywords token ∨ token.Begins keywords block.family .lastBranch
  stored : ∀ part ∈ block.branches, block.BeganBranch keywords part.1
  /-- A last branch is the current one. -/
  notLast : ∀ part ∈ block.branches, ¬part.1.Begins keywords block.family .lastBranch

variable {keywords : Keywords} {block : OpenBlock} {tokens inside : List Token} {token : Token}

theorem Collects.exists_inside (h : Collects keywords block tokens) :
    ∃ inside, tokens = block.opener :: inside := by
  obtain ⟨lead, done, final, htokens, -⟩ := h.layout
  exact ⟨_, htokens⟩

/-! #### Depth -/

theorem Collects.one_le_depth (h : Collects keywords block tokens) : 1 ≤ block.depth := by
  obtain ⟨depth, hdepth⟩ := h.exists_depth
  omega

/-- The opening itself is the one opening that is counted besides those behind it. -/
theorem Collects.depth_count (valid : keywords.fault? = none) (h : Collects keywords block tokens) :
    block.depth + block.family.closer.count keywords tokens
      = block.family.opener.count keywords tokens := by
  induction h with
  | @leading family opener lead depth opens inside =>
      have hlead := Family.depthAfter_count valid inside
      have hdepth : (OpenBlock.leading family opener lead (depth + 1)).depth = depth + 1 := rfl
      have hfamily : (OpenBlock.leading family opener lead (depth + 1)).family = family := rfl
      rw [hdepth, hfamily, Keyword.count_cons, Keyword.count_cons, if_pos opens,
        if_neg (opens.not_closer valid)]
      omega
  | @inBranch block tokens token inner role depth before outer open_ begins isBranch inside ih =>
      obtain ⟨keyword, hfamily, rfl, spells⟩ := begins
      have hinner := Family.depthAfter_count valid inside
      -- The statement itself neither opens nor closes.
      have hbranch : block.family.depthStep keywords 1 token = some 1 :=
        Family.depthStep_of_branch valid spells isBranch fun _ => Nat.one_pos
      have hstep := Family.depthStep_count valid hbranch
      have hdepth : (block.inBranch token inner (depth + 1)).depth = depth + 1 := rfl
      rw [hdepth, family_inBranch, Keyword.count_append, Keyword.count_append, Keyword.count_cons,
        Keyword.count_cons]
      omega

/-! #### Branches -/

theorem beganBranch_inBranch {inner : List Token} {depth : Nat} {other : Token} :
    (block.inBranch token inner depth).BeganBranch keywords other
      ↔ block.BeganBranch keywords other := by
  rw [BeganBranch, BeganBranch, family_inBranch, opener_inBranch]

/-- The branch that a block is in was begun by a token of the block. It may be the last branch,
which is not stored among the finished ones. -/
theorem Collects.current (h : Collects keywords block tokens) : ∀ token ∈ block.branch,
    block.BeganBranch keywords token ∨ token.Begins keywords block.family .lastBranch := by
  cases h with
  | @leading family opener lead depth opens inside =>
      intro token htoken
      obtain ⟨hfamily, rfl⟩ : family = .conditional ∧ opener = token := by
        simpa [OpenBlock.leading, OpenBlock.start] using htoken
      exact .inl (.inl ⟨hfamily, rfl⟩)
  | @inBranch block tokens token inner role depth before outer open_ begins isBranch inside =>
      rintro token ⟨⟩
      rw [beganBranch_inBranch, family_inBranch]
      rcases isBranch with rfl | rfl
      · exact .inl (.inr begins)
      · exact .inr begins

/-- Only a block whose current branch is no last one puts that branch aside. -/
theorem Collects.stored (h : Collects keywords block tokens) :
    ∀ part ∈ block.branches, block.BeganBranch keywords part.1 := by
  induction h with
  | leading => exact List.forall_mem_nil _
  | @inBranch block tokens token inner role depth before outer open_ begins isBranch inside ih =>
      intro part hpart
      rw [beganBranch_inBranch]
      have hpart : part ∈ block.sections := by
        rw [← branches_finishBranch]
        exact hpart
      rcases List.mem_append.1 hpart with hpart | hpart
      · exact ih part hpart
      · obtain ⟨current, hcurrent, rfl⟩ := by simpa using hpart
        refine (before.current current hcurrent).resolve_right fun last => open_ ?_
        obtain ⟨keyword, hfamily, hrole, spells⟩ := last
        refine ⟨keyword, hfamily ▸ Keyword.last?_of_role hrole, ?_⟩
        simp [isInBranch, hcurrent, spells.name_eq]

/-- A finished branch is not the last one, as nothing can be begun after that. -/
theorem BeganBranch.not_begins (valid : keywords.fault? = none)
    (opens : block.opener.Spells keywords block.family.opener)
    (h : block.BeganBranch keywords token) : ¬token.Begins keywords block.family .lastBranch := by
  intro last
  obtain ⟨keyword, -, hlast, spells⟩ := last
  rcases h with ⟨-, rfl⟩ | ⟨other, -, hbranch, spells'⟩
  · simp [spells.eq valid opens] at hlast
  · simp [spells.eq valid spells', hbranch] at hlast

/-! #### Tokens -/

theorem sections_of_some (h : block.branch = some token) :
    block.sections = block.branches ++ [(token, block.body)] := by
  simp [sections, h]

/-- The block before its first branch: all that is collected is the opener and the body so far. -/
theorem LaidOut.stores_lead {lead : List Token} (laid : block.LaidOut lead [])
    (hfamily : block.family ≠ .conditional) : block.Stores keywords (block.opener :: lead) := by
  have hplain := laid.plain rfl
  have hbranch : block.branch = none := by
    rw [hplain]
    exact if_neg hfamily
  have hbranches : block.branches = [] := congrArg OpenBlock.branches hplain
  have hbody : block.body = lead := congrArg OpenBlock.body hplain
  rw [← hbody]
  exact .body hfamily hbranch hbranches

/-- The cases are those of the layout: without a run the block is as it was opened, and otherwise
its sections are the runs, with the lead in front. -/
theorem Collects.stores (h : Collects keywords block tokens) : block.Stores keywords tokens := by
  obtain ⟨lead, done, final, rfl, laid, hdone, hfinal, hlead⟩ := h.layout
  generalize hruns : done ++ final.toList = runs at laid hlead ⊢
  have sections := laid.sections
  cases hfamily : block.family with
  | conditional =>
      -- The opening is the statement of the first section, and the lead is its body.
      obtain ⟨current, hbranch⟩ := h.exists_branch hfamily
      rw [hfamily, sections_of_some hbranch] at sections
      have stores : block.Stores keywords _ := .branches hfamily hbranch
      rwa [sections] at stores
  | iteration =>
      rw [hfamily] at hdone hfinal
      obtain ⟨rfl, rfl⟩ := Token.runs_eq_nil_of_iteration hdone hfinal
      subst hruns
      simpa using laid.stores_lead (by simp [hfamily])
  | switch =>
      rw [hfamily] at sections hlead
      cases runs with
      | nil => simpa using laid.stores_lead (by simp [hfamily])
      | cons run more =>
          -- A branch has begun at depth one, so nothing of the family is open in the lead.
          obtain ⟨last, -, hbranch⟩ := laid.exists_current (List.cons_ne_nil run more)
          rw [sections_of_some hbranch] at sections
          rw [if_neg (List.cons_ne_nil run more)] at hlead
          exact .afterLead hfamily hbranch sections hlead

/-- **What a block has collected** is all that the block says of it. -/
theorem Collects.isAfter (valid : keywords.fault? = none)
    (h : Collects keywords block (block.opener :: inside)) : block.IsAfter keywords inside where
  opens := h.opens
  pos := h.one_le_depth
  depth := by
    have hcount := h.depth_count valid
    rw [Keyword.count_cons, Keyword.count_cons, if_pos h.opens,
      if_neg (h.opens.not_closer valid)] at hcount
    omega
  stores := h.stores
  current := h.current
  stored := h.stored
  notLast part hpart := (h.stored part hpart).not_begins valid h.opens

/-! #### Lengths -/

/-- What a block has collected holds its opening besides a body. -/
theorem Collects.length_lt (h : Collects keywords block tokens) {body : List Token}
    (hbody : body ∈ block.bodies keywords) : body.length < tokens.length :=
  Nat.lt_of_le_of_lt (h.length_le_kept hbody) h.kept_lt

end OpenBlock

/-! ### Assemblies -/

/-- What a state of an assembly says of the tokens that it has consumed. -/
def Assembly.IsAfter (keywords : Keywords) (state : Assembly) (consumed : List Token) : Prop :=
  match state.block with
  | none => assemble keywords consumed = .ok state.nodes
  | some block => ∃ before inside, consumed = before ++ block.opener :: inside
      ∧ assemble keywords before = .ok state.nodes ∧ block.IsAfter keywords inside

variable {keywords : Keywords} {tokens consumed body : List Token} {state : Assembly}
variable {parse other : List Token → Except StatementError (List Node)}

/-- Along a run the tokens before the open block derive the nodes, and the block collects the rest
(`Assembly.Holds.step`, one token at a time). -/
theorem Assembly.IsAfter.of_run (valid : keywords.fault? = none)
    (h : Assembly.run keywords (OpenBlock.build keywords (assemble keywords)) {} consumed
      = .ok state) : state.IsAfter keywords consumed := by
  have start : ({} : Assembly).Holds keywords
      (fun tokens nodes => Derives keywords tokens (.items nodes)) [] := Derives.nil
  have holds := start.run (isCompositional_derives valid)
    (fun _ _ _ hbody => derives_of_assemble valid hbody) (Nat.le_refl _) h
  obtain ⟨nodes, block?⟩ := state
  cases block? with
  | none => exact Derives.assemble valid holds
  | some block =>
      obtain ⟨before, since, rfl, hbefore, collects⟩ := holds
      obtain ⟨inside, rfl⟩ := collects.exists_inside
      exact ⟨before, inside, rfl, hbefore.assemble valid, collects.isAfter valid⟩

/-! ### The recursion -/

/-- Assembling the tokens hands the body over to a further assembly: some token closes a block that
has the body. -/
def Hands (keywords : Keywords) (tokens body : List Token) : Prop :=
  ∃ before closer after state block, tokens = before ++ closer :: after
    ∧ Assembly.run keywords (OpenBlock.build keywords (assemble keywords)) {} before = .ok state
    ∧ Assembly.move keywords state closer = .ok (.close block) ∧ body ∈ block.bodies keywords

/-- **A body is shorter** than the list it is cut out of by its opening and its closing at least. -/
theorem Hands.length_add_two_le (h : Hands keywords tokens body) :
    body.length + 2 ≤ tokens.length := by
  obtain ⟨before, closer, after, state, block, rfl, hrun, hmove, hbody⟩ := h
  obtain ⟨closed, hclosed, hblock⟩ | ⟨next, hnext, -⟩ := Assembly.move_pending hmove
  · cases hclosed
    obtain ⟨outside, since, rfl, collects⟩ := Assembly.hasCollected_of_run hrun block hblock
    have := collects.length_lt hbody
    simp only [List.length_append, List.length_cons]
    omega
  · cases hnext

/-- Nothing is handed on forever: what a subtree is made from is shorter than what it is part of. -/
theorem wellFounded_hands (keywords : Keywords) :
    WellFounded fun body tokens => Hands keywords tokens body :=
  Subrelation.wf
    (fun h => Nat.lt_of_lt_of_le (Nat.lt_add_of_pos_right Nat.two_pos) h.length_add_two_le)
    (measure List.length).wf

/-- What tokens are assembled to depends on nothing but the trees of lists that lack two tokens. -/
theorem Assembly.run_build_congr
    (h : ∀ body, body.length + 2 ≤ tokens.length → parse body = other body) :
    run keywords (OpenBlock.build keywords parse) {} tokens
      = run keywords (OpenBlock.build keywords other) {} tokens := by
  have hsize : ({} : Assembly).pending + tokens.length ≤ tokens.length := by simp [pending]
  refine run_congr (fun block hkept => ?_) hsize
  exact OpenBlock.build_congr fun body hbody => h body (by omega)

/-- **The recursion ends**: its equation has one solution. The induction is on the number of
tokens. -/
theorem eq_assemble_iff :
    (∀ tokens, parse tokens
        = Assembly.run keywords (OpenBlock.build keywords parse) {} tokens
          >>= Assembly.finish keywords)
      ↔ parse = assemble keywords := by
  constructor
  · intro equation
    funext tokens
    induction hsize : tokens.length using Nat.strongRecOn generalizing tokens with
    | ind size ih =>
        have shorter : ∀ body : List Token, body.length + 2 ≤ tokens.length →
            parse body = assemble keywords body :=
          fun body hbody => ih body.length (by omega) body rfl
        rw [equation, assemble_eq, Assembly.run_build_congr shorter]
  · rintro rfl tokens
    exact assemble_eq

/-- **What is consumed is accounted for.** After every token of a list that is consumed without an
error, the state says where all tokens so far have gone. So each list that is assembled in turn is
shorter by two tokens at least, and the recursion is well-founded and has one result. -/
theorem isAfter_of_run (valid : keywords.fault? = none) (tokens : List Token) :
    (∀ consumed state, consumed <+: tokens →
        Assembly.run keywords (OpenBlock.build keywords (assemble keywords)) {} consumed
          = .ok state →
        state.IsAfter keywords consumed)
      ∧ (∀ body, Hands keywords tokens body → body.length + 2 ≤ tokens.length)
      ∧ WellFounded (fun body tokens => Hands keywords tokens body)
      ∧ ∀ parse, (∀ tokens, parse tokens
            = Assembly.run keywords (OpenBlock.build keywords parse) {} tokens
              >>= Assembly.finish keywords)
          ↔ parse = assemble keywords :=
  ⟨fun _ _ _ h => .of_run valid h, fun _ h => h.length_add_two_le,
    wellFounded_hands keywords, fun _ => eq_assemble_iff⟩

/-- An inner `switch` in the default of one whose case has taken up the text in front of it. -/
theorem isAfter_of_run_lead :
    let opener : Token := ⟨.statement Keyword.switch.label, ['x'], {}⟩
    let case : Token := ⟨.statement Keyword.case.label, ['1'], {}⟩
    let default : Token := ⟨.statement Keyword.default.label, [], {}⟩
    let inner : Token := ⟨.statement Keyword.switch.label, ['y'], {}⟩
    let consumed : List Token :=
      [⟨.text, ['a'], {}⟩, opener, ⟨.text, ['b'], {}⟩, case, ⟨.text, ['c'], {}⟩, default, inner]
    let state : Assembly :=
      ⟨[.text ['a']],
        some
          { family := .switch, opener, branch := some default, depth := 2
            branches := [(case, [⟨.text, ['b'], {}⟩, ⟨.text, ['c'], {}⟩])], body := [inner] }⟩
    ({} : Keywords).fault? = none
      ∧ Assembly.run {} (OpenBlock.build {} (assemble {})) {} consumed = .ok state
      ∧ state.IsAfter {} consumed := by
  intro opener case default inner consumed state
  have run : Assembly.run {} (OpenBlock.build {} (assemble {})) {} consumed = .ok state := rfl
  have valid : ({} : Keywords).fault? = none := by decide
  exact ⟨valid, run, (isAfter_of_run valid consumed).1 consumed state (List.prefix_refl _) run⟩

end Stencil
