import Stencil.Proofs.Block.Depth

/-!
# The grammar of blocks

Which trees a list of tokens has, said without any assembling. A list of tokens is a sequence of
items: texts, expressions, and blocks from an opening statement to the closing one of its family.
`Derives keywords tokens (.items nodes)` holds when the items of `tokens` are `nodes`.

Design points:

* A block is cut where its own statements stand and nowhere else. That inner blocks are closed
  inside of one body is not asked for: it follows, since every body has to be derived by itself
  (`Derives.isClosed`).
* What stands in a `switch` before its first branch belongs to the body of that branch, whether it
  is a case or the default. It need not be derivable alone, so it may open a block that the branch
  closes; only an inner `switch` has to be closed in it.
* A `switch` without branches is all default.
-/

namespace Stencil

/-- What a run of tokens is read as. -/
inductive Phrase
  /-- A sequence of items, with their nodes. -/
  | items (nodes : List Node)
  /-- Any number of branches that one statement begins, each with its source and its tree. -/
  | branches (keyword : Keyword) (branches : List (Text × List Node))
  /-- At most one branch that a statement begins, with its tree. -/
  | last (keyword : Keyword) (body : Option (List Node))

/-- The tokens are read as the phrase. -/
inductive Derives (keywords : Keywords) : List Token → Phrase → Prop
  | nil : Derives keywords [] (.items [])
  | text {token rest nodes} (kind : token.kind = .text)
      (more : Derives keywords rest (.items nodes)) :
      Derives keywords (token :: rest) (.items (.text token.value :: nodes))
  | expression {token rest nodes} (kind : token.kind = .expression)
      (more : Derives keywords rest (.items nodes)) :
      Derives keywords (token :: rest)
        (.items (.expression (Script.prepare token.value) :: nodes))
  | conditional {opener first middle tail closer rest tree branches otherwise nodes}
      (opens : opener.Spells keywords .if_) (body : Derives keywords first (.items tree))
      (others : Derives keywords middle (.branches .elseif branches))
      (final : Derives keywords tail (.last .else_ otherwise))
      (closes : closer.Spells keywords .endif) (more : Derives keywords rest (.items nodes)) :
      Derives keywords (opener :: (first ++ middle ++ tail) ++ closer :: rest)
        (.items
          (.conditional ((Script.prepare opener.value, tree) :: branches) otherwise :: nodes))
  | iteration {opener inner closer rest header tree nodes}
      (opens : opener.Spells keywords .foreach)
      (accepted : LoopHeader.ofArgument opener.name opener.value = .ok header)
      (body : Derives keywords inner (.items tree))
      (closes : closer.Spells keywords .endforeach) (more : Derives keywords rest (.items nodes)) :
      Derives keywords (opener :: inner ++ closer :: rest)
        (.items
          (.iteration { header with collection := Script.prepare header.collection } tree :: nodes))
  /-- Without branches. -/
  | switch {opener before closer rest tree nodes} (opens : opener.Spells keywords .switch)
      (body : Derives keywords before (.items tree)) (closes : closer.Spells keywords .endswitch)
      (more : Derives keywords rest (.items nodes)) :
      Derives keywords (opener :: before ++ closer :: rest)
        (.items (.switch (Script.prepare opener.value) [] (some tree) :: nodes))
  /-- With nothing but a default. -/
  | switchDefault {opener before branch inner closer rest tree nodes}
      (opens : opener.Spells keywords .switch) (closed : Family.switch.IsClosed keywords before)
      (begins : branch.Spells keywords .default)
      (body : Derives keywords (before ++ inner) (.items tree))
      (closes : closer.Spells keywords .endswitch) (more : Derives keywords rest (.items nodes)) :
      Derives keywords (opener :: (before ++ branch :: inner) ++ closer :: rest)
        (.items (.switch (Script.prepare opener.value) [] (some tree) :: nodes))
  /-- With one case or more. -/
  | switchCases {opener before branch inner middle tail closer rest tree cases otherwise nodes}
      (opens : opener.Spells keywords .switch) (closed : Family.switch.IsClosed keywords before)
      (begins : branch.Spells keywords .case)
      (body : Derives keywords (before ++ inner) (.items tree))
      (others : Derives keywords middle (.branches .case cases))
      (final : Derives keywords tail (.last .default otherwise))
      (closes : closer.Spells keywords .endswitch) (more : Derives keywords rest (.items nodes)) :
      Derives keywords
        (opener :: (before ++ branch :: inner ++ middle ++ tail) ++ closer :: rest)
        (.items
          (.switch (Script.prepare opener.value) ((Script.prepare branch.value, tree) :: cases)
            otherwise :: nodes))
  | noBranch {keyword} : Derives keywords [] (.branches keyword [])
  | branch {keyword token inner rest tree branches} (begins : token.Spells keywords keyword)
      (body : Derives keywords inner (.items tree))
      (others : Derives keywords rest (.branches keyword branches)) :
      Derives keywords (token :: inner ++ rest)
        (.branches keyword ((Script.prepare token.value, tree) :: branches))
  | noLast {keyword} : Derives keywords [] (.last keyword none)
  | last {keyword token inner tree} (begins : token.Spells keywords keyword)
      (body : Derives keywords inner (.items tree)) :
      Derives keywords (token :: inner) (.last keyword (some tree))

namespace Derives

variable {keywords : Keywords} {tokens more : List Token} {nodes others : List Node}
variable {phrase : Phrase}

/-! ### Sequences -/

/-- Sequences of items one after another are a sequence of items. -/
theorem append (h : Derives keywords tokens (.items nodes))
    (h' : Derives keywords more (.items others)) :
    Derives keywords (tokens ++ more) (.items (nodes ++ others)) := by
  -- The induction needs the phrase as a variable; the cases of branches and last branches go away
  -- by it.
  generalize hphrase : Phrase.items nodes = phrase at h
  induction h generalizing nodes with
  | nil =>
      cases hphrase
      exact h'
  | text kind _ ih =>
      cases hphrase
      exact .text kind (ih rfl)
  | expression kind _ ih =>
      cases hphrase
      exact .expression kind (ih rfl)
  | conditional opens body others final closes _ _ _ _ ih =>
      cases hphrase
      rw [List.append_assoc]
      exact .conditional opens body others final closes (ih rfl)
  | iteration opens accepted body closes _ _ ih =>
      cases hphrase
      rw [List.append_assoc]
      exact .iteration opens accepted body closes (ih rfl)
  | switch opens body closes _ _ ih =>
      cases hphrase
      rw [List.append_assoc]
      exact .switch opens body closes (ih rfl)
  | switchDefault opens closed begins body closes _ _ ih =>
      cases hphrase
      rw [List.append_assoc]
      exact .switchDefault opens closed begins body closes (ih rfl)
  | switchCases opens closed begins body others final closes _ _ _ _ ih =>
      cases hphrase
      rw [List.append_assoc]
      exact .switchCases opens closed begins body others final closes (ih rfl)
  | noBranch | branch | noLast | last => cases hphrase

end Derives

/-! ### Balance -/

namespace Family

/-- The run can stand in a block of the family `around`: it leaves every depth that there can be. -/
def IsInner (keywords : Keywords) (family around : Family) (tokens : List Token) : Prop :=
  ∀ depth, (around = family → 0 < depth) → family.depthAfter keywords depth tokens = some depth

variable {keywords : Keywords} {family around : Family} {tokens more : List Token} {token : Token}
variable {keyword : Keyword} {depth : Nat}

/-- What is closed for a family can stand in the body of any block. -/
theorem IsClosed.isInner (h : family.IsClosed keywords tokens) :
    family.IsInner keywords around tokens :=
  fun depth _ => h.depthAfter depth

theorem IsInner.append (h : family.IsInner keywords around tokens)
    (h' : family.IsInner keywords around more) :
    family.IsInner keywords around (tokens ++ more) := by
  intro depth hdepth
  rw [depthAfter_append, h depth hdepth, Option.bind_some, h' depth hdepth]

/-- A statement that begins a branch leaves the depth, inside of a block of its family. -/
theorem depthStep_of_branch (valid : keywords.fault? = none) (h : token.Spells keywords keyword)
    (hrole : keyword.role = .branch ∨ keyword.role = .lastBranch)
    (hdepth : keyword.family = family → 0 < depth) :
    family.depthStep keywords depth token = some depth := by
  by_cases same : keyword.family = family
  · have hpos := hdepth same
    subst same
    rcases hrole with hrole | hrole <;> simp [depthStep, h.role? valid, hrole] <;> omega
  · simp [depthStep, h.role?_eq_none valid same]

/-- A branch of the block around is no part of a closed list by itself, and still one of a body. -/
theorem IsInner.branch (valid : keywords.fault? = none) (h : token.Spells keywords keyword)
    (hrole : keyword.role = .branch ∨ keyword.role = .lastBranch)
    (inner : family.IsClosed keywords tokens) :
    family.IsInner keywords keyword.family (token :: tokens) := by
  intro depth hdepth
  rw [depthAfter_cons, depthStep_of_branch valid h hrole hdepth, Option.bind_some,
    inner.depthAfter]

/-- A branch may be put into a closed run wherever the blocks of its own family are closed. -/
theorem IsInner.insert (valid : keywords.fault? = none) (h : token.Spells keywords keyword)
    (hrole : keyword.role = .branch ∨ keyword.role = .lastBranch)
    (before : keyword.family.IsClosed keywords tokens)
    (whole : family.IsClosed keywords (tokens ++ more)) :
    family.IsInner keywords keyword.family (tokens ++ token :: more) := by
  intro depth hdepth
  have hwhole := whole.depthAfter depth
  rw [depthAfter_append] at hwhole ⊢
  obtain ⟨mid, hmid, hmore⟩ := Option.bind_eq_some_iff.1 hwhole
  have hbranch : family.depthStep keywords mid token = some mid := by
    refine depthStep_of_branch valid h hrole fun same => ?_
    subst same
    rw [before.depthAfter, Option.some.injEq] at hmid
    exact hmid ▸ hdepth rfl
  rw [hmid, Option.bind_some, depthAfter_cons, hbranch, Option.bind_some, hmore]

/-- A block around an inner run is closed. -/
theorem IsClosed.block (valid : keywords.fault? = none) (around : Family) {opener closer : Token}
    (opens : opener.Spells keywords around.opener) (inner : family.IsInner keywords around tokens)
    (closes : closer.Spells keywords around.closer) (rest : family.IsClosed keywords more) :
    family.IsClosed keywords (opener :: tokens ++ closer :: more) := by
  have hopen := opens.role? valid
  have hclose := closes.role? valid
  simp only [Keyword.family_opener, Keyword.role_opener] at hopen
  simp only [Keyword.family_closer, Keyword.role_closer] at hclose
  by_cases same : around = family
  · subst same
    have hstep : around.depthStep keywords 0 opener = some 1 := by simp [depthStep, hopen]
    have hback : around.depthStep keywords 1 closer = some 0 := by simp [depthStep, hclose]
    rw [IsClosed, List.cons_append, depthAfter_cons, hstep, Option.bind_some, depthAfter_append,
      inner 1 (fun _ => Nat.one_pos), Option.bind_some, depthAfter_cons, hback]
    exact rest
  · have hstep : family.depthStep keywords 0 opener = some 0 := by
      simp [depthStep, opens.role?_eq_none valid (by simpa using same)]
    have hback : family.depthStep keywords 0 closer = some 0 := by
      simp [depthStep, closes.role?_eq_none valid (by simpa using same)]
    rw [IsClosed, List.cons_append, depthAfter_cons, hstep, Option.bind_some, depthAfter_append,
      inner 0 (fun h => absurd h same), Option.bind_some, depthAfter_cons, hback]
    exact rest

end Family

namespace Derives

variable {keywords : Keywords} {tokens : List Token} {nodes : List Node} {phrase : Phrase}

/-- How a run that is read as a phrase stands to a family: items are closed, and branches can stand
in a block of the family of their statement. -/
def Balanced (keywords : Keywords) (family : Family) (tokens : List Token) : Phrase → Prop
  | .items _ => family.IsClosed keywords tokens
  | .branches keyword _ | .last keyword _ =>
      keyword.role = .branch ∨ keyword.role = .lastBranch →
        family.IsInner keywords keyword.family tokens

/-- **Balance.** What is derived is balanced in every family, although the grammar asks for it in no
family but its own. -/
theorem balanced (valid : keywords.fault? = none) (family : Family)
    (h : Derives keywords tokens phrase) : Balanced keywords family tokens phrase := by
  have leaf : ∀ {token : Token} {rest : List Token}, (∀ name, token.kind ≠ .statement name) →
      family.IsClosed keywords rest → family.IsClosed keywords (token :: rest) := by
    intro token rest kind hrest
    have hstep : family.depthStep keywords 0 token = some 0 := by
      simp [Family.depthStep, Token.role?_eq_none_of_kind kind]
    rw [Family.IsClosed, Family.depthAfter_cons, hstep]
    exact hrest
  induction h with
  | nil => exact Family.IsClosed.nil
  | text kind _ ih => exact leaf (by simp [kind]) ih
  | expression kind _ ih => exact leaf (by simp [kind]) ih
  | conditional opens _ _ _ closes _ first middle tail rest =>
      have inner := (first.isInner.append (middle (by simp [Keyword.role]))).append
        (tail (by simp [Keyword.role]))
      exact Family.IsClosed.block valid .conditional opens inner closes rest
  | iteration opens _ _ closes _ inner rest =>
      exact Family.IsClosed.block valid .iteration opens inner.isInner closes rest
  | switch opens _ closes _ before rest =>
      exact Family.IsClosed.block valid .switch opens before.isInner closes rest
  -- The token of the first branch stands between two parts that are only closed together with it
  -- taken out, hence `insert`.
  | switchDefault opens closed begins _ closes _ whole rest =>
      have inner := Family.IsInner.insert valid begins (by simp [Keyword.role]) closed whole
      exact Family.IsClosed.block valid .switch opens inner closes rest
  | switchCases opens closed begins _ _ _ closes _ whole middle tail rest =>
      have first := Family.IsInner.insert valid begins (by simp [Keyword.role]) closed whole
      have inner := (first.append (middle (by simp [Keyword.role]))).append
        (tail (by simp [Keyword.role]))
      exact Family.IsClosed.block valid .switch opens inner closes rest
  | noBranch => exact fun _ => Family.IsClosed.nil.isInner
  | branch begins _ _ body others =>
      exact fun role => (Family.IsInner.branch valid begins role body).append (others role)
  | noLast => exact fun _ => Family.IsClosed.nil.isInner
  | last begins _ body => exact fun role => Family.IsInner.branch valid begins role body

/-- What is derived opens and closes its blocks, seen from any family. -/
theorem isClosed (valid : keywords.fault? = none) (h : Derives keywords tokens (.items nodes))
    (family : Family) : family.IsClosed keywords tokens :=
  h.balanced valid family

/-- No statement of what is derived is unknown. -/
theorem isKnown (valid : keywords.fault? = none) (h : Derives keywords tokens phrase) :
    ∀ token ∈ tokens, token.IsKnown keywords := by
  induction h with
  | nil | noBranch | noLast => simp
  | text kind _ ih => simpa using ⟨Token.isKnown_of_kind (by simp [kind]), ih⟩
  | expression kind _ ih => simpa using ⟨Token.isKnown_of_kind (by simp [kind]), ih⟩
  | conditional opens _ _ _ closes _ first middle tail rest =>
      have := opens.isKnown valid
      have := closes.isKnown valid
      grind
  | iteration opens _ _ closes _ inner rest =>
      have := opens.isKnown valid
      have := closes.isKnown valid
      grind
  | switch opens _ closes _ before rest =>
      have := opens.isKnown valid
      have := closes.isKnown valid
      grind
  | switchDefault opens _ begins _ closes _ whole rest =>
      have := opens.isKnown valid
      have := begins.isKnown valid
      have := closes.isKnown valid
      grind
  | switchCases opens _ begins _ _ _ closes _ whole middle tail rest =>
      have := opens.isKnown valid
      have := begins.isKnown valid
      have := closes.isKnown valid
      grind
  | branch begins _ _ body others =>
      have := begins.isKnown valid
      grind
  | last begins _ body =>
      have := begins.isKnown valid
      grind

end Derives

end Stencil
