import Stencil.Proofs.Block.Exchange
import Stencil.Proofs.Render.TwoWay

/-!
# Branches of a conditional as conditionals

An `elseif` says the same as an `else` whose body is a conditional. Either way of writing a
conditional may stand for the other in any template (`areInterchangeable_split`), and so may the nest
of conditionals that is left when every `elseif` was replaced (`areInterchangeable_nestRuns`).

Some conditionals of a template do not stand in a row: one that is opened in front of the first branch
of a `switch` goes on behind the statement of the branch. What stands there can be moved behind that
statement, so every template has an equivalent one without any `elseif` (`Derives.hasTwoWay`).
-/

namespace Stencil

variable {keywords : Keywords} {keyword : Keyword} {runs : List (Token × List Token)}
variable {trees : List (Text × List Node)} {tail : List Token} {otherwise : Option (List Node)}

/-! ### Runs and the branches they are read as -/

/-- Each run is read as a branch, whatever statement begins it. -/
def AreReadAs (keywords : Keywords) (runs : List (Token × List Token))
    (trees : List (Text × List Node)) : Prop :=
  List.Forall₂ (fun run tree => tree.1 = Script.prepare run.1.value
    ∧ Derives keywords run.2 (.items tree.2)) runs trees

theorem AreReadAs.branches (h : AreReadAs keywords runs trees)
    (begins : ∀ run ∈ runs, run.1.Spells keywords keyword) :
    Derives keywords (spread runs) (.branches keyword trees) := by
  induction h with
  | nil => exact .noBranch
  | @cons run tree runs trees head _ ih =>
      obtain ⟨source, body⟩ := tree
      obtain ⟨rfl, hbody⟩ := head
      obtain ⟨hrun, hruns⟩ := List.forall_mem_cons.1 begins
      rw [spread_cons]
      exact .branch hrun hbody (ih hruns)

/-- Accepted bodies are read as branches. -/
theorem exists_areReadAs (valid : keywords.fault? = none)
    (accepted : ∀ run ∈ runs, ∃ nodes, assemble keywords run.2 = .ok nodes) :
    ∃ trees, AreReadAs keywords runs trees := by
  induction runs with
  | nil => exact ⟨[], .nil⟩
  | cons run runs ih =>
      obtain ⟨⟨nodes, hrun⟩, hruns⟩ := List.forall_mem_cons.1 accepted
      obtain ⟨trees, htrees⟩ := ih hruns
      exact ⟨(Script.prepare run.1.value, nodes) :: trees,
        .cons ⟨rfl, derives_of_assemble valid hrun⟩ htrees⟩

theorem exists_last (valid : keywords.fault? = none) {final : Option (Token × List Token)}
    (begins : ∀ run ∈ final, run.1.Spells keywords keyword)
    (accepted : ∀ run ∈ final, ∃ nodes, assemble keywords run.2 = .ok nodes) :
    ∃ otherwise, Derives keywords (spread final.toList) (.last keyword otherwise) := by
  cases final with
  | none => exact ⟨none, .noLast⟩
  | some run =>
      obtain ⟨nodes, hrun⟩ := accepted run rfl
      have hlast := Derives.last (begins run rfl) (derives_of_assemble valid hrun)
      exact ⟨some nodes, by simpa using hlast⟩

/-! ### Nested runs -/

/-- A statement, as if it stood at the start of a text. -/
def Keywords.statement (keywords : Keywords) (keyword : Keyword) (argument : Text) : Token :=
  ⟨.statement (keywords.spelling keyword), argument, {}⟩

theorem spells_statement (keywords : Keywords) (keyword : Keyword) (argument : Text) :
    (keywords.statement keyword argument).Spells keywords keyword := rfl

/-- Runs as what stands behind the body of a conditional. Each of them is an `else` with a conditional
in it, and the runs behind it stand in that one in turn. -/
def nestRuns (keywords : Keywords) (tail : List Token) : List (Token × List Token) → List Token
  | [] => tail
  | run :: rest =>
      keywords.statement .else_ [] ::
        (keywords.statement .if_ run.1.value :: (run.2 ++ nestRuns keywords tail rest)
          ++ [keywords.statement .endif []])

/-- A conditional without `elseif`. -/
theorem Derives.twoWay {opener closer : Token} {first rest : List Token} {tree nodes : List Node}
    (opens : opener.Spells keywords .if_) (body : Derives keywords first (.items tree))
    (final : Derives keywords tail (.last .else_ otherwise)) (closes : closer.Spells keywords .endif)
    (more : Derives keywords rest (.items nodes)) :
    Derives keywords (opener :: (first ++ tail) ++ closer :: rest)
      (.items (.conditional [(Script.prepare opener.value, tree)] otherwise :: nodes)) := by
  have := Derives.conditional opens body .noBranch final closes more
  rwa [List.append_nil] at this

/-- Nested runs are read as nested branches. -/
theorem AreReadAs.nest (h : AreReadAs keywords runs trees)
    (final : Derives keywords tail (.last .else_ otherwise)) :
    Derives keywords (nestRuns keywords tail runs) (.last .else_ (Node.nest otherwise trees)) := by
  induction h with
  | nil => exact final
  | @cons run tree runs trees head _ ih =>
      obtain ⟨source, body⟩ := tree
      obtain ⟨rfl, hbody⟩ := head
      exact .last (spells_statement keywords .else_ [])
        (.twoWay (spells_statement keywords .if_ _) hbody ih (spells_statement keywords .endif [])
          .nil)

/-! ### Templates without `elseif` -/

/-- None of the tokens is an `elseif`. -/
def HasNoElseif (keywords : Keywords) (tokens : List Token) : Prop :=
  ∀ token ∈ tokens, ¬token.Spells keywords .elseif

section

variable {token : Token} {tokens more : List Token}

@[simp] theorem hasNoElseif_nil : HasNoElseif keywords [] := nofun

@[simp] theorem hasNoElseif_cons_iff : HasNoElseif keywords (token :: tokens)
    ↔ ¬token.Spells keywords .elseif ∧ HasNoElseif keywords tokens :=
  List.forall_mem_cons

@[simp] theorem hasNoElseif_append_iff : HasNoElseif keywords (tokens ++ more)
    ↔ HasNoElseif keywords tokens ∧ HasNoElseif keywords more :=
  List.forall_mem_append

theorem not_spells_of_kind (kind : ∀ name, token.kind ≠ .statement name) :
    ¬token.Spells keywords keyword :=
  fun h => kind _ h

theorem Token.Spells.not_elseif (valid : keywords.fault? = none) (h : token.Spells keywords keyword)
    (other : keyword ≠ .elseif) : ¬token.Spells keywords .elseif := by
  intro h'
  rw [Token.Spells, show token.kind = _ from h, Token.Kind.statement.injEq] at h'
  exact other (Keywords.spelling_injective valid h')

theorem hasNoElseif_spread (valid : keywords.fault? = none) (other : keyword ≠ .elseif)
    (h : ∀ run ∈ runs, run.1.Spells keywords keyword ∧ HasNoElseif keywords run.2) :
    HasNoElseif keywords (spread runs) := by
  induction runs with
  | nil => simp
  | cons run runs ih =>
      obtain ⟨⟨begins, hrun⟩, hruns⟩ := List.forall_mem_cons.1 h
      simpa [begins.not_elseif valid other, hrun] using ih hruns

/-- The nest of two-way conditionals has no `elseif`, if the bodies have none. -/
theorem hasNoElseif_nestRuns (valid : keywords.fault? = none) (htail : HasNoElseif keywords tail)
    (h : ∀ run ∈ runs, HasNoElseif keywords run.2) :
    HasNoElseif keywords (nestRuns keywords tail runs) := by
  have statement {keyword : Keyword} (argument : Text) (other : keyword ≠ .elseif) :
      ¬(keywords.statement keyword argument).Spells keywords .elseif :=
    (spells_statement keywords keyword argument).not_elseif valid other
  induction runs with
  | nil => exact htail
  | cons run runs ih =>
      obtain ⟨hrun, hruns⟩ := List.forall_mem_cons.1 h
      simp [nestRuns, statement, hrun, ih hruns]

end

/-- What is read as the phrase can be said without `elseif`: there are tokens for it with nested
conditionals. -/
def HasTwoWay (keywords : Keywords) : Phrase → Prop
  | .items nodes => ∃ tokens, HasNoElseif keywords tokens
      ∧ Derives keywords tokens (.items (Node.twoWayList nodes))
  | .branches keyword branches => ∃ runs,
      (∀ run ∈ runs, run.1.Spells keywords keyword ∧ HasNoElseif keywords run.2)
      ∧ AreReadAs keywords runs (Node.twoWayBranches branches)
  | .last keyword otherwise => keyword ≠ .elseif → ∃ tokens, HasNoElseif keywords tokens
      ∧ Derives keywords tokens (.last keyword (Node.twoWayOption otherwise))

/-- **Every template can be written without `elseif`**, with the same tree but for the conditionals
in it, which are nested. -/
theorem Derives.hasTwoWay (valid : keywords.fault? = none) {tokens : List Token} {phrase : Phrase}
    (h : Derives keywords tokens phrase) : HasTwoWay keywords phrase := by
  have plain {token : Token} {keyword : Keyword} (h : token.Spells keywords keyword)
      (other : keyword ≠ .elseif) : ¬token.Spells keywords .elseif := h.not_elseif valid other
  have closed : Family.switch.IsClosed keywords [] := Family.IsClosed.nil
  induction h with
  | nil => exact ⟨[], hasNoElseif_nil, .nil⟩
  | @text token _ _ kind _ more =>
      obtain ⟨rest, hrest, more⟩ := more
      exact ⟨token :: rest, by simpa [hrest] using not_spells_of_kind (by simp [kind]),
        .text kind more⟩
  | @expression token _ _ kind _ more =>
      obtain ⟨rest, hrest, more⟩ := more
      exact ⟨token :: rest, by simpa [hrest] using not_spells_of_kind (by simp [kind]),
        .expression kind more⟩
  | @conditional opener _ _ _ closer _ _ _ _ _ opens _ _ _ closes _ body others final more =>
      obtain ⟨first, hfirst, body⟩ := body
      obtain ⟨runs, hruns, read⟩ := others
      obtain ⟨tail, htail, final⟩ := final (by decide)
      obtain ⟨rest, hrest, more⟩ := more
      have hnest := hasNoElseif_nestRuns valid htail fun run hrun => (hruns run hrun).2
      exact ⟨opener :: (first ++ nestRuns keywords tail runs) ++ closer :: rest,
        by simp [plain opens, plain closes, hfirst, hnest, hrest],
        .twoWay opens body (read.nest final) closes more⟩
  | @iteration opener _ closer _ _ _ _ opens accepted _ closes _ body more =>
      obtain ⟨inner, hinner, body⟩ := body
      obtain ⟨rest, hrest, more⟩ := more
      exact ⟨opener :: inner ++ closer :: rest, by simp [plain opens, plain closes, hinner, hrest],
        .iteration opens accepted body closes more⟩
  | @switch opener _ closer _ _ _ opens _ closes _ body more =>
      obtain ⟨inner, hinner, body⟩ := body
      obtain ⟨rest, hrest, more⟩ := more
      exact ⟨opener :: inner ++ closer :: rest, by simp [plain opens, plain closes, hinner, hrest],
        .switch opens body closes more⟩
  -- What stands in front of the first branch goes behind the statement that begins it.
  | @switchDefault opener _ branch _ closer _ _ _ opens _ begins _ closes _ body more =>
      obtain ⟨inner, hinner, body⟩ := body
      obtain ⟨rest, hrest, more⟩ := more
      exact ⟨opener :: ([] ++ branch :: inner) ++ closer :: rest,
        by simp [plain opens, plain begins, plain closes, hinner, hrest],
        .switchDefault opens closed begins body closes more⟩
  | @switchCases opener _ branch _ _ _ closer _ _ _ _ _ opens _ begins _ _ _ closes _ body others
      final more =>
      obtain ⟨inner, hinner, body⟩ := body
      obtain ⟨runs, hruns, read⟩ := others
      obtain ⟨tail, htail, final⟩ := final (by decide)
      obtain ⟨rest, hrest, more⟩ := more
      have hspread := hasNoElseif_spread valid (by decide) hruns
      exact ⟨opener :: ([] ++ branch :: inner ++ spread runs ++ tail) ++ closer :: rest,
        by simp [plain opens, plain begins, plain closes, hinner, hspread, htail, hrest],
        .switchCases opens closed begins body (read.branches fun run hrun => (hruns run hrun).1)
          final closes more⟩
  | noBranch => exact ⟨[], nofun, .nil⟩
  | @branch keyword token _ _ _ _ begins _ _ body others =>
      obtain ⟨inner, hinner, body⟩ := body
      obtain ⟨runs, hruns, read⟩ := others
      exact ⟨(token, inner) :: runs, List.forall_mem_cons.2 ⟨⟨begins, hinner⟩, hruns⟩,
        .cons ⟨rfl, body⟩ read⟩
  | noLast => exact fun _ => ⟨[], hasNoElseif_nil, .noLast⟩
  | @last keyword token _ _ begins _ body =>
      intro other
      obtain ⟨inner, hinner, body⟩ := body
      exact ⟨token :: inner, by simpa [hinner] using plain begins other, .last begins body⟩

/-! ### One `elseif` -/

section

variable {opener branch other inner closer closer' : Token} {first body : List Token}

/-- **The first `elseif` of a conditional** may be written as an `else` with a conditional that goes
on with the other branches. -/
theorem areInterchangeable_split (valid : keywords.fault? = none)
    {tree found : List Node} (opens : opener.Spells keywords .if_)
    (hfirst : Derives keywords first (.items tree)) (begins : branch.Spells keywords .elseif)
    (hbody : Derives keywords body (.items found)) (turns : other.Spells keywords .else_)
    (reopens : inner.Spells keywords .if_) (same : inner.value = branch.value)
    (read : AreReadAs keywords runs trees) (hruns : ∀ run ∈ runs, run.1.Spells keywords .elseif)
    (final : Derives keywords tail (.last .else_ otherwise))
    (closes : closer.Spells keywords .endif) (closes' : closer'.Spells keywords .endif) :
    AreInterchangeable keywords
      (opener :: (first ++ (branch :: body ++ spread runs) ++ tail) ++ [closer])
      (opener :: (first ++ other :: (inner :: (body ++ spread runs ++ tail) ++ [closer']))
        ++ [closer]) := by
  have others := read.branches hruns
  have chain := Derives.conditional opens hfirst (.branch begins hbody others) final closes .nil
  have nested := Derives.conditional reopens hbody others final closes' .nil
  have split := Derives.twoWay opens hfirst (.last turns nested) closes .nil
  refine areInterchangeable_of_equivalent valid (chain.assemble valid) (split.assemble valid) ?_
  rw [same]
  exact Node.equivalent_split _ _ _

/-- **All branches of a conditional** may be nested. -/
theorem areInterchangeable_nestRuns (valid : keywords.fault? = none) {tree : List Node}
    (opens : opener.Spells keywords .if_) (hfirst : Derives keywords first (.items tree))
    (read : AreReadAs keywords runs trees) (hruns : ∀ run ∈ runs, run.1.Spells keywords .elseif)
    (final : Derives keywords tail (.last .else_ otherwise))
    (closes : closer.Spells keywords .endif) :
    AreInterchangeable keywords (opener :: (first ++ spread runs ++ tail) ++ [closer])
      (opener :: (first ++ nestRuns keywords tail runs) ++ [closer]) := by
  have chain := Derives.conditional opens hfirst (read.branches hruns) final closes .nil
  have nest := Derives.twoWay opens hfirst (read.nest final) closes .nil
  exact areInterchangeable_of_equivalent valid (chain.assemble valid) (nest.assemble valid)
    (Node.equivalent_nest _ _)

end

/-- **An `elseif` is a nested conditional.** A conditional with an `elseif` may be written with an
`else` and a conditional in it, or with all its branches nested: all are accepted, and no evaluator
can tell them apart, nor can one that records what it evaluates. Whatever stands around them, the
whole is refused with one error or rendered alike. So every template can be written without `elseif`,
with a nest in the place of every conditional. -/
theorem areInterchangeable_elseif {keywords : Keywords} (valid : keywords.fault? = none)
    {opener branch other inner closer closer' : Token} {first body : List Token}
    {runs : List (Token × List Token)} {final : Option (Token × List Token)}
    (opens : opener.Spells keywords .if_)
    (begins : branch.Spells keywords .elseif) (turns : other.Spells keywords .else_)
    (reopens : inner.Spells keywords .if_) (same : inner.value = branch.value)
    (closes : closer.Spells keywords .endif) (closes' : closer'.Spells keywords .endif)
    (hfirst : ∃ nodes, assemble keywords first = .ok nodes)
    (hbody : ∃ nodes, assemble keywords body = .ok nodes)
    (hruns : ∀ run ∈ runs, run.1.Spells keywords .elseif
      ∧ ∃ nodes, assemble keywords run.2 = .ok nodes)
    (hfinal : ∀ run ∈ final, run.1.Spells keywords .else_
      ∧ ∃ nodes, assemble keywords run.2 = .ok nodes) :
    let rest := spread runs ++ spread final.toList
    let chain := opener :: (first ++ branch :: (body ++ rest)) ++ [closer]
    let nested := opener :: (first ++ other :: (inner :: (body ++ rest) ++ [closer'])) ++ [closer]
    let nest := opener :: (first ++ nestRuns keywords (spread final.toList) ((branch, body) :: runs))
      ++ [closer]
    AreInterchangeable keywords chain nested ∧ AreInterchangeable keywords chain nest
      ∧ ∀ tokens nodes, assemble keywords tokens = .ok nodes → ∃ others,
          HasNoElseif keywords others ∧ assemble keywords others = .ok (Node.twoWayList nodes)
            ∧ Node.Equivalent nodes (Node.twoWayList nodes) := by
  intro rest chain nested nest
  obtain ⟨tree, hfirst⟩ := hfirst
  obtain ⟨found, hbody⟩ := hbody
  obtain ⟨trees, read⟩ := exists_areReadAs valid fun run hrun => (hruns run hrun).2
  obtain ⟨otherwise, last⟩ := exists_last valid (fun run hrun => (hfinal run hrun).1)
    fun run hrun => (hfinal run hrun).2
  have hfirst : Derives keywords first (.items tree) := derives_of_assemble valid hfirst
  have hbody : Derives keywords body (.items found) := derives_of_assemble valid hbody
  have elseifs : ∀ run ∈ runs, run.1.Spells keywords .elseif := fun run hrun => (hruns run hrun).1
  -- Splitting takes the first `elseif` apart from the others; the nest takes all of them together.
  have all : AreReadAs keywords ((branch, body) :: runs)
      ((Script.prepare branch.value, found) :: trees) := .cons ⟨rfl, hbody⟩ read
  refine ⟨?_, ?_, fun tokens nodes h => ?_⟩
  · have split := areInterchangeable_split valid opens hfirst begins hbody turns reopens same read
      elseifs last closes closes'
    simpa [chain, nested, rest] using split
  · have split := areInterchangeable_nestRuns valid opens hfirst all
      (List.forall_mem_cons.2 ⟨begins, elseifs⟩) last closes
    simpa [chain, nest, rest] using split
  · obtain ⟨others, hothers, derives⟩ := (derives_of_assemble valid h).hasTwoWay valid
    exact ⟨others, hothers, derives.assemble valid, Node.equivalent_twoWayList nodes⟩

/-- Three branches, of which the second one is chosen after two evaluations. -/
theorem areInterchangeable_elseif_counting :
    let statement := ({} : Keywords).statement
    let text (letter : Char) : Token := ⟨.text, [letter], {}⟩
    let rest := [text 'b', statement .else_ [], text 'c', statement .endif []]
    let chain := statement .if_ ['x'] :: text 'a' :: statement .elseif ['y'] :: rest
    let nested := statement .if_ ['x'] :: text 'a' :: statement .else_ [] ::
      (statement .if_ ['y'] :: rest ++ [statement .endif []])
    let others : List Node := [.conditional [(Script.prepare ['y'], [.text ['b']])]
      (some [.text ['c']])]
    let nodes : List Node := [.conditional [(Script.prepare ['x'], [.text ['a']]),
      (Script.prepare ['y'], [.text ['b']])] (some [.text ['c']])]
    let nodes' : List Node := [.conditional [(Script.prepare ['x'], [.text ['a']])] (some others)]
    let result : EStateM.Result (RenderError Empty Nat) (Nat × List Text) Text :=
      .ok ['b'] (2, [Script.prepare ['x'], Script.prepare ['y']])
    ({} : Keywords).fault? = none ∧ assemble {} chain = .ok nodes ∧ assemble {} nested = .ok nodes'
      ∧ AreInterchangeable {} chain nested
      ∧ Node.renderList Evaluator.counting.recorded nodes () (0, []) = result
      ∧ Node.renderList Evaluator.counting.recorded nodes' () (0, []) = result := by
  intro statement text rest chain nested others nodes nodes' result
  have interchangeable := @areInterchangeable_elseif {} (by decide) (statement .if_ ['x'])
    (statement .elseif ['y']) (statement .else_ []) (statement .if_ ['y']) (statement .endif [])
    (statement .endif []) [text 'a'] [text 'b'] [] (some (statement .else_ [], [text 'c']))
    rfl rfl rfl rfl rfl rfl rfl ⟨_, rfl⟩ ⟨_, rfl⟩ nofun fun run hrun => by
      obtain rfl := Option.some.inj hrun
      exact ⟨rfl, _, rfl⟩
  exact ⟨by decide, rfl, rfl, interchangeable.1, rfl, rfl⟩

end Stencil
