import Stencil.Proofs.Culprit
import Stencil.Proofs.Render.Recording

/-!
# Templates without statements

A text in which no statement opens is woven of literals and expressions (`Woven`) in one way only.
Rendering it puts the shown values in the place of the expressions (`Fills`): each expression that is
not blank is evaluated once, in order and in the state that those before it left, and the first that
fails ends the render. A text without any delimiter stands for itself (`fillsIn_of_compile`).

A shown value is inserted as it is. No value is looked into for delimiters, for `Fills` speaks of
the pieces of the template alone.
-/

namespace Stencil

/-- The text is made of pieces, each a literal and an expression behind it, and a last literal. Every
opener is the first one behind the closer before it, and every closer the first one behind its
opener. -/
inductive Woven (d : Delimiters) : Text → List (Text × Text) → Text → Prop
  | last {text} (unopened : ¬d.expressionStart <:+: text) : Woven d text [] text
  | block {text before inside raw rest pieces last}
      (opened : Text.FirstCut d.expressionStart text before inside)
      (closed : Text.FirstCut d.expressionEnd inside raw rest) (more : Woven d rest pieces last) :
      Woven d text ((before, raw) :: pieces) last

section

variable {d : Delimiters} {text last other : Text} {pieces others : List (Text × Text)}

/-- The pieces of a woven text make up the text. -/
theorem Woven.text_eq (h : Woven d text pieces last) :
    text = pieces.flatMap (fun piece =>
      piece.1 ++ d.expressionStart ++ piece.2 ++ d.expressionEnd) ++ last := by
  induction h with
  | last => rfl
  | block opened closed _ ih =>
      rw [opened.text_eq, closed.text_eq, ih]
      simp

/-- A text is woven in one way only. At each step the opener and the closer stand where they are
found first. -/
theorem Woven.unique (h : Woven d text pieces last) (h' : Woven d text others other) :
    others = pieces ∧ other = last := by
  induction h generalizing others with
  | last unopened =>
      cases h' with
      | last => exact ⟨rfl, rfl⟩
      | block opened => exact absurd ⟨_, _, opened.text_eq.symm⟩ unopened
  | block opened closed _ ih =>
      cases h' with
      | last unopened => exact absurd ⟨_, _, opened.text_eq.symm⟩ unopened
      | block opened' closed' more' =>
          obtain ⟨rfl, rfl⟩ := opened.unique opened'
          obtain ⟨rfl, rfl⟩ := closed.unique closed'
          obtain ⟨rfl, rfl⟩ := ih more'
          exact ⟨rfl, rfl⟩

end

/-! ### What is cut from a woven text -/

open Segment

/-- The shapes that the pieces are cut into. -/
def shapesOf (last : Text) : List (Text × Text) → List Shape
  | [] => literals last
  | (before, raw) :: rest => literals before ++ .block .expression raw :: shapesOf last rest

/-- No occurrence of an opener begins in a literal that it does not open in. -/
theorem length_le_of_unopened {d : Delimiters} {text rest b a : Text} (kind : BlockKind)
    (unopened : d.Unopened text rest) (h : text ++ rest = b ++ d.opener kind ++ a) :
    text.length ≤ b.length := by
  rw [List.append_assoc] at h
  obtain ⟨inner, rfl, -⟩ | ⟨inner, rfl, hrest⟩ := List.append_eq_append_iff.1 h
  · simp
  · cases inner with
    | nil => simp
    | cons c inner =>
        have hstarts : d.opener kind <+: (c :: inner) ++ rest := ⟨a, hrest⟩
        exact absurd hstarts (unopened b (c :: inner) rfl (List.cons_ne_nil c inner) kind)

/-- A literal that nothing follows has no opener in it. -/
theorem not_isInfix_of_unopened {d : Delimiters} (valid : d.AreNonempty) {text : Text}
    (unopened : d.Unopened text []) : ¬d.expressionStart <:+: text := by
  rintro ⟨b, a, htext⟩
  have hlength : text.length ≤ b.length :=
    length_le_of_unopened (a := a) .expression unopened (by rw [List.append_nil, ← htext]; rfl)
  have hlengths := congrArg List.length htext
  rw [List.length_append, List.length_append] at hlengths
  exact (valid .expression).1 (List.eq_nil_of_length_eq_zero (by
    show d.expressionStart.length = 0
    omega))

/-- A text that is cut, and has no statements, is woven. The recursion is that of the cutting. -/
theorem woven_of_cutting {d : Delimiters} (valid : d.AreNonempty) {text : Text} {shapes : List Shape}
    (h : Cutting d text shapes) (plain : ¬d.statementStart <:+: text) :
    ∃ pieces last, Woven d text pieces last ∧ shapes = shapesOf last pieces := by
  induction h with
  | nil =>
      refine ⟨[], [], .last ?_, rfl⟩
      exact fun h => (valid .expression).1 (List.infix_nil.1 h)
  | @literal text rest shapes ne unopened unclosed apart more ih =>
      obtain ⟨pieces, last, hwoven, hshapes⟩ :=
        ih fun h => plain (h.trans (List.suffix_append text rest).isInfix)
      -- What follows does not begin with a literal, so this one has it for its own.
      have alone (before : Text) (more : List Shape) (h : shapes = literals before ++ more) :
          before = [] := by
        by_cases hbefore : before = []
        · exact hbefore
        · rw [literals_of_ne_nil hbefore] at h
          exact absurd (congrArg List.head? h) (apart before)
      cases hwoven with
      | last unopened' =>
          obtain rfl := alone rest [] (by rw [hshapes, List.append_nil]; rfl)
          refine ⟨[], text, ?_, ?_⟩
          · rw [List.append_nil]
            exact .last (not_isInfix_of_unopened valid unopened)
          · rw [hshapes, shapesOf, literals_nil, shapesOf, literals_of_ne_nil ne]
      | @block _ before inside raw _ pieces last opened closed more' =>
          obtain rfl := alone before _ hshapes
          refine ⟨(text, raw) :: pieces, last, .block ⟨?_, ?_⟩ closed more', ?_⟩
          · rw [opened.text_eq, List.nil_append, List.append_assoc]
          · intro b a htext
            exact length_le_of_unopened .expression unopened htext
          · rw [hshapes, shapesOf, shapesOf, literals_nil, literals_of_ne_nil ne]
            rfl
  | @block kind raw inside rest shapes opened closed more ih =>
      cases kind with
      | statement => exact absurd (List.prefix_append d.statementStart inside).isInfix plain
      | expression =>
          have hsuffix : rest <:+ d.opener .expression ++ inside := by
            rw [closed.text_eq]
            exact (List.suffix_append _ rest).trans (List.suffix_append _ _)
          obtain ⟨pieces, last, hwoven, hshapes⟩ := ih fun h => plain (h.trans hsuffix.isInfix)
          refine ⟨([], raw) :: pieces, last, .block ⟨rfl, ?_⟩ closed hwoven, ?_⟩
          · exact fun b a _ => Nat.zero_le _
          · rw [hshapes]
            rfl

/-! ### The tree of a woven text -/

/-- The node that a shape without a statement becomes, if any. -/
def Segment.Shape.node? : Shape → Option Node
  | .literal text => some (.text text)
  | .block _ raw =>
      if (Text.trim raw).isEmpty then none
      else some (.expression (Script.prepare (Text.trim raw)))

/-- Without statements no block is ever opened, so the nodes are those of the tokens one by one. -/
theorem run_of_image {d : Delimiters} {keywords : Keywords} {place : Place} {shapes : List Shape}
    {tokens : List Token} {nodes : List Node}
    {build : OpenBlock → Except StatementError Node} (h : Image d place shapes tokens)
    (plain : ∀ raw, .block .statement raw ∉ shapes) :
    Assembly.run keywords build ⟨nodes, none⟩ tokens
      = .ok ⟨nodes ++ shapes.filterMap Shape.node?, none⟩ := by
  induction h generalizing nodes with
  | nil => simp [Assembly.run_nil]
  | @cons place shape found shapes tokens yields more ih =>
      have hrest : ∀ raw, .block .statement raw ∉ shapes :=
        fun raw h => plain raw (List.mem_cons_of_mem _ h)
      -- Nothing opens a block, so each token adds its node at once.
      cases yields with
      | literal =>
          rw [Option.toList_some, List.singleton_append, Assembly.run_cons,
            Assembly.step_of_proceed (Assembly.move_text rfl)]
          refine (ih hrest).trans ?_
          simp [Shape.node?]
      | @blank _ kind raw blank =>
          rw [Option.toList_none, List.nil_append, ih hrest]
          simp [Shape.node?, trim_eq_nil_iff.2 blank]
      | @expression _ raw content trimmed ne =>
          rw [Option.toList_some, List.singleton_append, Assembly.run_cons,
            Assembly.step_of_proceed (Assembly.move_expression rfl)]
          refine (ih hrest).trans ?_
          obtain rfl := Text.trim_eq_iff.2 trimmed
          simp [Shape.node?, ne]
      | @statement _ raw => exact absurd List.mem_cons_self (plain raw)
      | @nameless _ raw => exact absurd List.mem_cons_self (plain raw)

theorem assemble_of_image {d : Delimiters} {keywords : Keywords} {place : Place}
    {shapes : List Shape} {tokens : List Token} (h : Image d place shapes tokens)
    (plain : ∀ raw, .block .statement raw ∉ shapes) :
    assemble keywords tokens = .ok (shapes.filterMap Shape.node?) := by
  rw [assemble_eq, show ({} : Assembly) = ⟨[], none⟩ from rfl, run_of_image h plain]
  rfl

theorem not_mem_shapesOf {last : Text} {pieces : List (Text × Text)} (raw : Text) :
    .block .statement raw ∉ shapesOf last pieces := by
  have literals (text : Text) : .block .statement raw ∉ literals text := by
    rw [Segment.literals]
    split <;> simp
  induction pieces with
  | nil => exact literals last
  | cons piece pieces ih =>
      rw [shapesOf, List.mem_append, List.mem_cons]
      rintro (h | h | h)
      · exact literals _ h
      · cases h
      · exact ih h

/-! ### Rendering -/

variable {State Scope Value Failure : Type}

/-- **Filling in.** What comes of pieces and a last literal in a state: the sources that are evaluated,
and the text or the failure. -/
inductive Fills (e : Evaluator State Scope Value Failure) (scope : Scope) (last : Text) :
    List (Text × Text) → State → List Text →
      EStateM.Result (RenderError Failure Value) State Text → Prop
  | last {state} : Fills e scope last [] state [] (.ok last state)
  /-- A blank expression stands for nothing and is not evaluated. -/
  | blank {before raw pieces state sources result} (blank : ∀ c ∈ raw, isBlank c)
      (more : Fills e scope last pieces state sources result) :
      Fills e scope last ((before, raw) :: pieces) state sources (Render.textBehind before result)
  | value {before raw pieces state value mid shown sources result} (source : Text)
      (prepared : source = Script.prepare (Text.trim raw)) (filled : ¬∀ c ∈ raw, isBlank c)
      (evaluated : e.evaluate source scope state = .ok value mid)
      (displayed : e.display mid value = .ok shown)
      (more : Fills e scope last pieces mid sources result) :
      Fills e scope last ((before, raw) :: pieces) state (source :: sources)
        (Render.textBehind (before ++ shown) result)
  /-- Nothing behind an expression that fails is evaluated. -/
  | failed {before raw pieces state failure mid} (source : Text)
      (prepared : source = Script.prepare (Text.trim raw)) (filled : ¬∀ c ∈ raw, isBlank c)
      (evaluated : e.evaluate source scope state = .error failure mid) :
      Fills e scope last ((before, raw) :: pieces) state [source] (.error (.failed failure) mid)
  /-- Nor is anything behind a value that cannot be shown. -/
  | hidden {before raw pieces state value mid failure} (source : Text)
      (prepared : source = Script.prepare (Text.trim raw)) (filled : ¬∀ c ∈ raw, isBlank c)
      (evaluated : e.evaluate source scope state = .ok value mid)
      (displayed : e.display mid value = .error failure) :
      Fills e scope last ((before, raw) :: pieces) state [source] (.error (.failed failure) mid)

/-- The nodes of the pieces. -/
def nodesOf (last : Text) (pieces : List (Text × Text)) : List Node :=
  (shapesOf last pieces).filterMap Shape.node?

variable {e : Evaluator State Scope Value Failure} {scope : Scope} {state mid : State}
variable {nodes : List Node} {sources : List Text}
variable {result : EStateM.Result (RenderError Failure Value) State Text}

/-- The nodes render to the result, and with a record they note the sources. -/
def RunsList (e : Evaluator State Scope Value Failure) (nodes : List Node) (scope : Scope)
    (state : State) (result : EStateM.Result (RenderError Failure Value) State Text)
    (sources : List Text) : Prop :=
  Render.Runs (Node.renderList e nodes scope) (Node.renderList e.recorded nodes scope) state result
    sources

theorem runsList_literals (before : Text) (h : RunsList e nodes scope state result sources) :
    RunsList e ((literals before).filterMap Shape.node? ++ nodes) scope state
      (Render.textBehind before result) sources := by
  by_cases hbefore : before = []
  · rw [hbefore, literals_nil]
    cases result <;> exact h
  · rw [literals_of_ne_nil hbefore]
    have first : Render.Runs ((Node.text before).render e scope)
        ((Node.text before).render e.recorded scope) state (.ok before state) [] := .pure
    exact first.renderList_ok h

section

variable {source : Text} {value : Value} {failure : Failure}

theorem shown_ok {text : Text} (evaluated : e.evaluate source scope state = .ok value mid)
    (displayed : e.display mid value = .ok text) :
    Render.shown e source scope state = .ok text mid := by
  have hvalue : Render.value e source scope state = .ok value mid := by
    rw [Render.value, evaluated]
  rw [Render.shown, Render.bind_ok hvalue, Render.ask_eq, displayed]
  rfl

/-- A value that cannot be displayed ends the render, though its source was evaluated. -/
theorem shown_hidden (evaluated : e.evaluate source scope state = .ok value mid)
    (displayed : e.display mid value = .error failure) :
    Render.shown e source scope state = .error (.failed failure) mid := by
  have hvalue : Render.value e source scope state = .ok value mid := by
    rw [Render.value, evaluated]
  rw [Render.shown, Render.bind_ok hvalue, Render.ask_eq, displayed]
  rfl

theorem shown_failed (evaluated : e.evaluate source scope state = .error failure mid) :
    Render.shown e source scope state = .error (.failed failure) mid := by
  refine Render.bind_error ?_
  rw [Render.value, evaluated]

end

theorem nodesOf_blank {before raw last : Text} {pieces : List (Text × Text)}
    (blank : Text.trim raw = []) :
    nodesOf last ((before, raw) :: pieces)
      = (literals before).filterMap Shape.node? ++ nodesOf last pieces := by
  rw [nodesOf, shapesOf, List.filterMap_append, List.filterMap_cons_none (by simp [Shape.node?, blank])]
  rfl

theorem nodesOf_filled {before raw last : Text} {pieces : List (Text × Text)}
    (filled : Text.trim raw ≠ []) :
    nodesOf last ((before, raw) :: pieces) = (literals before).filterMap Shape.node?
      ++ .expression (Script.prepare (Text.trim raw)) :: nodesOf last pieces := by
  rw [nodesOf, shapesOf, List.filterMap_append,
    List.filterMap_cons_some (by simp [Shape.node?, filled] : Shape.node? (.block .expression raw)
      = some (.expression (Script.prepare (Text.trim raw))))]
  rfl

/-- **The pieces are filled in.** -/
theorem exists_fills (e : Evaluator State Scope Value Failure) (scope : Scope) (last : Text)
    (pieces : List (Text × Text)) (state : State) :
    ∃ sources result, Fills e scope last pieces state sources result
      ∧ RunsList e (nodesOf last pieces) scope state result sources := by
  induction pieces generalizing state with
  | nil =>
      have hend : RunsList e [] scope state (.ok [] state) [] := .pure
      have hlast := runsList_literals last hend
      rw [Render.textBehind, List.append_nil, List.append_nil] at hlast
      exact ⟨[], _, .last, hlast⟩
  | cons piece pieces ih =>
      obtain ⟨before, raw⟩ := piece
      by_cases blank : Text.trim raw = []
      · obtain ⟨sources, result, hfills, hruns⟩ := ih state
        refine ⟨sources, _, .blank (trim_eq_nil_iff.1 blank) hfills, ?_⟩
        rw [nodesOf_blank blank]
        exact runsList_literals before hruns
      · have filled : ¬∀ c ∈ raw, isBlank c := fun h => blank (trim_eq_nil_iff.2 h)
        rw [nodesOf_filled blank]
        generalize hsource : Script.prepare (Text.trim raw) = source
        -- The node is the expression; what it comes to decides whether the rest is looked at.
        have first : Render.Runs ((Node.expression source).render e scope)
            ((Node.expression source).render e.recorded scope) state
            (Render.shown e source scope state) [source] := .shown source scope state
        cases evaluated : e.evaluate source scope state with
        | error failure mid =>
            rw [shown_failed evaluated] at first
            refine ⟨[source], _, .failed source hsource.symm filled evaluated, ?_⟩
            exact runsList_literals before first.renderList_error
        | ok value mid =>
            cases displayed : e.display mid value with
            | error failure =>
                rw [shown_hidden evaluated displayed] at first
                refine ⟨[source], _, .hidden source hsource.symm filled evaluated displayed, ?_⟩
                exact runsList_literals before first.renderList_error
            | ok text =>
                rw [shown_ok evaluated displayed] at first
                obtain ⟨sources, result, hfills, hruns⟩ := ih mid
                refine ⟨source :: sources, _,
                  .value source hsource.symm filled evaluated displayed hfills, ?_⟩
                rw [← Render.textBehind_textBehind]
                exact runsList_literals before (first.renderList_ok hruns)

/-! ### Templates -/

theorem renderOnce_of_compile {options : Options} {text : Text}
    (h : compile options text = .ok nodes) (ne : text ≠ []) :
    Template.renderOnce e options text scope = .ok (Node.renderList e nodes scope) := by
  obtain ⟨c, rest, rfl⟩ := List.exists_cons_of_ne_nil ne
  have hcreate : Template.create options (some (c :: rest)) scope
      = Template.setText { options, scope } (c :: rest) := rfl
  rw [Template.renderOnce, hcreate, Template.setText, h]
  rfl

/-- What is known of a template whose text is made of pieces and a last literal: every render of it
fills in the pieces, with or without a record. -/
def FillsIn (options : Options) (text : Text) (pieces : List (Text × Text)) (last : Text) : Prop :=
  ∀ {State Scope Value Failure : Type} (e : Evaluator State Scope Value Failure) (scope : Scope),
    ∃ run recorded, Template.renderOnce e options text scope = .ok run
      ∧ Template.renderOnce e.recorded options text scope = .ok recorded
      ∧ ∀ state, ∃ sources result, Fills e scope last pieces state sources result
          ∧ Render.Runs run recorded state result sources

theorem renderOnce_nil {options : Options} :
    Template.renderOnce e options [] scope = .ok (pure []) := rfl

/-- A woven text is compiled to its literals and expressions. -/
theorem compile_of_cutting {options : Options} (valid : options.delimiters.AreNonempty)
    (untrimmed : options.trim = false) {text last : Text} {pieces : List (Text × Text)}
    (h : Cutting options.delimiters text (shapesOf last pieces)) :
    compile options text = .ok (nodesOf last pieces) := by
  have himage : Image options.delimiters {} (shapesOf last pieces) _ := image_iff.2 rfl
  have hassemble : assemble options.keywords _ = .ok (nodesOf last pieces) :=
    assemble_of_image himage not_mem_shapesOf
  have hprepare : options.prepare text = text := by
    rw [Options.prepare, untrimmed]
    rfl
  rw [compile, hprepare, (tokenize_eq_ok_iff valid).2 ⟨_, h, himage⟩]
  dsimp only
  rw [hassemble]

/-- The nodes of a text in which no statement opens are those of its pieces. -/
theorem exists_woven {options : Options} (valid : options.delimiters.AreNonempty)
    (untrimmed : options.trim = false) {text : Text}
    (plain : ¬options.delimiters.statementStart <:+: text) (h : compile options text = .ok nodes) :
    ∃ pieces last, Woven options.delimiters text pieces last ∧ nodes = nodesOf last pieces := by
  have hprepare : options.prepare text = text := by
    rw [Options.prepare, untrimmed]
    rfl
  cases htokens : tokenize options.delimiters text with
  | error error =>
      rw [compile, hprepare, htokens] at h
      cases h
  | ok tokens =>
      obtain ⟨shapes, hcutting, -⟩ := (tokenize_eq_ok_iff valid).1 htokens
      obtain ⟨pieces, last, hwoven, rfl⟩ := woven_of_cutting valid hcutting plain
      rw [compile_of_cutting valid untrimmed hcutting] at h
      cases h
      exact ⟨pieces, last, hwoven, rfl⟩

/-- A text without delimiters is one literal, or nothing. -/
theorem cutting_plain {d : Delimiters} {text : Text}
    (none : ∀ kind, ¬d.opener kind <:+: text ∧ ¬d.closer kind <:+: text) :
    Cutting d text (literals text) := by
  by_cases ne : text = []
  · rw [ne]
    exact .nil
  · have unopened : d.Unopened text [] := by
      intro before after htext _ kind hstarts
      rw [List.append_nil] at hstarts
      refine (none kind).1 (hstarts.isInfix.trans ?_)
      rw [htext]
      exact (List.suffix_append before after).isInfix
    have hcut := Cutting.literal ne unopened (fun kind => (none kind).2) (by simp) .nil
    rwa [List.append_nil, ← literals_of_ne_nil ne] at hcut

/-- **Plain substitution.** A template without statements shows its values in the place of its
expressions, and a text without delimiters is shown as it is. -/
theorem fillsIn_of_compile {order : Delimiters.Order} {given : Options.Given} {options : Options}
    (accepted : Options.coerce order given = .ok options) (untrimmed : options.trim = false) :
    (∀ text nodes, ¬options.delimiters.statementStart <:+: text →
        compile options text = .ok nodes →
        ∃ pieces last, Woven options.delimiters text pieces last
          ∧ (∀ others other, Woven options.delimiters text others other →
              others = pieces ∧ other = last)
          ∧ FillsIn options text pieces last)
      ∧ ∀ text, (∀ kind, ¬options.delimiters.opener kind <:+: text
            ∧ ¬options.delimiters.closer kind <:+: text) →
          ∀ {State Scope Value Failure : Type} (e : Evaluator State Scope Value Failure)
            (scope : Scope), Template.renderOnce e options text scope = .ok (pure text) := by
  obtain ⟨hdelimiters, -⟩ := Options.fault?_eq_none (Options.fault?_of_coerce accepted)
  have valid := (Delimiters.fault?_eq_none hdelimiters).1
  constructor
  · intro text nodes plain hcompile
    obtain ⟨pieces, last, hwoven, hnodes⟩ := exists_woven valid untrimmed plain hcompile
    refine ⟨pieces, last, hwoven, fun others other => hwoven.unique, ?_⟩
    intro State Scope Value Failure e scope
    by_cases ne : text = []
    · subst ne
      have hnone : ¬options.delimiters.expressionStart <:+: [] :=
        fun h => (valid .expression).1 (List.infix_nil.1 h)
      -- An empty text is rendered without being compiled, and it is woven of nothing.
      obtain ⟨rfl, rfl⟩ := hwoven.unique (.last hnone)
      exact ⟨_, _, renderOnce_nil, renderOnce_nil, fun state => ⟨[], _, .last, .pure⟩⟩
    · refine ⟨_, _, renderOnce_of_compile hcompile ne, renderOnce_of_compile hcompile ne, ?_⟩
      intro state
      rw [hnodes]
      exact exists_fills e scope last pieces state
  · intro text none State Scope Value Failure e scope
    have hcompile : compile options text = .ok (nodesOf text []) :=
      compile_of_cutting valid untrimmed (cutting_plain none)
    by_cases ne : text = []
    · rw [ne]
      exact renderOnce_nil
    · have hnodes : nodesOf text [] = [.text text] := by
        rw [nodesOf, shapesOf, literals_of_ne_nil ne]
        rfl
      have hrender : Node.renderList e [.text text] scope = pure text := by
        funext state
        show EStateM.Result.ok (text ++ []) state = .ok text state
        rw [List.append_nil]
      rw [renderOnce_of_compile hcompile ne, hnodes, hrender]

/-- Three expressions, of which one is blank. -/
theorem fillsIn_of_compile_default :
    let text : Text := "a{{x}}b{{ }}{{ y }}".toList
    let pieces : List (Text × Text) := [(['a'], ['x']), (['b'], [' ']), ([], [' ', 'y', ' '])]
    Options.coerce .listed .nothing = .ok {} ∧ ({} : Options).trim = false
      ∧ ¬({} : Delimiters).statementStart <:+: text
      ∧ (∃ nodes, compile {} text = .ok nodes)
      ∧ Woven {} text pieces [] ∧ FillsIn {} text pieces []
      ∧ Template.renderOnce Evaluator.counting {} "a \x7d b".toList ()
        = .ok (pure "a \x7d b".toList) := by
  intro text pieces
  have accepted : Options.coerce .listed .nothing = .ok {} := rfl
  have plain : ¬({} : Delimiters).statementStart <:+: text := Text.splitAt?_eq_none_iff.1 rfl
  have woven : Woven {} text pieces [] :=
    .block (Text.splitAt?_eq_some_iff.1 rfl) (Text.splitAt?_eq_some_iff.1 rfl)
      (.block (Text.splitAt?_eq_some_iff.1 rfl) (Text.splitAt?_eq_some_iff.1 rfl)
        (.block (Text.splitAt?_eq_some_iff.1 rfl) (Text.splitAt?_eq_some_iff.1 rfl)
          (.last (Text.splitAt?_eq_none_iff.1 rfl))))
  have tokens : tokenize {} text = .ok [⟨.text, ['a'], ⟨0, 1, 1⟩⟩, ⟨.expression, ['x'], ⟨1, 1, 2⟩⟩,
      ⟨.text, ['b'], ⟨6, 1, 7⟩⟩, ⟨.expression, ['y'], ⟨12, 1, 13⟩⟩] := by
    decide +kernel
  have compiled : ∃ nodes, compile {} text = .ok nodes := by
    refine ⟨[.text ['a'], .expression (Script.prepare ['x']), .text ['b'],
      .expression (Script.prepare ['y'])], ?_⟩
    rw [compile, show ({} : Options).prepare text = text from rfl, tokens]
    rfl
  obtain ⟨nodes, hnodes⟩ := compiled
  obtain ⟨found, last, -, unique, fills⟩ :=
    (fillsIn_of_compile accepted rfl).1 text nodes plain hnodes
  obtain ⟨rfl, rfl⟩ := unique pieces [] woven
  refine ⟨accepted, rfl, plain, ⟨nodes, hnodes⟩, woven, fills, ?_⟩
  refine (fillsIn_of_compile accepted rfl).2 _ ?_ _ ()
  intro kind
  cases kind with
  | expression => exact ⟨Text.splitAt?_eq_none_iff.1 rfl, Text.splitAt?_eq_none_iff.1 rfl⟩
  | statement => exact ⟨Text.splitAt?_eq_none_iff.1 rfl, Text.splitAt?_eq_none_iff.1 rfl⟩

end Stencil
