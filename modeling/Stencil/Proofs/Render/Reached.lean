import Stencil.Proofs.Render.Recording

/-!
# What a render does not reach

`Coincides e scope state part other` goes along a render of the first part and says that the other
part has in it whatever this render reaches. Everything else may differ in the other part, at any
depth: the conditions behind the first true one and all bodies but its own, all bodies of a `switch`
but that of the last equal case, the body of a loop over an empty sequence, and all that stands
behind a failure. A body of a loop is compared in each round, with the scope and the state of that
round, so a node of it may differ just when no round reaches it.

The relation follows the render to its end. It leaves out no render that has one: with a bound on
the rounds of its loops, every tree coincides with itself (`coincides_self`). Two trees that
coincide are rendered to the same end, and evaluate the same sources (`renderAlike_of_coincides`).
-/

namespace Stencil

variable {State Scope Value Failure : Type}

/-- What a render has before it: nodes, one node, the branches that are left of a conditional, or
the rounds that are left of a loop, behind the text so far. -/
inductive Part (Value : Type)
  | nodes (nodes : List Node)
  | node (node : Node)
  | branches (branches : List (Text × List Node)) (otherwise : Option (List Node))
  | rounds (header : LoopHeader) (body : List Node) (collection : Value) (index : Nat)
      (before : Text)

namespace Part

/-- The render of a part. -/
def render (e : Evaluator State Scope Value Failure) : Part Value → Body State Scope Value Failure
  | nodes list => Node.renderList e list
  | node one => Node.render e one
  | branches list otherwise =>
      Render.choose e (Node.renderOption e otherwise) (Node.renderBranches e list)
  | rounds header body collection index before => fun scope =>
      Render.eachItem e header (Node.renderList e body) collection scope index before

/-- The render of the part comes to the result, and with a record it notes the sources. -/
def Runs (e : Evaluator State Scope Value Failure) (scope : Scope) (state : State)
    (part : Part Value) (result : EStateM.Result (RenderError Failure Value) State Text)
    (sources : List Text) : Prop :=
  Render.Runs (part.render e scope) (part.render e.recorded scope) state result sources

end Part

/-- The other part has in it what a render of the first one reaches. -/
inductive Coincides (e : Evaluator State Scope Value Failure) :
    Scope → State → Part Value → Part Value → Prop
  -- Lists of nodes: behind a node that fails nothing is reached.
  | nil {scope state} : Coincides e scope state (.nodes []) (.nodes [])
  | failed {scope state node node' rest rest' error last}
      (first : Coincides e scope state (.node node) (.node node'))
      (fails : Node.render e node scope state = .error error last) :
      Coincides e scope state (.nodes (node :: rest)) (.nodes (node' :: rest'))
  | cons {scope state node node' rest rest' text mid}
      (first : Coincides e scope state (.node node) (.node node'))
      (renders : Node.render e node scope state = .ok text mid)
      (more : Coincides e scope mid (.nodes rest) (.nodes rest')) :
      Coincides e scope state (.nodes (node :: rest)) (.nodes (node' :: rest'))
  -- Leaves.
  | text {scope state content} :
      Coincides e scope state (.node (.text content)) (.node (.text content))
  | expression {scope state source} :
      Coincides e scope state (.node (.expression source)) (.node (.expression source))
  | foreign {scope state typeName} :
      Coincides e scope state (.node (.foreign typeName)) (.node (.foreign typeName))
  -- Conditionals: the conditions up to the first true one, and its body.
  | conditional {scope state branches branches' otherwise otherwise'}
      (inside :
        Coincides e scope state (.branches branches otherwise) (.branches branches' otherwise')) :
      Coincides e scope state (.node (.conditional branches otherwise))
        (.node (.conditional branches' otherwise'))
  | failedCondition {scope state condition body body' rest rest' otherwise otherwise' failure last}
      (fails : e.evaluate condition scope state = .error failure last) :
      Coincides e scope state (.branches ((condition, body) :: rest) otherwise)
        (.branches ((condition, body') :: rest') otherwise')
  | failedTest {scope state condition body body' rest rest' otherwise otherwise' value last failure}
      (evaluates : e.evaluate condition scope state = .ok value last)
      (fails : e.isTrue last value = .error failure) :
      Coincides e scope state (.branches ((condition, body) :: rest) otherwise)
        (.branches ((condition, body') :: rest') otherwise')
  | taken {scope state condition body body' rest rest' otherwise otherwise' value mid}
      (evaluates : e.evaluate condition scope state = .ok value mid)
      (holds : e.isTrue mid value = .ok true)
      (inside : Coincides e scope mid (.nodes body) (.nodes body')) :
      Coincides e scope state (.branches ((condition, body) :: rest) otherwise)
        (.branches ((condition, body') :: rest') otherwise')
  | passed {scope state condition body body' rest rest' otherwise otherwise' value mid}
      (evaluates : e.evaluate condition scope state = .ok value mid)
      (fails : e.isTrue mid value = .ok false)
      (more : Coincides e scope mid (.branches rest otherwise) (.branches rest' otherwise')) :
      Coincides e scope state (.branches ((condition, body) :: rest) otherwise)
        (.branches ((condition, body') :: rest') otherwise')
  | otherwise {scope state otherwise otherwise'}
      (inside :
        Coincides e scope state (.nodes (otherwise.getD [])) (.nodes (otherwise'.getD []))) :
      Coincides e scope state (.branches [] otherwise) (.branches [] otherwise')
  -- Loops: the body once for each item.
  | failedCollection {scope state header body body' failure last}
      (fails : e.evaluate header.collection scope state = .error failure last) :
      Coincides e scope state (.node (.iteration header body)) (.node (.iteration header body'))
  | notSequence {scope state header body body' value last}
      (evaluates : e.evaluate header.collection scope state = .ok value last)
      (other : e.isSequence value = false) :
      Coincides e scope state (.node (.iteration header body)) (.node (.iteration header body'))
  | iteration {scope state header body body' value mid}
      (evaluates : e.evaluate header.collection scope state = .ok value mid)
      (sequence : e.isSequence value = true)
      (inside :
        Coincides e scope mid (.rounds header body value 0 []) (.rounds header body' value 0 [])) :
      Coincides e scope state (.node (.iteration header body)) (.node (.iteration header body'))
  | lastRound {scope state header body body' collection index before}
      (ends : e.item? state collection index = none) :
      Coincides e scope state (.rounds header body collection index before)
        (.rounds header body' collection index before)
  | failedRound {scope inner state entered last header body body' collection index before item
      error}
      (next : e.item? state collection index = some item)
      (enters : e.enter scope header.item item header.index index state = (inner, entered))
      (inside : Coincides e inner entered (.nodes body) (.nodes body'))
      (fails : Node.renderList e body inner entered = .error error last) :
      Coincides e scope state (.rounds header body collection index before)
        (.rounds header body' collection index before)
  | round {scope inner state entered mid header body body' collection index before item text}
      (next : e.item? state collection index = some item)
      (enters : e.enter scope header.item item header.index index state = (inner, entered))
      (inside : Coincides e inner entered (.nodes body) (.nodes body'))
      (renders : Node.renderList e body inner entered = .ok text mid)
      (more : Coincides e scope mid (.rounds header body collection (index + 1) (before ++ text))
        (.rounds header body' collection (index + 1) (before ++ text))) :
      Coincides e scope state (.rounds header body collection index before)
        (.rounds header body' collection index before)
  -- Switches: the sources of all cases and the subject, and the body of the last equal case.
  | failedCase {scope state subject subject' cases cases' otherwise otherwise' common error last}
      (reached : common <+: cases.map (·.1)) (reached' : common <+: cases'.map (·.1))
      (fails : Render.values e common scope state = .error error last) :
      Coincides e scope state (.node (.switch subject cases otherwise))
        (.node (.switch subject' cases' otherwise'))
  | failedSubject {scope state subject cases cases' otherwise otherwise' found mid failure last}
      (same : cases'.map (·.1) = cases.map (·.1))
      (values : Render.values e (cases.map (·.1)) scope state = .ok found mid)
      (fails : e.evaluate subject scope mid = .error failure last) :
      Coincides e scope state (.node (.switch subject cases otherwise))
        (.node (.switch subject cases' otherwise'))
  | failedEquality {scope state subject cases cases' otherwise otherwise' found mid value last
      failure}
      (same : cases'.map (·.1) = cases.map (·.1))
      (values : Render.values e (cases.map (·.1)) scope state = .ok found mid)
      (evaluates : e.evaluate subject scope mid = .ok value last)
      (fails : Render.marks e last value found = .error failure) :
      Coincides e scope state (.node (.switch subject cases otherwise))
        (.node (.switch subject cases' otherwise'))
  | switch {scope state subject cases cases' otherwise otherwise' found mid value last marked}
      (same : cases'.map (·.1) = cases.map (·.1))
      (values : Render.values e (cases.map (·.1)) scope state = .ok found mid)
      (evaluates : e.evaluate subject scope mid = .ok value last)
      (equal : Render.marks e last value found = .ok marked)
      (inside : Coincides e scope last
        (.nodes (Render.lastMarked (otherwise.getD []) marked (cases.map (·.2))))
        (.nodes (Render.lastMarked (otherwise'.getD []) marked (cases'.map (·.2))))) :
      Coincides e scope state (.node (.switch subject cases otherwise))
        (.node (.switch subject cases' otherwise'))

/-! ### Trees with a bound on their loops -/

section

variable {e : Evaluator State Scope Value Failure} {rounds : Nat}

/-- The tree coincides with itself in every scope and every state. -/
def CoincidesWithItself (e : Evaluator State Scope Value Failure) (nodes : List Node) : Prop :=
  ∀ scope state, Coincides e scope state (.nodes nodes) (.nodes nodes)

/-- The induction is on the number of rounds that are left. -/
theorem coincides_rounds {header : LoopHeader} {body : List Node} {collection : Value}
    {scope : Scope} (hbody : CoincidesWithItself (e.limited rounds) body) {left index : Nat}
    (hleft : rounds ≤ index + left) (before : Text) (state : State) :
    Coincides (e.limited rounds) scope state (.rounds header body collection index before)
      (.rounds header body collection index before) := by
  induction left generalizing index before state with
  | zero => exact .lastRound (if_neg (by omega))
  | succ left ih =>
      cases hitem : (e.limited rounds).item? state collection index with
      | none => exact .lastRound hitem
      | some item =>
          obtain ⟨inner, entered, henter⟩ : ∃ inner entered,
              (e.limited rounds).enter scope header.item item header.index index state
                = (inner, entered) := ⟨_, _, rfl⟩
          cases hresult : Node.renderList (e.limited rounds) body inner entered with
          | error error last => exact .failedRound hitem henter (hbody inner entered) hresult
          | ok text mid =>
              exact .round hitem henter (hbody inner entered) hresult (ih (by omega) _ _)

/-- A choice coincides with itself if its bodies do. The recursion is on the branches, as they are
tried in order; a truth test that fails ends it. -/
theorem coincides_branches {branches : List (Text × List Node)} {otherwise : Option (List Node)}
    (hbranches : ∀ branch ∈ branches, CoincidesWithItself (e.limited rounds) branch.2)
    (hotherwise : CoincidesWithItself (e.limited rounds) (otherwise.getD [])) (scope : Scope)
    (state : State) :
    Coincides (e.limited rounds) scope state (.branches branches otherwise)
      (.branches branches otherwise) := by
  induction branches generalizing state with
  | nil => exact .otherwise (hotherwise scope state)
  | cons branch rest ih =>
      obtain ⟨hbranch, hrest⟩ := List.forall_mem_cons.1 hbranches
      cases hvalue : (e.limited rounds).evaluate branch.1 scope state with
      | error failure last => exact .failedCondition hvalue
      | ok value mid =>
          rcases holds : (e.limited rounds).isTrue mid value with failure | _ | _
          · exact .failedTest hvalue holds
          · exact .passed hvalue holds (ih hrest mid)
          · exact .taken hvalue holds (hbranch scope mid)

/-- A `switch` coincides with itself if its bodies do, as both runs take the same one. -/
theorem coincides_switch {subject : Text} {cases : List (Text × List Node)}
    {otherwise : Option (List Node)}
    (hcases : ∀ case ∈ cases, CoincidesWithItself (e.limited rounds) case.2)
    (hotherwise : CoincidesWithItself (e.limited rounds) (otherwise.getD [])) (scope : Scope)
    (state : State) :
    Coincides (e.limited rounds) scope state (.node (.switch subject cases otherwise))
      (.node (.switch subject cases otherwise)) := by
  cases hvalues : Render.values (e.limited rounds) (cases.map (·.1)) scope state with
  | error error last => exact .failedCase List.prefix_rfl List.prefix_rfl hvalues
  | ok found mid =>
      cases hsubject : (e.limited rounds).evaluate subject scope mid with
      | error failure last => exact .failedSubject rfl hvalues hsubject
      | ok value last =>
          cases hmarks : Render.marks (e.limited rounds) last value found with
          | error failure => exact .failedEquality rfl hvalues hsubject hmarks
          | ok marked =>
              refine .switch rfl hvalues hsubject hmarks ?_
              have hmem := Render.lastMarked_mem (otherwise.getD []) marked (cases.map (·.2))
              generalize Render.lastMarked (otherwise.getD []) marked (cases.map (·.2)) = body
                at hmem ⊢
              rcases List.mem_cons.1 hmem with rfl | hmem
              · exact hotherwise scope last
              · obtain ⟨case, hcase, rfl⟩ := List.mem_map.1 hmem
                exact hcases case hcase scope last

mutual

theorem coincides_node (node : Node) (scope : Scope) (state : State) :
    Coincides (e.limited rounds) scope state (.node node) (.node node) := by
  cases node with
  | text content => exact .text
  | expression source => exact .expression
  | conditional branches otherwise =>
      exact .conditional
        (coincides_branches (coincides_bodies branches) (coincides_option otherwise) scope state)
  | iteration header body =>
      cases hvalue : (e.limited rounds).evaluate header.collection scope state with
      | error failure last => exact .failedCollection hvalue
      | ok value mid =>
          cases hsequence : (e.limited rounds).isSequence value with
          | false => exact .notSequence hvalue hsequence
          | true =>
              exact .iteration hvalue hsequence
                (coincides_rounds (coincides_self body) (Nat.le_add_left rounds 0) [] mid)
  | switch subject cases otherwise =>
      exact coincides_switch (coincides_bodies cases) (coincides_option otherwise) scope state
  | foreign typeName => exact .foreign

/-- **A tree coincides with itself** in every render that has a bound on the rounds of its loops. -/
theorem coincides_self (nodes : List Node) : CoincidesWithItself (e.limited rounds) nodes := by
  intro scope state
  cases nodes with
  | nil => exact .nil
  | cons node rest =>
      cases hresult : Node.render (e.limited rounds) node scope state with
      | error error last => exact .failed (coincides_node node scope state) hresult
      | ok text mid =>
          exact .cons (coincides_node node scope state) hresult (coincides_self rest scope mid)

theorem coincides_bodies (branches : List (Text × List Node)) :
    ∀ branch ∈ branches, CoincidesWithItself (e.limited rounds) branch.2 := by
  cases branches with
  | nil => exact List.forall_mem_nil _
  | cons branch rest =>
      exact List.forall_mem_cons.2 ⟨coincides_self branch.2, coincides_bodies rest⟩

theorem coincides_option (otherwise : Option (List Node)) :
    CoincidesWithItself (e.limited rounds) (otherwise.getD []) := by
  cases otherwise with
  | none => exact fun _ _ => .nil
  | some body => exact coincides_self body

end

end

/-! ### Two renders -/

section

variable {e : Evaluator State Scope Value Failure} {scope : Scope} {state mid last : State}
variable {part other : Part Value} {result : EStateM.Result (RenderError Failure Value) State Text}
variable {sources : List Text}

/-- Both parts are rendered to one result and note the same sources. -/
def RunAlike (e : Evaluator State Scope Value Failure) (scope : Scope) (state : State)
    (part other : Part Value) : Prop :=
  ∃ result sources, part.Runs e scope state result sources ∧ other.Runs e scope state result sources

/-- What is known of the end of a render is known of both. -/
theorem RunAlike.of_render_eq (h : RunAlike e scope state part other)
    (hresult : part.render e scope state = result) : ∃ sources,
      part.Runs e scope state result sources ∧ other.Runs e scope state result sources := by
  obtain ⟨found, sources, first, second⟩ := h
  obtain rfl : found = result := first.plain.symm.trans hresult
  exact ⟨sources, first, second⟩

/-- The cases of two switches with the same sources have the same values. -/
theorem runs_values_of_same {cases cases' : List (Text × List Node)} {found : List Value}
    (same : cases.map (·.1) = cases'.map (·.1))
    (h : Render.values e (cases.map (·.1)) scope state = .ok found mid) :
    found.length = cases'.length
      ∧ Render.Runs (Render.values e (cases'.map (·.1)) scope)
          (Render.values e.recorded (cases'.map (·.1)) scope) state (.ok found mid)
          (cases.map (·.1)) := by
  obtain ⟨run, hlength⟩ := Render.runs_values h
  rw [same, List.length_map] at hlength
  exact ⟨hlength, same ▸ run⟩

theorem Part.Runs.otherwise {otherwise : Option (List Node)}
    (h : Part.Runs e scope state (.nodes (otherwise.getD [])) result sources) :
    Part.Runs e scope state (.branches [] otherwise) result sources := by
  cases otherwise <;> exact h

/-- **One run.** The induction is along the render of the first part. -/
theorem Coincides.runAlike (h : Coincides e scope state part other) :
    RunAlike e scope state part other := by
  induction h with
  | nil => exact ⟨_, [], .pure, .pure⟩
  -- The induction is on what coincides, which goes along one run: each case has the runs of its
  -- parts on both sides, with the same sources, and puts them together by the lemma about its
  -- construct.
  | failed first fails ih =>
      obtain ⟨sources, run, run'⟩ := ih.of_render_eq fails
      exact ⟨_, sources, run.renderList_error, run'.renderList_error⟩
  | cons first renders more ih ihMore =>
      obtain ⟨sources, run, run'⟩ := ih.of_render_eq renders
      obtain ⟨result, rest, runs, runs'⟩ := ihMore
      exact ⟨_, sources ++ rest, run.renderList_ok runs, run'.renderList_ok runs'⟩
  | text => exact ⟨_, [], .pure, .pure⟩
  | expression => exact ⟨_, [_], .shown .., .shown ..⟩
  | foreign => exact ⟨_, [], .throw, .throw⟩
  | conditional inside ih => exact ih
  | failedCondition fails => exact ⟨_, [_], .choose_error fails, .choose_error fails⟩
  | failedTest evaluates fails =>
      exact ⟨_, [_], .choose_test_error evaluates fails, .choose_test_error evaluates fails⟩
  | taken evaluates holds inside ih =>
      obtain ⟨result, sources, run, run'⟩ := ih
      exact ⟨result, _ :: sources, .choose_true evaluates holds run,
        .choose_true evaluates holds run'⟩
  | passed evaluates fails more ih =>
      obtain ⟨result, sources, run, run'⟩ := ih
      exact ⟨result, _ :: sources, .choose_false evaluates fails run,
        .choose_false evaluates fails run'⟩
  | «otherwise» inside ih =>
      obtain ⟨result, sources, run, run'⟩ := ih
      exact ⟨result, sources, run.otherwise, run'.otherwise⟩
  | failedCollection fails => exact ⟨_, [_], .repeatOver_error fails, .repeatOver_error fails⟩
  | notSequence evaluates other =>
      exact ⟨_, [_], .repeatOver_notSequence evaluates other,
        .repeatOver_notSequence evaluates other⟩
  | iteration evaluates sequence inside ih =>
      obtain ⟨result, sources, run, run'⟩ := ih
      exact ⟨result, _ :: sources, .repeatOver_sequence evaluates sequence run,
        .repeatOver_sequence evaluates sequence run'⟩
  | lastRound ends => exact ⟨_, [], .eachItem_none ends, .eachItem_none ends⟩
  | failedRound next enters inside fails ih =>
      obtain ⟨sources, run, run'⟩ := ih.of_render_eq fails
      exact ⟨_, sources, .eachItem_error next enters run, .eachItem_error next enters run'⟩
  | round next enters inside renders more ih ihMore =>
      obtain ⟨sources, run, run'⟩ := ih.of_render_eq renders
      obtain ⟨result, rest, runs, runs'⟩ := ihMore
      exact ⟨result, sources ++ rest, .eachItem_ok next enters run runs,
        .eachItem_ok next enters run' runs'⟩
  -- The values of the cases are one list of sources, so the two switches need the same sources and
  -- not the same bodies.
  | failedCase reached reached' fails =>
      obtain ⟨noted, run⟩ := Render.exists_runs_values_error fails
      exact ⟨_, noted, (run _ reached).switch_error, (run _ reached').switch_error⟩
  | failedSubject same values fails =>
      obtain ⟨-, run⟩ := runs_values_of_same rfl values
      obtain ⟨-, run'⟩ := runs_values_of_same same.symm values
      exact ⟨_, _, run.switch_subject_error fails, run'.switch_subject_error fails⟩
  | failedEquality same values evaluates fails =>
      obtain ⟨hlength, run⟩ := runs_values_of_same rfl values
      obtain ⟨hlength', run'⟩ := runs_values_of_same same.symm values
      exact ⟨_, _, run.switch_ok evaluates (.renderCase_error hlength fails),
        run'.switch_ok evaluates (.renderCase_error hlength' fails)⟩
  | switch same values evaluates equal inside ih =>
      obtain ⟨hlength, run⟩ := runs_values_of_same rfl values
      obtain ⟨hlength', run'⟩ := runs_values_of_same same.symm values
      obtain ⟨result, sources, inner, inner'⟩ := ih
      exact ⟨result, _, run.switch_ok evaluates (.renderCase_ok hlength equal inner),
        run'.switch_ok evaluates (.renderCase_ok hlength' equal inner')⟩

end

/-- Two trees have one output or error, one state at the end, and one sequence of evaluated
sources. -/
structure RenderAlike (e : Evaluator State Scope Value Failure) (scope : Scope) (state : State)
    (nodes others : List Node) : Prop where
  result : Node.renderList e others scope state = Node.renderList e nodes scope state
  sources : ∃ sources, ∀ record,
    Node.renderList e.recorded nodes scope (state, record)
        = Render.beside (record ++ sources) (Node.renderList e nodes scope state)
      ∧ Node.renderList e.recorded others scope (state, record)
        = Render.beside (record ++ sources) (Node.renderList e nodes scope state)

/-- **A render depends on what it reaches.** Trees that agree in all that a render of the first one
reaches are rendered alike. What a `switch` always reaches is its sources. -/
theorem renderAlike_of_coincides {e : Evaluator State Scope Value Failure} {scope : Scope}
    {state : State} {nodes others : List Node}
    (h : Coincides e scope state (.nodes nodes) (.nodes others)) :
    RenderAlike e scope state nodes others
      ∧ ∀ subject cases otherwise, Node.EvaluatesFirst e subject cases otherwise := by
  obtain ⟨result, sources, run, run'⟩ := h.runAlike
  refine ⟨⟨?_, sources, fun record => ?_⟩, evaluatesFirst_switch e⟩
  · exact run'.plain.trans run.plain.symm
  · have hresult : Node.renderList e nodes scope state = result := run.plain
    rw [hresult]
    exact ⟨run.recorded record, run'.recorded record⟩

/-- A condition that does not hold, a loop with one item, and a `switch` in its body without an
equal case: the two bodies that are not entered can be anything. -/
theorem renderAlike_of_coincides_counting :
    let header : LoopHeader := ⟨['i'], ['j'], ['b']⟩
    let body (case : List Node) : List Node :=
      [.switch ['c'] [(['d'], case)] (some [.text ['z']])]
    let tree (branch case : List Node) : List Node :=
      [.conditional [(['a'], branch)] (some [.iteration header (body case)])]
    let nodes := tree [.text ['x']] [.text ['y']]
    let others := tree [.foreign ['x']] [.expression ['y'], .foreign ['y']]
    Coincides Evaluator.counting () 0 (.nodes nodes) (.nodes others)
      ∧ RenderAlike Evaluator.counting () 0 nodes others := by
  intro header body tree nodes others
  have switch : ∀ case case', Coincides Evaluator.counting () 2 (.nodes (body case))
      (.nodes (body case')) :=
    fun case case' => .cons (.switch rfl rfl rfl rfl (.cons .text rfl .nil)) rfl .nil
  have loop : ∀ case, Node.render Evaluator.counting (.iteration header (body case)) () 1
      = .ok ['z'] 4 := by
    intro case
    have next : Evaluator.counting.item? 2 1 0 = some 0 := rfl
    have enters : Evaluator.counting.enter () header.item 0 header.index 0 2 = ((), 2) := rfl
    have inside : Node.renderList Evaluator.counting (body case) () 2 = .ok ['z'] 4 := rfl
    exact (Render.eachItem_ok next enters inside).trans (Render.eachItem_none rfl)
  have inside : ∀ case case', Coincides Evaluator.counting () 1
      (.nodes [.iteration header (body case)]) (.nodes [.iteration header (body case')]) := by
    intro case case'
    refine .cons (.iteration rfl rfl ?_) (loop case) .nil
    exact .round rfl rfl (switch case case') rfl (.lastRound rfl)
  have conditional : Node.render Evaluator.counting
      (.conditional [(['a'], [.text ['x']])] (some [.iteration header (body [.text ['y']])])) () 0
        = .ok ['z'] 4 := Node.renderList_cons_ok (loop _)
  have coincides : Coincides Evaluator.counting () 0 (.nodes nodes) (.nodes others) :=
    .cons (.conditional (.passed rfl rfl (.otherwise (inside _ _)))) conditional .nil
  exact ⟨coincides, (renderAlike_of_coincides coincides).1⟩

end Stencil
