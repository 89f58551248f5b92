import Stencil.Proofs.Block.Append
import Stencil.Proofs.Render.Trace

/-!
# Renders one behind the other

A tree that follows another one is rendered in the state that the first one left, and its text
stands behind that of the first one (`renderList_append`). If the first one fails, nothing of the
second one is evaluated.

The second render also adds to the record what it would have recorded alone, because no computation
looks at the record that it finds (`ignoresBody_renderList`). As in `Stencil.Proofs.Render.Trace`
this is about loops that are cut off after some number of rounds, and so about all renders that end
(`Node.Ends`).
-/

namespace Stencil

variable {State Scope Value Failure : Type}

/-! ### Joined trees -/

/-- The end of a computation with its text behind another one. -/
def Render.textBehind {Error : Type} (before : Text) :
    EStateM.Result Error State Text → EStateM.Result Error State Text
  | .ok text state => .ok (before ++ text) state
  | .error error state => .error error state

/-- Rendering a tree and then another one, in the state that the first render left. -/
def Node.renderBoth (e : Evaluator State Scope Value Failure) (nodes others : List Node) :
    Body State Scope Value Failure := fun scope state =>
  match Node.renderList e nodes scope state with
  | .ok first mid => Render.textBehind first (Node.renderList e others scope mid)
  | .error error mid => .error error mid

section

variable {e : Evaluator State Scope Value Failure} {nodes others : List Node} {node : Node}
variable {scope : Scope} {state mid : State} {text : Text} {error : RenderError Failure Value}

theorem Node.renderList_cons :
    Node.renderList e (node :: nodes) scope = (do
      let first ← Node.render e node scope
      let more ← Node.renderList e nodes scope
      return first ++ more) := rfl

/-- Once the first node has been rendered, its text stands in front of whatever the rest does. -/
theorem Node.renderList_cons_ok (h : Node.render e node scope state = .ok text mid) :
    Node.renderList e (node :: nodes) scope state
      = Render.textBehind text (Node.renderList e nodes scope mid) := by
  rw [Node.renderList_cons, Render.bind_ok h]
  cases hrest : Node.renderList e nodes scope mid with
  | ok more last =>
      rw [Render.bind_ok hrest]
      rfl
  | error error last =>
      rw [Render.bind_error hrest]
      rfl

theorem Node.renderList_cons_error (h : Node.render e node scope state = .error error mid) :
    Node.renderList e (node :: nodes) scope state = .error error mid := by
  rw [Node.renderList_cons, Render.bind_error h]

/-- A single node is rendered as it stands. -/
theorem Node.renderList_singleton (node : Node) : Node.renderList e [node] = Node.render e node := by
  funext scope state
  cases hnode : Node.render e node scope state with
  | error error mid => exact Node.renderList_cons_error hnode
  | ok text mid =>
      refine (Node.renderList_cons_ok hnode).trans ?_
      show EStateM.Result.ok (text ++ []) mid = _
      rw [List.append_nil]

theorem Render.textBehind_textBehind {Error : Type} {before between : Text}
    {result : EStateM.Result Error State Text} :
    textBehind before (textBehind between result) = textBehind (before ++ between) result := by
  cases result <;> simp [textBehind]

/-- **A joined tree** is rendered like its two parts, one after the other. -/
theorem Node.renderList_append :
    Node.renderList e (nodes ++ others) = Node.renderBoth e nodes others := by
  funext scope state
  induction nodes generalizing state with
  | nil =>
      show Node.renderList e others scope state
        = Render.textBehind [] (Node.renderList e others scope state)
      cases Node.renderList e others scope state <;> rfl
  | cons node rest ih =>
      cases hnode : Node.render e node scope state with
      | error error mid =>
          rw [List.cons_append, renderList_cons_error hnode, renderBoth, renderList_cons_error hnode]
      | ok text mid =>
          rw [List.cons_append, renderList_cons_ok hnode, ih, renderBoth, renderBoth,
            renderList_cons_ok hnode]
          cases Node.renderList e rest scope mid with
          | error error last => rfl
          | ok more last => exact Render.textBehind_textBehind

end

/-! ### Computations that do not look at the record -/

/-- The end of a computation with its record behind another one. -/
def Render.recordBehind {Error α : Type} (earlier : List Text) :
    EStateM.Result Error (State × List Text) α → EStateM.Result Error (State × List Text) α
  | .ok a (state, record) => .ok a (state, earlier ++ record)
  | .error error (state, record) => .error error (state, earlier ++ record)

/-- A computation comes to the same whatever the record held before. -/
def IgnoresRecord {α : Type} (run : Render (State × List Text) Value Failure α) : Prop :=
  ∀ state earlier record,
    run (state, earlier ++ record) = Render.recordBehind earlier (run (state, record))

section

variable {e : Evaluator State Scope Value Failure} {scope : Scope} {rounds : Nat} {α β : Type}

theorem ignores_pure (a : α) :
    IgnoresRecord (pure a : Render (State × List Text) Value Failure α) :=
  fun _ _ _ => rfl

theorem ignores_throw (error : RenderError Failure Value) :
    IgnoresRecord (throw error : Render (State × List Text) Value Failure α) :=
  fun _ _ _ => rfl

/-- The answers of an evaluator do not depend on the record. -/
theorem ignores_ask (question : State → Except Failure α) :
    IgnoresRecord (Render.ask fun state => question state.1 :
      Render (State × List Text) Value Failure α) := by
  intro state earlier record
  rw [Render.ask_eq, Render.ask_eq]
  cases question state <;> rfl

/-- Two steps ignore the record if each does. The second has to do so only after a first step that
ended well. -/
theorem ignores_bind {x : Render (State × List Text) Value Failure α}
    {f : α → Render (State × List Text) Value Failure β} (hx : IgnoresRecord x)
    (hf : ∀ state a last, x state = .ok a last → IgnoresRecord (f a)) :
    IgnoresRecord (x >>= f) := by
  intro state earlier record
  have hfirst := hx state earlier record
  -- Both runs of the first computation end alike, so the second one starts with the same value.
  cases hresult : x (state, record) with
  | error error last =>
      rw [hresult] at hfirst
      rw [Render.bind_error hresult, Render.bind_error hfirst]
      rfl
  | ok a last =>
      rw [hresult] at hfirst
      rw [Render.bind_ok hresult, Render.bind_ok hfirst]
      exact hf _ a _ hresult last.1 earlier last.2

theorem ignores_ite {condition : Bool} {yes no : Render (State × List Text) Value Failure α}
    (hyes : IgnoresRecord yes) (hno : IgnoresRecord no) :
    IgnoresRecord (if condition then yes else no) := by
  cases condition
  · exact hno
  · exact hyes

theorem ignores_value (source : Text) :
    IgnoresRecord (Render.value (e.recorded.limited rounds) source scope) := by
  intro state earlier record
  simp only [Render.value, Evaluator.limited, Evaluator.recorded, Evaluator.noting]
  cases e.evaluate source scope state <;>
    simp only [Render.recordBehind, List.append_assoc]

/-! ### Bodies -/

/-- A body ignores the record in every scope. -/
def IgnoresBody (body : Body (State × List Text) Scope Value Failure) : Prop :=
  ∀ scope, IgnoresRecord (body scope)

theorem ignoresBody_shown (source : Text) :
    IgnoresBody (Render.shown (e.recorded.limited rounds) source) := by
  intro scope
  refine ignores_bind (ignores_value source) ?_
  intro _ value _ _
  exact ignores_ask fun state => e.display state value

/-- One branch is taken. A failing truth test ends the choice on both sides. -/
theorem ignoresBody_choose {otherwise : Body (State × List Text) Scope Value Failure}
    {branches : List (Text × Body (State × List Text) Scope Value Failure)}
    (hotherwise : IgnoresBody otherwise) (hbranches : ∀ branch ∈ branches, IgnoresBody branch.2) :
    IgnoresBody (Render.choose (e.recorded.limited rounds) otherwise branches) := by
  intro scope
  induction branches with
  | nil => exact hotherwise scope
  | cons branch rest ih =>
      obtain ⟨hbranch, hrest⟩ := List.forall_mem_cons.1 hbranches
      refine ignores_bind (ignores_value branch.1) ?_
      intro _ value _ _
      refine ignores_bind (ignores_ask fun state => e.isTrue state value) ?_
      intro _ holds _ _
      exact ignores_ite (hbranch scope) (ih hrest)

theorem ignores_caseValues (cases : List (Text × Body (State × List Text) Scope Value Failure)) :
    IgnoresRecord (Render.caseValues (e.recorded.limited rounds) cases scope) := by
  induction cases with
  | nil => exact ignores_pure _
  | cons case rest ih =>
      refine ignores_bind (ignores_value case.1) ?_
      intro _ value _ _
      refine ignores_bind ih ?_
      intro _ more _ _
      exact ignores_pure _

theorem ignores_lastEqual {subject : Value}
    {otherwise : Body (State × List Text) Scope Value Failure}
    {values : List (Value × Body (State × List Text) Scope Value Failure)} :
    IgnoresRecord (Render.lastEqual (e.recorded.limited rounds) subject otherwise values) := by
  induction values generalizing otherwise with
  | nil => exact ignores_pure _
  | cons value rest ih =>
      refine ignores_bind (ignores_ask fun state => e.areEqual state value.1 subject) ?_
      intro _ isEqual _ _
      exact ih

/-- All case values come first, then the subject, then one body. -/
theorem ignoresBody_select {subject : Text}
    {otherwise : Body (State × List Text) Scope Value Failure}
    {cases : List (Text × Body (State × List Text) Scope Value Failure)}
    (hotherwise : IgnoresBody otherwise) (hcases : ∀ case ∈ cases, IgnoresBody case.2) :
    IgnoresBody (Render.select (e.recorded.limited rounds) subject otherwise cases) := by
  intro scope
  refine ignores_bind (ignores_caseValues cases) ?_
  intro _ values _ hvalues
  refine ignores_bind (ignores_value subject) ?_
  intro _ subject _ _
  refine ignores_bind ignores_lastEqual ?_
  intro _ body _ hbody
  -- The chosen body is that of a case or the other one, and all of these ignore the record.
  have hmem := Render.mem_of_lastEqual hbody
  rw [Render.mem_of_caseValues hvalues, List.mem_cons, List.mem_map] at hmem
  rcases hmem with rfl | ⟨case, hcase, rfl⟩
  · exact hotherwise scope
  · exact hcases case hcase scope

/-- The induction is on the number of rounds that are left. -/
theorem ignores_eachItem {header : LoopHeader} {collection : Value}
    {body : Body (State × List Text) Scope Value Failure} (hbody : IgnoresBody body)
    {left index : Nat} (hleft : rounds ≤ index + left) (before : Text) :
    IgnoresRecord
      (Render.eachItem (e.recorded.limited rounds) header body collection scope index before) := by
  induction left generalizing index before with
  | zero =>
      intro state earlier record
      rw [Render.eachItem_none (if_neg (by omega)), Render.eachItem_none (if_neg (by omega))]
      rfl
  | succ left ih =>
      intro state earlier record
      -- Asking for an item does not look at the record, so both runs go into the same round.
      have hitem : ∀ record, (e.recorded.limited rounds).item? (state, record) collection index
          = if index < rounds then e.item? state collection index else none := fun _ => rfl
      cases hfound : if index < rounds then e.item? state collection index else none with
      | none =>
          rw [Render.eachItem_none ((hitem _).trans hfound),
            Render.eachItem_none ((hitem _).trans hfound)]
          rfl
      | some item =>
          obtain ⟨inner, entered, henter⟩ : ∃ inner entered,
              e.enter scope header.item item header.index index state = (inner, entered) :=
            ⟨_, _, rfl⟩
          have hround := Evaluator.enter_recorded rounds henter
          have hinner := hbody inner entered earlier record
          cases hresult : body inner (entered, record) with
          | error error last =>
              rw [hresult] at hinner
              rw [Render.eachItem_error ((hitem _).trans hfound) (hround _) hinner,
                Render.eachItem_error ((hitem _).trans hfound) (hround _) hresult]
              rfl
          | ok text last =>
              rw [hresult] at hinner
              rw [Render.eachItem_ok ((hitem _).trans hfound) (hround _) hinner,
                Render.eachItem_ok ((hitem _).trans hfound) (hround _) hresult]
              exact ih (by omega) (before ++ text) last.1 earlier last.2

theorem ignoresBody_repeatOver {header : LoopHeader}
    {body : Body (State × List Text) Scope Value Failure} (hbody : IgnoresBody body) :
    IgnoresBody (Render.repeatOver (e.recorded.limited rounds) header body) := by
  intro scope
  refine ignores_bind (ignores_value header.collection) ?_
  intro _ collection _ _
  refine ignores_ite ?_ (ignores_throw _)
  exact ignores_eachItem hbody (Nat.le_add_left rounds 0) []

/-! ### Trees -/

mutual

/-- No node looks at the record. The induction is on the tree. -/
theorem ignoresBody_render (node : Node) :
    IgnoresBody (Node.render (e.recorded.limited rounds) node) := by
  cases node with
  | text content => exact fun _ => ignores_pure _
  | expression source => exact ignoresBody_shown source
  | conditional branches otherwise =>
      exact ignoresBody_choose (ignoresBody_renderOption otherwise) (ignoresBranches_render branches)
  | iteration header body => exact ignoresBody_repeatOver (ignoresBody_renderList body)
  | switch subject cases otherwise =>
      exact ignoresBody_select (ignoresBody_renderOption otherwise) (ignoresBranches_render cases)
  | foreign typeName => exact fun _ => ignores_throw _

/-- A render comes to the same whatever was recorded before it. -/
theorem ignoresBody_renderList (nodes : List Node) :
    IgnoresBody (Node.renderList (e.recorded.limited rounds) nodes) := by
  intro scope
  cases nodes with
  | nil => exact ignores_pure _
  | cons node rest =>
      refine ignores_bind (ignoresBody_render node scope) ?_
      intro _ text _ _
      refine ignores_bind (ignoresBody_renderList rest scope) ?_
      intro _ more _ _
      exact ignores_pure _

theorem ignoresBranches_render (branches : List (Text × List Node)) :
    ∀ branch ∈ Node.renderBranches (e.recorded.limited rounds) branches, IgnoresBody branch.2 := by
  cases branches with
  | nil => exact List.forall_mem_nil _
  | cons branch rest =>
      exact List.forall_mem_cons.2 ⟨ignoresBody_renderList branch.2, ignoresBranches_render rest⟩

theorem ignoresBody_renderOption (body : Option (List Node)) :
    IgnoresBody (Node.renderOption (e.recorded.limited rounds) body) := by
  cases body with
  | none => exact fun _ => ignores_pure _
  | some body => exact ignoresBody_renderList body

end

end

/-! ### Composition -/

/-- The render of a tree from a state on ends: there is a bound on the rounds of its loops with which
it comes to the same. What was recorded before does not count. -/
def Node.Ends (e : Evaluator State Scope Value Failure) (nodes : List Node) (scope : Scope)
    (state : State) : Prop :=
  ∃ rounds, ∀ record, Node.renderList (e.recorded.limited rounds) nodes scope (state, record)
    = Node.renderList e.recorded nodes scope (state, record)

/-- **A render may be given the record of another one to go on with**, and only adds to it. The
bound of rounds is left out again here, since the render ends. -/
theorem Node.Ends.renderList_eq {e : Evaluator State Scope Value Failure} {nodes : List Node}
    {scope : Scope} {state : State} (h : Node.Ends e nodes scope state) (record : List Text) :
    Node.renderList e.recorded nodes scope (state, record)
      = Render.recordBehind record (Node.renderList e.recorded nodes scope (state, [])) := by
  obtain ⟨rounds, h⟩ := h
  have hbody : IgnoresBody (Node.renderList (e.recorded.limited rounds) nodes) :=
    ignoresBody_renderList nodes
  have hrecord := hbody scope state record []
  rwa [List.append_nil, h, h] at hrecord

/-- What is known about a list of tokens with a tree when other tokens follow it. -/
structure Composes (keywords : Keywords) (tokens : List Token) (nodes : List Node) : Prop where
  /-- The tokens behind it decide whether the whole is accepted: their tree follows that of the first
  ones, and their error is that of the whole. -/
  assembled (more : List Token) :
    assemble keywords (tokens ++ more) = (assemble keywords more).map (nodes ++ ·)
  /-- A tree behind it is rendered in the state that it leaves, and not at all if it fails. -/
  rendered {State Scope Value Failure : Type} (e : Evaluator State Scope Value Failure)
      (others : List Node) :
    Node.renderList e (nodes ++ others) = Node.renderBoth e nodes others
  /-- The sources that are evaluated are those of the first tree, and then those of the second one
  from the state that the first one left. -/
  sources {State Scope Value Failure : Type} (e : Evaluator State Scope Value Failure)
      (others : List Node) (scope : Scope) (state mid : State) (text : Text)
      (sources : List Text)
      (first : Node.renderList e.recorded nodes scope (state, []) = .ok text (mid, sources))
      (ends : Node.Ends e others scope mid) :
    Node.renderList e.recorded (nodes ++ others) scope (state, [])
      = Render.textBehind text (Render.recordBehind sources
          (Node.renderList e.recorded others scope (mid, [])))
  /-- After a failure in the first tree nothing of the second one is evaluated. -/
  failure {State Scope Value Failure : Type} (e : Evaluator State Scope Value Failure)
      (others : List Node) (scope : Scope) (state mid : State) (error : RenderError Failure Value)
      (sources : List Text)
      (first : Node.renderList e.recorded nodes scope (state, []) = .error error (mid, sources)) :
    Node.renderList e.recorded (nodes ++ others) scope (state, []) = .error error (mid, sources)

/-- **Templates compose.** Behind an accepted list of tokens another one is assembled and rendered as
if it stood alone, in the state that the first one leaves. -/
theorem composes_of_assemble {keywords : Keywords} {tokens : List Token} {nodes : List Node}
    (h : assemble keywords tokens = .ok nodes) : Composes keywords tokens nodes where
  assembled more := assemble_append h
  rendered e others := Node.renderList_append
  sources e others scope state mid text sources first ends := by
    rw [Node.renderList_append, Node.renderBoth, first]
    exact congrArg (Render.textBehind text) (ends.renderList_eq sources)
  failure e others scope state mid error sources first := by
    rw [Node.renderList_append, Node.renderBoth, first]

/-- A language in which the value of every source is the number of evaluations before it, shown in
strokes. -/
def Evaluator.counting : Evaluator Nat Unit Nat Empty where
  evaluate _ _ := fun count => .ok count (count + 1)
  isTrue _ value := .ok (0 < value)
  areEqual _ value other := .ok (value == other)
  display _ value := .ok (List.replicate value '|')
  isSequence _ := true
  item? _ value index := if index < value then some index else none
  enter scope _ _ _ _ state := (scope, state)

/-- An expression behind a conditional: its value shows what was evaluated before it. -/
theorem composes_of_assemble_counting :
    let tokens : List Token :=
      [⟨.expression, ['x'], {}⟩, ⟨.statement Keyword.if_.label, ['y'], {}⟩, ⟨.text, ['a'], {}⟩,
        ⟨.statement Keyword.endif.label, [], {}⟩]
    let nodes : List Node :=
      [.expression (Script.prepare ['x']), .conditional [(Script.prepare ['y'], [.text ['a']])] none]
    let others : List Node := [.expression (Script.prepare ['z'])]
    assemble {} tokens = .ok nodes
      ∧ assemble {} (tokens ++ [⟨.expression, ['z'], {}⟩]) = .ok (nodes ++ others)
      ∧ Node.renderList Evaluator.counting.recorded (nodes ++ others) () (0, [])
          = .ok ['a', '|', '|']
              (3, [Script.prepare ['x'], Script.prepare ['y'], Script.prepare ['z']]) := by
  intro tokens nodes others
  have h : assemble {} tokens = .ok nodes := rfl
  have ends : Node.Ends Evaluator.counting others () 2 := ⟨0, fun _ => rfl⟩
  have composes := composes_of_assemble h
  exact ⟨h, composes.assembled _, composes.sources _ _ _ _ _ _ _ rfl ends⟩

end Stencil
