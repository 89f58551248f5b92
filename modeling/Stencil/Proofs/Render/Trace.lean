import Stencil.Proofs.Render.Rounds

/-!
# What a render does to the state

A render changes the state in two ways only: it evaluates sources, each in its scope or in that of
the body of a loop, and it enters such bodies. `Evaluates` is a history of this kind, and the record
of a render holds exactly the sources of its history (`tracesBody_renderList`).

A loop over a collection that never comes to an end has no history. So the statement is about
renders whose loops are cut off after some number of rounds (`Evaluator.limited`), and about all
renders that come to the same without it: these are the renders that end.
-/

namespace Stencil

variable {State Scope Value Failure : Type}

/-- The same evaluator, with loops that end after a number of rounds. -/
def Evaluator.limited (e : Evaluator State Scope Value Failure) (rounds : Nat) :
    Evaluator State Scope Value Failure :=
  { e with
    item? := fun state collection index =>
      if index < rounds then e.item? state collection index else none }

/-- A record does not change by entering the body of a loop. -/
theorem Evaluator.enter_recorded {e : Evaluator State Scope Value Failure} {count : Nat}
    {scope inner : Scope} {item index : Text} {value : Value} {state entered : State} (rounds : Nat)
    (h : e.enter scope item value index count state = (inner, entered)) (record : List Text) :
    (e.recorded.limited rounds).enter scope item value index count (state, record)
      = (inner, (entered, record)) := by
  simp only [limited, recorded, noting, h]

/-- What happens to a state when sources are evaluated in a scope, one after another, and in the
scopes of bodies of loops that are entered in it. -/
inductive Evaluates (e : Evaluator State Scope Value Failure) :
    Scope → State → List Text → State → Prop
  | nothing {scope : Scope} {state : State} : Evaluates e scope state [] state
  | source {scope : Scope} {state last : State} {source : Text} {rest : List Text}
      (more : Evaluates e scope (Render.after (e.evaluate source scope state)) rest last) :
      Evaluates e scope state (source :: rest) last
  | body {scope inner : Scope} {state entered left last : State} {item index : Text} {value : Value}
      {count : Nat} {sources rest : List Text}
      (enters : e.enter scope item value index count state = (inner, entered))
      (inside : Evaluates e inner entered sources left)
      (more : Evaluates e scope left rest last) :
      Evaluates e scope state (sources ++ rest) last

theorem Evaluates.append {e : Evaluator State Scope Value Failure} {scope : Scope}
    {state mid last : State} {sources more : List Text} (h : Evaluates e scope state sources mid)
    (h' : Evaluates e scope mid more last) : Evaluates e scope state (sources ++ more) last := by
  induction h with
  | nothing => exact h'
  | source _ ih => exact .source (ih h')
  | body enters inside _ _ ih =>
      rw [List.append_assoc]
      exact .body enters inside (ih h')

/-- A computation does no more to the state than to evaluate the sources that it records. -/
def Traces {α : Type} (e : Evaluator State Scope Value Failure) (scope : Scope)
    (run : Render (State × List Text) Value Failure α) : Prop :=
  ∀ state record, ∃ sources last,
    Render.after (run (state, record)) = (last, record ++ sources)
      ∧ Evaluates e scope state sources last

section

variable {e : Evaluator State Scope Value Failure} {scope : Scope} {rounds : Nat} {α β : Type}

/-! ### Single steps -/

theorem traces_of_after {run : Render (State × List Text) Value Failure α}
    (h : ∀ state, Render.after (run state) = state) : Traces e scope run := by
  intro state record
  exact ⟨[], state, by rw [h, List.append_nil], .nothing⟩

theorem traces_pure (a : α) : Traces e scope (pure a) :=
  traces_of_after fun _ => rfl

theorem traces_throw (error : RenderError Failure Value) :
    Traces e scope (throw error : Render (State × List Text) Value Failure α) :=
  traces_of_after fun _ => rfl

theorem traces_ask (question : State × List Text → Except Failure α) :
    Traces e scope (Render.ask question : Render (State × List Text) Value Failure α) := by
  refine traces_of_after fun state => ?_
  rw [Render.ask_eq, Render.after_settle]

theorem traces_bind {x : Render (State × List Text) Value Failure α}
    {f : α → Render (State × List Text) Value Failure β} (hx : Traces e scope x)
    (hf : ∀ state a last, x state = .ok a last → Traces e scope (f a)) :
    Traces e scope (x >>= f) := by
  intro state record
  obtain ⟨sources, mid, hafter, hsources⟩ := hx state record
  cases hresult : x (state, record) with
  | error error last =>
      rw [Render.bind_error hresult]
      rw [hresult] at hafter
      exact ⟨sources, mid, hafter, hsources⟩
  | ok a last =>
      rw [hresult] at hafter
      obtain rfl : last = (mid, record ++ sources) := hafter
      obtain ⟨more, last, hlast, hmore⟩ := hf _ a _ hresult mid (record ++ sources)
      rw [Render.bind_ok hresult, hlast, List.append_assoc]
      exact ⟨sources ++ more, last, rfl, hsources.append hmore⟩

theorem traces_ite {condition : Bool} {yes no : Render (State × List Text) Value Failure α}
    (hyes : Traces e scope yes) (hno : Traces e scope no) :
    Traces e scope (if condition then yes else no) := by
  cases condition
  · exact hno
  · exact hyes

theorem traces_value (source : Text) :
    Traces e scope (Render.value (e.recorded.limited rounds) source scope) := by
  intro state record
  refine ⟨[source], Render.after (e.evaluate source scope state), ?_, .source .nothing⟩
  simp only [Render.value, Evaluator.limited, Evaluator.recorded, Evaluator.noting]
  cases e.evaluate source scope state <;> rfl

/-! ### Bodies -/

/-- A body traces in every scope that it is rendered in. -/
def TracesBody (e : Evaluator State Scope Value Failure)
    (body : Body (State × List Text) Scope Value Failure) : Prop :=
  ∀ scope, Traces e scope (body scope)

theorem tracesBody_shown (source : Text) :
    TracesBody e (Render.shown (e.recorded.limited rounds) source) := by
  intro scope
  exact traces_bind (traces_value source) fun _ _ _ _ => traces_ask _

theorem tracesBody_choose {otherwise : Body (State × List Text) Scope Value Failure}
    {branches : List (Text × Body (State × List Text) Scope Value Failure)}
    (hotherwise : TracesBody e otherwise) (hbranches : ∀ branch ∈ branches, TracesBody e branch.2) :
    TracesBody e (Render.choose (e.recorded.limited rounds) otherwise branches) := by
  intro scope
  induction branches with
  | nil => exact hotherwise scope
  | cons branch rest ih =>
      obtain ⟨hbranch, hrest⟩ := List.forall_mem_cons.1 hbranches
      refine traces_bind (traces_value branch.1) fun _ _ _ _ => ?_
      refine traces_bind (traces_ask _) fun _ _ _ _ => ?_
      exact traces_ite (hbranch scope) (ih hrest)

theorem traces_caseValues (cases : List (Text × Body (State × List Text) Scope Value Failure)) :
    Traces e scope (Render.caseValues (e.recorded.limited rounds) cases scope) := by
  induction cases with
  | nil => exact traces_pure _
  | cons case rest ih =>
      refine traces_bind (traces_value case.1) fun _ _ _ _ => ?_
      exact traces_bind ih fun _ _ _ _ => traces_pure _

theorem traces_lastEqual {subject : Value}
    {otherwise : Body (State × List Text) Scope Value Failure}
    {values : List (Value × Body (State × List Text) Scope Value Failure)} :
    Traces e scope (Render.lastEqual (e.recorded.limited rounds) subject otherwise values) := by
  induction values generalizing otherwise with
  | nil => exact traces_pure _
  | cons value rest ih => exact traces_bind (traces_ask _) fun _ _ _ _ => ih

end

/-! ### Results of computations -/

namespace Render

variable {e : Evaluator State Scope Value Failure} {scope : Scope} {state last : State}

theorem exists_of_bind_ok {α β : Type} {x : Render State Value Failure α}
    {f : α → Render State Value Failure β} {b : β} (h : (x >>= f) state = .ok b last) :
    ∃ a mid, x state = .ok a mid ∧ f a mid = .ok b last := by
  cases hresult : x state with
  | error error mid =>
      rw [bind_error hresult] at h
      cases h
  | ok a mid =>
      rw [bind_ok hresult] at h
      exact ⟨a, mid, rfl, h⟩

/-- The bodies that come with the values of the cases are those of the cases. -/
theorem mem_of_caseValues {cases : List (Text × Body State Scope Value Failure)}
    {values : List (Value × Body State Scope Value Failure)}
    (h : caseValues e cases scope state = .ok values last) :
    values.map (·.2) = cases.map (·.2) := by
  induction cases generalizing state last values with
  | nil =>
      cases h
      rfl
  | cons case rest ih =>
      obtain ⟨value, mid, -, h⟩ := exists_of_bind_ok h
      obtain ⟨more, left, hmore, h⟩ := exists_of_bind_ok h
      cases h
      rw [List.map_cons, List.map_cons, ih hmore]

/-- The body that is taken is one of those that are given. -/
theorem mem_of_lastEqual {subject : Value} {otherwise body : Body State Scope Value Failure}
    {values : List (Value × Body State Scope Value Failure)}
    (h : lastEqual e subject otherwise values state = .ok body last) :
    body ∈ otherwise :: values.map (·.2) := by
  induction values generalizing otherwise state last with
  | nil =>
      cases h
      exact List.mem_cons_self
  | cons value rest ih =>
      obtain ⟨isEqual, mid, -, h⟩ := exists_of_bind_ok h
      have hmem := ih h
      cases isEqual <;> simp at hmem ⊢ <;> tauto

end Render

section

variable {e : Evaluator State Scope Value Failure} {rounds : Nat}

theorem tracesBody_select {subject : Text}
    {otherwise : Body (State × List Text) Scope Value Failure}
    {cases : List (Text × Body (State × List Text) Scope Value Failure)}
    (hotherwise : TracesBody e otherwise) (hcases : ∀ case ∈ cases, TracesBody e case.2) :
    TracesBody e (Render.select (e.recorded.limited rounds) subject otherwise cases) := by
  intro scope
  refine traces_bind (traces_caseValues cases) fun _ values _ hvalues => ?_
  refine traces_bind (traces_value subject) fun _ subject _ _ => ?_
  refine traces_bind traces_lastEqual fun _ body _ hbody => ?_
  have hmem := Render.mem_of_lastEqual hbody
  rw [Render.mem_of_caseValues hvalues, List.mem_cons, List.mem_map] at hmem
  rcases hmem with rfl | ⟨case, hcase, rfl⟩
  · exact hotherwise scope
  · exact hcases case hcase scope

/-! ### Loops -/

/-- The induction is on the number of rounds that are left. -/
theorem traces_eachItem {header : LoopHeader} {collection : Value} {scope : Scope}
    {body : Body (State × List Text) Scope Value Failure} (hbody : TracesBody e body)
    {left index : Nat} (hleft : rounds ≤ index + left) (before : Text) :
    Traces e scope
      (Render.eachItem (e.recorded.limited rounds) header body collection scope index before) := by
  -- The bound on the rounds makes an induction of the loop: `left` is how many of them may still
  -- come.
  induction left generalizing index before with
  | zero =>
      refine traces_of_after fun state => ?_
      rw [Render.eachItem_none (if_neg (by omega))]
      rfl
  | succ left ih =>
      intro state record
      cases hitem : (e.recorded.limited rounds).item? (state, record) collection index with
      | none =>
          rw [Render.eachItem_none hitem]
          exact ⟨[], state, by rw [List.append_nil]; rfl, .nothing⟩
      | some item =>
          obtain ⟨inner, entered, henter⟩ : ∃ inner entered,
              e.enter scope header.item item header.index index state = (inner, entered) :=
            ⟨_, _, rfl⟩
          have hround := Evaluator.enter_recorded rounds henter record
          obtain ⟨sources, mid, hafter, hsources⟩ := hbody inner entered record
          cases hresult : body inner (entered, record) with
          | error error last =>
              rw [hresult] at hafter
              rw [Render.eachItem_error hitem hround hresult]
              refine ⟨sources, mid, hafter, ?_⟩
              have h := Evaluates.body henter hsources .nothing
              rwa [List.append_nil] at h
          | ok text last =>
              rw [hresult] at hafter
              obtain rfl : last = (mid, record ++ sources) := hafter
              have hnext : rounds ≤ index + 1 + left := by omega
              obtain ⟨more, last, hlast, hmore⟩ := ih hnext (before ++ text) mid (record ++ sources)
              rw [Render.eachItem_ok hitem hround hresult, hlast, List.append_assoc]
              exact ⟨sources ++ more, last, rfl, .body henter hsources hmore⟩

theorem tracesBody_repeatOver {header : LoopHeader}
    {body : Body (State × List Text) Scope Value Failure} (hbody : TracesBody e body) :
    TracesBody e (Render.repeatOver (e.recorded.limited rounds) header body) := by
  intro scope
  refine traces_bind (traces_value header.collection) fun _ collection _ _ => ?_
  refine traces_ite ?_ (traces_throw _)
  exact traces_eachItem hbody (Nat.le_add_left rounds 0) []

/-! ### Trees -/

mutual

theorem tracesBody_render (node : Node) :
    TracesBody e (Node.render (e.recorded.limited rounds) node) := by
  cases node with
  | text content => exact fun _ => traces_pure _
  | expression source => exact tracesBody_shown source
  | conditional branches otherwise =>
      exact tracesBody_choose (tracesBody_renderOption otherwise) (tracesBranches_render branches)
  | iteration header body => exact tracesBody_repeatOver (tracesBody_renderList body)
  | switch subject cases otherwise =>
      exact tracesBody_select (tracesBody_renderOption otherwise) (tracesBranches_render cases)
  | foreign typeName => exact fun _ => traces_throw _

/-- **What a render does to the state**: no more than to evaluate the sources that it records. -/
theorem tracesBody_renderList (nodes : List Node) :
    TracesBody e (Node.renderList (e.recorded.limited rounds) nodes) := by
  intro scope
  cases nodes with
  | nil => exact traces_pure _
  | cons node rest =>
      refine traces_bind (tracesBody_render node scope) fun _ _ _ _ => ?_
      exact traces_bind (tracesBody_renderList rest scope) fun _ _ _ _ => traces_pure _

theorem tracesBranches_render (branches : List (Text × List Node)) :
    ∀ branch ∈ Node.renderBranches (e.recorded.limited rounds) branches, TracesBody e branch.2 := by
  cases branches with
  | nil => exact List.forall_mem_nil _
  | cons branch rest =>
      exact List.forall_mem_cons.2 ⟨tracesBody_renderList branch.2, tracesBranches_render rest⟩

theorem tracesBody_renderOption (body : Option (List Node)) :
    TracesBody e (Node.renderOption (e.recorded.limited rounds) body) := by
  cases body with
  | none => exact fun _ => traces_pure _
  | some body => exact tracesBody_renderList body

end

end

end Stencil
