import Stencil.Node.Basic
import Stencil.Render.Evaluator

/-!
# Rendering

A tree is rendered from left to right in a scope, and the result is the text of all its nodes one
after another. Each node is turned into a computation of its text, and the computations of bodies
are combined by `choose` for conditionals, `select` for switches and `repeatOver` for loops.

Design points:

* The conditions of a conditional are evaluated in order up to the first that holds; no other body
  than its own is entered.
* The values of all cases of a switch are evaluated in order, then the subject; of the cases whose
  value equals the subject the last one is taken.
* A loop asks for one item after another, so it sees changes to its collection; a collection that
  grows in every round keeps it going forever.
* The first failure ends the render, and the state keeps all changes made up to it.
-/

namespace Stencil

/-- Why a render ended early. -/
inductive RenderError (Failure Value : Type)
  /-- The evaluator failed. -/
  | failed (failure : Failure)
  /-- The collection of a loop is not a sequence. -/
  | notSequence (source : Text) (value : Value)
  /-- The tree holds an object that is no node. -/
  | unknownNode (typeName : Text)

/-- The message for a collection that a loop cannot run over. -/
def RenderError.notSequenceMessage (source : Text) : Text :=
  "Incompatible argument: '".toList ++ source ++ "' is not a sequence".toList

/-- The message for an object that is no node. -/
def RenderError.unknownNodeMessage (typeName : Text) : Text :=
  "Unknown node type: ".toList ++ typeName

/-- The message for a render that ended early, from the messages of its evaluator. -/
def RenderError.message {Failure Value : Type} (ofFailure : Failure → Text) :
    RenderError Failure Value → Text
  | failed failure => ofFailure failure
  | notSequence source _ => notSequenceMessage source
  | unknownNode typeName => unknownNodeMessage typeName

/-- A computation in a state that may end early. -/
abbrev Render (State Value Failure : Type) :=
  EStateM (RenderError Failure Value) State

/-- A body that waits for the scope to be rendered in. -/
abbrev Body (State Scope Value Failure : Type) :=
  Scope → Render State Value Failure Text

namespace Render

variable {State Scope Value Failure : Type} (e : Evaluator State Scope Value Failure)

/-! ### Values -/

/-- The value of a source. -/
def value (source : Text) (scope : Scope) : Render State Value Failure Value := fun state =>
  match e.evaluate source scope state with
  | .ok value state => .ok value state
  | .error failure state => .error (.failed failure) state

/-- An answer of the evaluator that leaves the state as it is. -/
def ask {α : Type} (question : State → Except Failure α) : Render State Value Failure α :=
  fun state =>
    match question state with
    | .ok answer => .ok answer state
    | .error failure => .error (.failed failure) state

/-- The text of the value of a source. -/
def shown (source : Text) : Body State Scope Value Failure := fun scope => do
  let value ← value e source scope
  ask fun state => e.display state value

/-! ### Bodies -/

/-- The body of the first source with a true value, or else the other one. -/
def choose (otherwise : Body State Scope Value Failure) :
    List (Text × Body State Scope Value Failure) → Body State Scope Value Failure
  | [], scope => otherwise scope
  | (condition, body) :: rest, scope => do
      let value ← value e condition scope
      let holds ← ask fun state => e.isTrue state value
      if holds then body scope else choose otherwise rest scope

/-- The values of the sources in order, each with its body. -/
def caseValues : List (Text × Body State Scope Value Failure) → Scope →
    Render State Value Failure (List (Value × Body State Scope Value Failure))
  | [], _ => pure []
  | (source, body) :: rest, scope => do
      let value ← value e source scope
      let more ← caseValues rest scope
      return (value, body) :: more

/-- The body of the last value that equals the subject. -/
def lastEqual (subject : Value) (otherwise : Body State Scope Value Failure) :
    List (Value × Body State Scope Value Failure) →
      Render State Value Failure (Body State Scope Value Failure)
  | [] => pure otherwise
  | (value, body) :: rest => do
      let isEqual ← ask fun state => e.areEqual state value subject
      lastEqual subject (if isEqual then body else otherwise) rest

/-- The body of the last case whose value equals the subject, or else the other one. -/
def select (subject : Text) (otherwise : Body State Scope Value Failure)
    (cases : List (Text × Body State Scope Value Failure)) : Body State Scope Value Failure :=
  fun scope => do
    let values ← caseValues e cases scope
    let subject ← value e subject scope
    let body ← lastEqual e subject otherwise values
    body scope

/-- One round of a loop, from an index on and behind the text so far. Left is the beginning of the
next round, and right the end of the loop. -/
def round (header : LoopHeader) (body : Body State Scope Value Failure) (collection : Value)
    (scope : Scope) : Nat × Text × State →
      (Nat × Text × State) ⊕ EStateM.Result (RenderError Failure Value) State Text
  | (index, before, state) =>
      match e.item? state collection index with
      | none => .inr (.ok before state)
      | some item =>
          let (inner, state) := e.enter scope header.item item header.index index state
          match body inner state with
          | .error error state => .inr (.error error state)
          | .ok text state => .inl (index + 1, before ++ text, state)

/-- The texts of a body for the items of a sequence from an index on, behind the text so far. What
this is for a sequence that never comes to an end is left open. -/
def eachItem (header : LoopHeader) (body : Body State Scope Value Failure) (collection : Value)
    (scope : Scope) (index : Nat) (before : Text) (state : State) :
    EStateM.Result (RenderError Failure Value) State Text :=
  have : Nonempty (EStateM.Result (RenderError Failure Value) State Text) := ⟨.ok before state⟩
  repeatM (m := Id) (round e header body collection scope) (index, before, state)

/-- A loop goes on with the next round or is at its end. -/
theorem eachItem_eq (header : LoopHeader) (body : Body State Scope Value Failure)
    (collection : Value) (scope : Scope) (index : Nat) (before : Text) (state : State) :
    eachItem e header body collection scope index before state =
      match round e header body collection scope (index, before, state) with
      | .inl (index, before, state) => eachItem e header body collection scope index before state
      | .inr result => result := by
  have : Nonempty (EStateM.Result (RenderError Failure Value) State Text) := ⟨.ok before state⟩
  rw [eachItem, repeatM_eq_of_monadTail]
  cases h : round e header body collection scope (index, before, state) with
  | inl next =>
      rw [repeatM.body, h]
      rfl
  | inr result =>
      rw [repeatM.body, h]
      rfl

/-- A body for every item of the collection. -/
def repeatOver (header : LoopHeader) (body : Body State Scope Value Failure) :
    Body State Scope Value Failure := fun scope => do
  let collection ← value e header.collection scope
  if e.isSequence collection then eachItem e header body collection scope 0 []
  else throw (.notSequence header.collection collection)

end Render

/-! ### Trees -/

namespace Node

variable {State Scope Value Failure : Type} (e : Evaluator State Scope Value Failure)

mutual

/-- The text of a node. -/
def render : Node → Body State Scope Value Failure
  | text content => fun _ => pure content
  | expression source => Render.shown e source
  | conditional branches otherwise =>
      Render.choose e (renderOption otherwise) (renderBranches branches)
  | iteration header body => Render.repeatOver e header (renderList body)
  | switch subject cases otherwise =>
      Render.select e subject (renderOption otherwise) (renderBranches cases)
  | foreign typeName => fun _ => throw (.unknownNode typeName)

/-- The text of nodes one after another. -/
def renderList : List Node → Body State Scope Value Failure
  | [] => fun _ => pure []
  | node :: rest => fun scope => do
      let first ← render node scope
      let more ← renderList rest scope
      return first ++ more

/-- The bodies of branches, each with its source. -/
def renderBranches : List (Text × List Node) → List (Text × Body State Scope Value Failure)
  | [] => []
  | (source, body) :: rest => (source, renderList body) :: renderBranches rest

/-- The text of a body that may be missing. -/
def renderOption : Option (List Node) → Body State Scope Value Failure
  | none => fun _ => pure []
  | some body => renderList body

end

end Node

end Stencil
