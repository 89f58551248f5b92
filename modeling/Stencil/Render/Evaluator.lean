import Stencil.Text.Basic

/-!
# Evaluators

What a renderer has to know about the language of expressions. A renderer never looks into a value,
a scope or a state: it hands sources to the evaluator, and asks what a value counts as, which may
fail.

Evaluating may change the state, also when it fails, and everything evaluated later sees the change.
`Evaluator.recorded` is any evaluator together with a record of all that it is asked to evaluate.
-/

namespace Stencil

/-- A language of expressions, as a renderer sees it. -/
structure Evaluator (State Scope Value Failure : Type) where
  /-- The value of a source in a scope. -/
  evaluate : Text → Scope → EStateM Failure State Value
  /-- Does a value count as true? -/
  isTrue : State → Value → Except Failure Bool
  /-- Are two values equal? -/
  areEqual : State → Value → Value → Except Failure Bool
  /-- The text that a value is inserted as. -/
  display : State → Value → Except Failure Text
  /-- Can a loop run over a value? -/
  isSequence : Value → Bool
  /-- The item of a sequence at an index, as the sequence is now. -/
  item? : State → Value → Nat → Option Value
  /-- The scope of a loop body, in which two names stand for an item and its index. -/
  enter : Scope → Text → Value → Text → Nat → State → Scope × State

namespace Evaluator

variable {State Scope Value Failure : Type}

/-- The same evaluator with a list of notes, one for every evaluation that `note` has something to
say about. The note is taken before the evaluation, so there is one for a failing one too. -/
def noting {Note : Type} (e : Evaluator State Scope Value Failure)
    (note : State → Text → Scope → Option Note) :
    Evaluator (State × List Note) Scope Value Failure where
  evaluate source scope := fun (state, notes) =>
    let notes := notes ++ (note state source scope).toList
    match e.evaluate source scope state with
    | .ok value state => .ok value (state, notes)
    | .error failure state => .error failure (state, notes)
  isTrue state := e.isTrue state.1
  areEqual state := e.areEqual state.1
  display state := e.display state.1
  isSequence := e.isSequence
  item? state := e.item? state.1
  enter scope item value index count := fun (state, notes) =>
    let (scope, state) := e.enter scope item value index count state
    (scope, (state, notes))

/-- The same evaluator with a record of the evaluated sources, in order. -/
def recorded (e : Evaluator State Scope Value Failure) :
    Evaluator (State × List Text) Scope Value Failure :=
  e.noting fun _ source _ => some source

end Evaluator

end Stencil
