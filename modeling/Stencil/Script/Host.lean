import Stencil.Render.Evaluator
import Stencil.Script.Display

/-!
# Rendering over a store

How values in a store look to a renderer, whatever the language that yields them. A scope is a
mapping: the chain of dictionaries from the innermost loop to the variables of the render. Entering
a loop body puts a new dictionary with the item and the index in front of the chain.
-/

namespace Stencil.Script

/-- Why a value could not be had or shown. -/
inductive Failure
  /-- The evaluation of a source failed. -/
  | evaluation (source : Text) (fault : Fault)
  /-- A value that was evaluated could not be compared or written. -/
  | outside (fault : Fault)
  deriving Repr, DecidableEq

/-- The message for a failed evaluation of a source. -/
def evaluationMessage (source : Text) (fault : Fault) : Text :=
  "Internal error in '".toList ++ source ++ "': ".toList ++ fault.message

/-- The message for a value that could not be had or shown. -/
def Failure.message : Failure → Text
  | evaluation source fault => evaluationMessage source fault
  | outside fault => fault.message

/-- The scopes of renders over a store. -/
abbrev Chain := List Address

/-- The item of a sequence at an index. Texts and mappings are not sequences here. -/
def item? (store : Store) (collection : Value) (index : Nat) : Option Value :=
  match collection with
  | .list address => (store.list address)[index]?
  | .tuple items => items[index]?
  | .range start stop step =>
      if index < Value.rangeLength start stop step then some (.int (start + step * index)) else none
  | _ => none

/-- Can a loop of a template run over a value? -/
def isSequence : Value → Bool
  | .list _ | .tuple _ | .range _ _ _ => true
  | _ => false

/-- A new scope without variables. -/
def emptyScope (store : Store) : Chain × Store :=
  let (address, store) := store.alloc (.dict [])
  ([address], store)

/-- The scope of a loop body. -/
def enterLoop (chain : Chain) (item : Text) (value : Value) (index : Text) (count : Nat)
    (store : Store) : Chain × Store :=
  let bindings := Table.ofEntries [(.text item, value), (.text index, .int count)]
  let (address, store) := store.alloc (.dict bindings)
  (address :: chain, store)

/-- A language of expressions over a store, from the way it evaluates a source. -/
def evaluatorOf (evaluate : Text → Chain → EStateM Failure Store Value) :
    Evaluator Store Chain Value Failure where
  evaluate := evaluate
  isTrue store value := .ok (store.isTrue value)
  areEqual store a b := (store.equal a b).mapError .outside
  display store value := (store.display value).mapError .outside
  isSequence := isSequence
  item? := item?
  enter := enterLoop

end Stencil.Script
