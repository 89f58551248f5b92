import Stencil.Script.Display

/-!
# Computations of scripts

A computation runs on a store, which it may change, and it may fail. What it has changed up to then
stays changed.
-/

namespace Stencil.Script

/-- A computation of a script. -/
abbrev Eval := EStateM Fault Store

namespace Eval

/-- An answer that leaves the store as it is. -/
def ask {α : Type} (question : Store → Except Fault α) : Eval α := fun store =>
  match question store with
  | .ok answer => .ok answer store
  | .error fault => .error fault store

/-- A result that does not depend on the store. -/
def ofExcept {α : Type} (result : Except Fault α) : Eval α :=
  ask fun _ => result

/-- A new list. -/
def newList (items : List Value) : Eval Value :=
  modifyGet (Store.newList items)

/-- Change what is in a cell. -/
def write (address : Address) (cell : Cell) : Eval Unit :=
  modify (Store.write address cell)

/-- The layers of a mapping. -/
def scope (chain : List Address) : Eval (Scope Value Value) := do
  return (← get).scope chain

/-- Write back the layers of a mapping. -/
def writeScope (chain : List Address) (layers : Scope Value Value) : Eval Unit :=
  modify (Store.writeScope chain layers)

/-- A value that can be a key. -/
def checkKey (value : Value) : Eval Unit :=
  match value.notHashable? with
  | none => pure ()
  | some typeName => throw (.notHashable typeName)

/-- The fault of a key that a mapping does not have. -/
def missing {α : Type} (key : Value) : Eval α := do
  let written ← ask fun store => store.repr key
  throw (.noKey written)

end Eval

end Stencil.Script
