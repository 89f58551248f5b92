import Stencil.Script.Operation

/-!
# Going through values

What a loop asks a value for, one item after another. Between the items of a mapping stand checks
that it did not grow or shrink meanwhile. Every layer of a scope is checked before each of its keys
and once more after the last one.

What there is to ask for is not all known when a loop begins, so a loop goes in stretches, one for
each layer. Which keys a layer has, and how many, is found out when the loop gets to it. Known from
the beginning are only the size of the last layer, and which keys of a layer the layers inside of it
hide.
-/

namespace Stencil.Script

/-- What a loop over a mapping or a set does next. -/
inductive Visit
  /-- Check that a cell still holds as many entries as at the start. -/
  | check (address : Address) (size : Nat)
  /-- Take an item. -/
  | item (value : Value)
  /-- Take what a view shows for a key. -/
  | entry (kind : ViewKind) (chain : List Address) (key : Value)

namespace Visit

/-- Does a cell still hold as many entries as at the start? -/
def checkSize (address : Address) (size : Nat) : Eval Unit := do
  match (← get).cells[address]? with
  | some (.dict entries) =>
      if entries.length = size then return ()
      else throw ⟨.changed, "dictionary changed size during iteration".toList⟩
  | some (.set items) =>
      if items.length = size then return ()
      else throw ⟨.changed, "Set changed size during iteration".toList⟩
  | _ => return ()

/-- The item of a visit; a check has none. -/
def item? : Visit → Eval (Option Value)
  | check address size => do
      checkSize address size
      return none
  | item value => return some value
  | entry kind chain key => do
      match kind, (← Eval.scope chain).get? key with
      | .keys, _ => return some key
      | .values, some value => return some value
      | .items, some value => return some (.tuple [key, value])
      | _, none => Eval.missing key

end Visit

/-- A stretch of a loop. -/
inductive Stretch
  /-- Visits that are known when the loop begins. -/
  | known (visits : List Visit)
  /-- The keys of one layer of a mapping, of which a view shows something. The layers inside of it
  are given as they were when the loop began, and the size of the layer if it counts from then. -/
  | layer (kind : ViewKind) (chain : List Address) (inner : Scope Value Value) (address : Address)
      (size? : Option Nat)

namespace Stretch

/-- The visits of a stretch that begins now. A key that the layers inside hide is passed over, but
not without a check. -/
def visits (store : Store) : Stretch → List Visit
  | known visits => visits
  | layer kind chain inner address size? =>
      let keys := (store.dict address).map (·.1)
      let check := Visit.check address (size?.getD keys.length)
      keys.flatMap (fun key => if inner.has key then [check] else [check, .entry kind chain key])
        ++ [check]

/-- The stretches of a loop that begins now, over the layers `outer` of a mapping that come after the
layers `inner`. Only the last one has its size from now. -/
def ofLayers (store : Store) (kind : ViewKind) (chain inner : List Address) :
    List Address → List Stretch
  | [] => []
  | address :: outer =>
      let size? := if outer.isEmpty then some (store.dict address).length else none
      layer kind chain (store.scope inner) address size?
        :: ofLayers store kind chain (address :: inner) outer

/-- The stretches of a loop that begins now over a value that is not a list. A mapping shows its
keys. -/
def ofValue? (store : Store) : Value → Option (List Stretch)
  | .mapping chain => some (ofLayers store .keys chain [] chain)
  | .view kind chain => some (ofLayers store kind chain [] chain)
  | .set address =>
      let items := store.set address
      let check := Visit.check address items.length
      some [known (items.flatMap (fun item => [check, .item item]) ++ [check])]
  | value => (store.items? value).map fun items => [known (items.map .item)]

end Stretch

end Stencil.Script
