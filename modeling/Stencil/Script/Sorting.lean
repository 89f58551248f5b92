import Stencil.Script.Operation

/-!
# Sorting

Sorting keeps the order of items that are not less than one another. The longest run at the start
that is in order already, or strictly in reverse, is taken as it is; every further item is put into
its place by halving. Which two items are compared first decides what an error says about them.
-/

namespace Stencil.Script.Sorting

/-- A sort key and the item that it belongs to. -/
abbrev Keyed := Value × Value

/-- Is the key of one item less than that of another? -/
def less (a b : Keyed) : Eval Bool :=
  Operation.ordered .lt Store.comparisonDepth a.1 b.1

/-- The items after `last` that go on in order, or in reverse if `down`, and the others. -/
def run (down : Bool) (last : Keyed) : List Keyed → Eval (List Keyed × List Keyed)
  | [] => return ([], [])
  | item :: rest => do
      if (← less item last) == down then
        let (taken, left) ← run down item rest
        return (item :: taken, left)
      else return ([], item :: rest)

/-- The place of an item among sorted ones, between `low` and `high`. -/
def placeOf (item : Keyed) (sorted : Array Keyed) : Nat → Nat → Nat → Eval Nat
  | 0, low, _ => return low
  | limit + 1, low, high =>
      if low < high then do
        let middle := low + (high - low) / 2
        let isLess ← match sorted[middle]? with
          | some other => less item other
          | none => pure false
        if isLess then placeOf item sorted limit low middle
        else placeOf item sorted limit (middle + 1) high
      else return low

/-- Put items into their places one after another. -/
def insertAll (sorted : Array Keyed) : List Keyed → Eval (Array Keyed)
  | [] => return sorted
  | item :: rest => do
      let place ← placeOf item sorted (sorted.size + 1) 0 sorted.size
      insertAll (sorted.insertIdxIfInBounds place item) rest

/-- The items in ascending order of their keys. -/
def ascending : List Keyed → Eval (List Keyed)
  | [] => return []
  | [item] => return [item]
  | first :: second :: rest => do
      let down ← less second first
      let (taken, left) ← run down first (second :: rest)
      let start := first :: taken
      let sorted ← insertAll (if down then start.reverse else start).toArray left
      return sorted.toList

/-- The items in order of their keys, or in reverse. Either way equal items keep their order. -/
def sort (isReverse : Bool) (items : List Keyed) : Eval (List Value) := do
  let sorted ← ascending (if isReverse then items.reverse else items)
  return (if isReverse then sorted.reverse else sorted).map (·.2)

end Stencil.Script.Sorting
