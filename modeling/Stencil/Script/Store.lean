import Stencil.Scope
import Stencil.Script.Value

/-!
# Stores

A store keeps the values that can change, one in a cell: lists, dictionaries and sets. Cells are
never given up. Whoever has the address of a cell sees every change to it, so two variables may
share a list.

A mapping is a chain of addresses of dictionaries. `Store.scope` reads a chain as layers of tables,
and everything that a mapping does is done by the operations of `Stencil.Scope` on these layers.
-/

namespace Stencil.Script

/-- The contents of a cell. -/
inductive Cell
  | list (items : List Value)
  | dict (entries : Table Value Value)
  | set (items : List Value)
  deriving Inhabited

/-- The values that can change. -/
structure Store where
  cells : Array Cell := #[]
  deriving Inhabited

namespace Store

/-- A new cell. -/
def alloc (cell : Cell) (store : Store) : Address × Store :=
  (store.cells.size, ⟨store.cells.push cell⟩)

/-- Give a cell other contents. -/
def write (address : Address) (cell : Cell) (store : Store) : Store :=
  ⟨store.cells.setIfInBounds address cell⟩

/-- The items of a list. -/
def list (store : Store) (address : Address) : List Value :=
  match store.cells[address]? with
  | some (.list items) => items
  | _ => []

/-- The elements of a set. -/
def set (store : Store) (address : Address) : List Value :=
  match store.cells[address]? with
  | some (.set items) => items
  | _ => []

/-- The entries of a dictionary. -/
def dict (store : Store) (address : Address) : Table Value Value :=
  match store.cells[address]? with
  | some (.dict entries) => entries
  | _ => []

/-- The layers of a mapping. -/
def scope (store : Store) (chain : List Address) : Scope Value Value :=
  chain.map store.dict

/-- Write back the layers of a mapping. -/
def writeScope (chain : List Address) (layers : Scope Value Value) (store : Store) : Store :=
  (chain.zip layers).foldl (fun store layer => store.write layer.1 (.dict layer.2)) store

/-! ### Making values -/

/-- A new list. -/
def newList (items : List Value) (store : Store) : Value × Store :=
  let (address, store) := store.alloc (.list items)
  (.list address, store)

/-- A new dictionary. -/
def newDict (entries : Table Value Value) (store : Store) : Value × Store :=
  let (address, store) := store.alloc (.dict entries)
  (.mapping [address], store)

/-- A new set. -/
def newSet (items : List Value) (store : Store) : Value × Store :=
  let once := items.foldl (fun seen item => if seen.contains item then seen else seen ++ [item]) []
  let (address, store) := store.alloc (.set once)
  (.set address, store)

/-! ### Truth -/

/-- The values that going through a value yields, when that does not depend on later changes. -/
def items? (store : Store) : Value → Option (List Value)
  | .text value => some (value.map fun c => .text [c])
  | .bytes value => some (value.map fun byte => .int byte.toNat)
  | .tuple items => some items
  | .range start stop step => some (Value.rangeItems start stop step)
  | .list address => some (store.list address)
  | .set address => some (store.set address)
  | .mapping chain => some (store.scope chain).keys
  | .view .keys chain => some (store.scope chain).keys
  | .view .values chain => some ((store.scope chain).items.map (·.2))
  | .view .items chain => some ((store.scope chain).items.map fun (k, v) => .tuple [k, v])
  | _ => none

/-- The length of a value that has one. -/
def length? (store : Store) : Value → Option Nat
  | .range start stop step => some (Value.rangeLength start stop step)
  | value => (store.items? value).map List.length

/-- Does a value count as true? -/
def isTrue (store : Store) : Value → Bool
  | .none => false
  | .bool value => value
  | .int value => value != 0
  | .float value => value != 0.0
  | .range start stop step => Value.rangeLength start stop step != 0
  | .builtin _ | .method _ _ | .slice _ _ _ | .other _ => true
  | value => (store.length? value).any (· != 0)

/-! ### Equality -/

/-- Do two lists agree item by item? -/
def sameItems (same : Value → Value → Option Bool) : List Value → List Value → Option Bool
  | [], [] => some true
  | x :: xs, y :: ys => do
      if ← same x y then sameItems same xs ys else return false
  | _, _ => some false

/-- Does a mapping give every one of the keys the value that stands beside it? -/
def sameEntries (same : Value → Value → Option Bool) (other : Scope Value Value) :
    List (Value × Value) → Option Bool
  | [] => some true
  | (key, value) :: rest => do
      match other.get? key with
      | none => return false
      | some found => if ← same value found then sameEntries same other rest else return false

/-- Are two values equal, followed at most `depth` values deep? Nothing is known beyond that.
Parts of values that are one and the same are not looked into. -/
def equal? (store : Store) : Nat → Value → Value → Option Bool
  | 0, _, _ => none
  | depth + 1, a, b =>
      let same (a b : Value) : Option Bool :=
        if a.sameKey b then some true else equal? store depth a b
      match a, b with
      | .list s, .list t =>
          let xs := store.list s
          let ys := store.list t
          if xs.length = ys.length then sameItems same xs ys else some false
      | .tuple xs, .tuple ys => if xs.length = ys.length then sameItems same xs ys else some false
      | .mapping s, .mapping t =>
          let entries := (store.scope s).items
          if entries.length = (store.scope t).size then sameEntries same (store.scope t) entries
          else some false
      | .set s, .set t =>
          let xs := store.set s
          let ys := store.set t
          some (xs.length = ys.length && xs.all ys.contains)
      | .float x, .float y => some (x == y)
      | a, b => some (a.sameKey b)

/-- The number of values that a comparison follows one inside another. -/
def comparisonDepth : Nat := 1000

/-- Are two values equal? -/
def equal (store : Store) (a b : Value) : Except Fault Bool :=
  match store.equal? comparisonDepth a b with
  | some answer => .ok answer
  | none => .error .nesting

end Store

end Stencil.Script
