import Stencil.Render.Evaluator
import Stencil.Scope

/-!
# Evaluators that use a scope as a map

What an evaluator does with the scope that it is given, when it uses it as a finite map and as
nothing else, is a `MapProgram`: it looks keys up, asks whether they are there and how many there
are, sets some of them, and goes on according to the answers. The same program can be run on layers
and on a single table.

`MapEvaluator` is a language of expressions of this kind. Beside the scope it has a world of its own,
which every evaluation may change and on which the truth, the equality and the text of a value may
depend, and the items of a sequence too.
-/

namespace Stencil

/-- A computation that uses a scope as a map. -/
inductive MapProgram (K V Result : Type)
  | done (result : Result)
  | get? (key : K) (next : Option V → MapProgram K V Result)
  | has (key : K) (next : Bool → MapProgram K V Result)
  | size (next : Nat → MapProgram K V Result)
  | put (key : K) (value : V) (next : MapProgram K V Result)

/-- The operations of a map that is kept in a store. -/
structure MapOperations (K V Store : Type) where
  get? : Store → K → Option V
  has : Store → K → Bool
  size : Store → Nat
  put : K → V → Store → Store

/-- The result of a program on a map, and the store after it. -/
def MapProgram.run {K V Store Result : Type} (map : MapOperations K V Store) :
    MapProgram K V Result → Store → Result × Store
  | done result, store => (result, store)
  | get? key next, store => (next (map.get? store key)).run map store
  | has key next, store => (next (map.has store key)).run map store
  | size next, store => (next (map.size store)).run map store
  | put key value next, store => next.run map (map.put key value store)

/-- A language of expressions that uses a scope as a map. -/
structure MapEvaluator (K V World Failure : Type) where
  /-- The value of a source, and the world after it. -/
  evaluate : Text → World → MapProgram K V (Except Failure V × World)
  isTrue : World → V → Except Failure Bool
  areEqual : World → V → V → Except Failure Bool
  display : World → V → Except Failure Text
  isSequence : V → Bool
  /-- The items of a sequence. -/
  items : World → V → List V
  /-- The key of the name of a variable. -/
  name : Text → K
  /-- The value of the index of a loop. -/
  count : Nat → V

/-! ### Layers -/

section

variable {K V : Type} [BEq K]

/-- All tables that were ever made. A table is known by its number. -/
abbrev Tables (K V : Type) := List (Table K V)

namespace Tables

/-- The layers of a chain of tables. -/
def layers (tables : Tables K V) (chain : List Nat) : Scope K V :=
  chain.map fun address => tables.getD address []

/-- Write back the layers of a chain of tables. -/
def write : List Nat → Scope K V → Tables K V → Tables K V
  | address :: chain, layer :: layers, tables => write chain layers (tables.set address layer)
  | _, _, tables => tables

/-- A chain of tables as a map: the layers of a scope. -/
def map (chain : List Nat) : MapOperations K V (Tables K V) where
  get? tables := Scope.get? (tables.layers chain)
  has tables := Scope.has (tables.layers chain)
  size tables := Scope.size (tables.layers chain)
  put key value tables := write chain (Scope.put key value (tables.layers chain)) tables

end Tables

namespace MapEvaluator

variable {World Failure : Type}

/-- The evaluator over layers. The body of a loop gets a new table with the item and the index in
front of its chain. -/
def layered (e : MapEvaluator K V World Failure) :
    Evaluator (World × Tables K V) (List Nat) V Failure where
  evaluate source chain := fun (world, tables) =>
    match (e.evaluate source world).run (Tables.map chain) tables with
    | ((.ok value, world), tables) => .ok value (world, tables)
    | ((.error failure, world), tables) => .error failure (world, tables)
  isTrue state := e.isTrue state.1
  areEqual state := e.areEqual state.1
  display state := e.display state.1
  isSequence := e.isSequence
  item? state collection index := (e.items state.1 collection)[index]?
  enter chain item value index count := fun (world, tables) =>
    let bindings := Table.ofEntries [(e.name item, value), (e.name index, e.count count)]
    (tables.length :: chain, (world, tables ++ [bindings]))

end MapEvaluator

end

end Stencil
