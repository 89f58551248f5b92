import Stencil.Proofs.Render.MapEvaluator
import Stencil.Proofs.Table
import Stencil.Render.Basic

/-!
# Rendering over one flat map

The reference for layered scopes: a renderer with a single map and no scopes. A loop evaluates its
collection once; for the items in order it stores the item and the index under their names and
renders the body; and when this is over, with or without a failure, it puts back what the map had
under the two names before.

Apart from loops the nodes are rendered as always. The state also keeps two records that nothing
looks at: the sources that were evaluated, and for every round of a loop the world in which it began,
from which one can tell whether the collection was still what it had been (`Flat.IsSteady`).
-/

namespace Stencil

variable {K V World Failure : Type}

/-- The beginning of a round of a loop: the world then, the collection, and the items that the
collection had when the loop began. -/
structure Round (V World : Type) where
  world : World
  collection : V
  items : List V

/-- The state of the reference: the world, the map, and the records. -/
structure Flat (K V World : Type) where
  world : World
  context : Table K V
  sources : List Text := []
  rounds : List (Round V World) := []

/-- No collection was changed while a loop ran over it. -/
def Flat.IsSteady (e : MapEvaluator K V World Failure) (flat : Flat K V World) : Prop :=
  ∀ round ∈ flat.rounds, e.items round.world round.collection = round.items

instance [DecidableEq V] (e : MapEvaluator K V World Failure) (flat : Flat K V World) :
    Decidable (flat.IsSteady e) :=
  inferInstanceAs
    (Decidable (∀ round ∈ flat.rounds, e.items round.world round.collection = round.items))

variable [BEq K]

namespace Flat

/-- A table as a map. -/
def map : MapOperations K V (Table K V) where
  get? := Table.get?
  has := Table.has
  size := List.length
  put := Table.put

/-- The map with some keys as they were in an older one. -/
def restore (names : List K) (old : Table K V) (flat : Flat K V World) : Flat K V World :=
  { flat with context := Table.restore names old flat.context }

/-- One more round in the record. -/
def note (collection : V) (items : List V) (flat : Flat K V World) : Flat K V World :=
  { flat with rounds := flat.rounds ++ [⟨flat.world, collection, items⟩] }

/-- Run, and put back what the map had under some names, also after a failure. -/
def restoring {α : Type} (names : List K) (run : Render (Flat K V World) V Failure α) :
    Render (Flat K V World) V Failure α := fun flat =>
  match run flat with
  | .ok result after => .ok result (after.restore names flat.context)
  | .error error after => .error error (after.restore names flat.context)

end Flat

namespace MapEvaluator

variable (e : MapEvaluator K V World Failure)

/-- The keys of the names that a loop binds. -/
def loopNames (header : LoopHeader) : List K :=
  [e.name header.item, e.name header.index]

/-- The map with an item and its index under their names. -/
def bind (header : LoopHeader) (item : V) (index : Nat) (flat : Flat K V World) : Flat K V World :=
  { flat with
    context := Table.put (e.name header.index) (e.count index)
      (Table.put (e.name header.item) item flat.context) }

/-- The evaluator over a single table. Loops are not left to it. -/
def flat : Evaluator (Flat K V World) Unit V Failure where
  evaluate source _ := fun flat =>
    let flat := { flat with sources := flat.sources ++ [source] }
    match (e.evaluate source flat.world).run Flat.map flat.context with
    | ((.ok value, world), context) => .ok value { flat with world, context }
    | ((.error failure, world), context) => .error failure { flat with world, context }
  isTrue flat := e.isTrue flat.world
  areEqual flat := e.areEqual flat.world
  display flat := e.display flat.world
  isSequence := e.isSequence
  item? flat collection index := (e.items flat.world collection)[index]?
  enter scope _ _ _ _ flat := (scope, flat)

/-- The body once for each of the remaining items of a collection. -/
def eachRound (header : LoopHeader) (collection : V) (items : List V)
    (body : Render (Flat K V World) V Failure Text) :
    List V → Nat → Render (Flat K V World) V Failure Text
  | [], _ => do
      modify (Flat.note collection items)
      pure []
  | item :: rest, index => do
      modify (Flat.note collection items)
      modify (e.bind header item index)
      let text ← body
      let more ← eachRound header collection items body rest (index + 1)
      return text ++ more

/-- A loop over the items that the collection has when the loop begins. -/
def forEach (header : LoopHeader) (body : Render (Flat K V World) V Failure Text) :
    Render (Flat K V World) V Failure Text := do
  let collection ← Render.value e.flat header.collection ()
  if e.isSequence collection then
    Flat.restoring (e.loopNames header) do
      let items := e.items (← get).world collection
      e.eachRound header collection items body items 0
  else throw (.notSequence header.collection collection)

end MapEvaluator

/-! ### Trees -/

namespace Node

variable (e : MapEvaluator K V World Failure)

mutual

/-- The text of a node in the reference. -/
def renderFlat : Node → Body (Flat K V World) Unit V Failure
  | text content => fun _ => pure content
  | expression source => Render.shown e.flat source
  | conditional branches otherwise =>
      Render.choose e.flat (renderFlatOption otherwise) (renderFlatBranches branches)
  | iteration header body => fun scope => e.forEach header (renderFlatList body scope)
  | switch subject cases otherwise =>
      Render.select e.flat subject (renderFlatOption otherwise) (renderFlatBranches cases)
  | foreign typeName => fun _ => throw (.unknownNode typeName)

/-- The text of nodes one after another. -/
def renderFlatList : List Node → Body (Flat K V World) Unit V Failure
  | [] => fun _ => pure []
  | node :: rest => fun scope => do
      let first ← renderFlat node scope
      let more ← renderFlatList rest scope
      return first ++ more

/-- The bodies of branches, each with its source. -/
def renderFlatBranches : List (Text × List Node) → List (Text × Body (Flat K V World) Unit V Failure)
  | [] => []
  | (source, body) :: rest => (source, renderFlatList body) :: renderFlatBranches rest

/-- The text of a body that may be missing. -/
def renderFlatOption : Option (List Node) → Body (Flat K V World) Unit V Failure
  | none => fun _ => pure []
  | some body => renderFlatList body

end

end Node

end Stencil
