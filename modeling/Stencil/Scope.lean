import Stencil.Table

/-!
# Layered scopes

The variables that a loop body sees: the names that the loop binds lie as a layer over the variables
around the loop. A scope is the list of its layers, innermost first; the last one is the table that
a render started from.

Looking up goes from the inside outwards. Writing and removing touch the innermost layer that has
the key; a key that no layer has is written to the last one. So a loop layer never gains a key, and
removing a key that shadows another brings that other one back.
-/

namespace Stencil

/-- The layers of a scope, innermost first. -/
abbrev Scope (K V : Type) := List (Table K V)

namespace Scope

variable {K V : Type} [BEq K]

/-! ### Looking up -/

/-- The value of a key in the innermost layer that has it. -/
def get? (scope : Scope K V) (key : K) : Option V :=
  scope.findSome? fun layer => Table.get? layer key

/-- Is the key in some layer? -/
def has (scope : Scope K V) (key : K) : Bool :=
  scope.any fun layer => Table.has layer key

/-- Every visible key once: the keys of the innermost layer in order, and after them those of the
layers around it that are not yet there. -/
def keys : Scope K V → List K
  | [] => []
  | layer :: outer => Table.keys layer ++ (keys outer).filter fun key => !Table.has layer key

/-- The visible keys with their values. -/
def items (scope : Scope K V) : List (K × V) :=
  (keys scope).filterMap fun key => (get? scope key).map fun value => (key, value)

/-- The number of visible keys. -/
def size (scope : Scope K V) : Nat :=
  (keys scope).length

/-- The number of entries in all layers, shadowed ones included. -/
def entryCount : Scope K V → Nat
  | [] => 0
  | layer :: outer => List.length layer + entryCount outer

/-! ### Writing and removing -/

/-- Give a key a value, in the innermost layer that has the key or else in the last one. -/
def put (key : K) (value : V) : Scope K V → Scope K V
  | [] => []
  | [base] => [Table.put key value base]
  | layer :: next :: outer =>
      if Table.has layer key then Table.put key value layer :: next :: outer
      else layer :: put key value (next :: outer)

/-- Remove a key from the innermost layer that has it. -/
def erase? (key : K) : Scope K V → Option (Scope K V)
  | [] => none
  | layer :: outer =>
      if Table.has layer key then some (Table.without layer key :: outer)
      else (erase? key outer).map (layer :: ·)

/-- Take a key out together with its value. -/
def pop? (key : K) (scope : Scope K V) : Option (V × Scope K V) := do
  return (← get? scope key, ← erase? key scope)

/-- Take out the first visible key together with its value. -/
def popFirst? (scope : Scope K V) : Option ((K × V) × Scope K V) := do
  let key ← (keys scope).head?
  let (value, rest) ← pop? key scope
  return ((key, value), rest)

/-- The value of a key, which is written first if no layer has it. -/
def getOrPut (key : K) (value : V) (scope : Scope K V) : V × Scope K V :=
  match get? scope key with
  | some found => (found, scope)
  | none => (value, put key value scope)

/-- Write several entries one after another. -/
def putAll (entries : List (K × V)) (scope : Scope K V) : Scope K V :=
  entries.foldl (fun scope entry => put entry.1 entry.2 scope) scope

/-- Take out first keys, at most `limit` of them. -/
def drain : Nat → Scope K V → List (K × V) × Scope K V
  | 0, scope => ([], scope)
  | limit + 1, scope =>
      match popFirst? scope with
      | none => ([], scope)
      | some (entry, rest) =>
          let (more, last) := drain limit rest
          (entry :: more, last)

/-- Take out first keys until none is left. Every removal takes one entry away. -/
def clear (scope : Scope K V) : Scope K V :=
  (drain (entryCount scope) scope).2

/-! ### Layers -/

/-- A body of a loop sees the names that the loop binds over all others. -/
def enter (bindings : Table K V) (scope : Scope K V) : Scope K V :=
  bindings :: scope

end Scope

end Stencil
