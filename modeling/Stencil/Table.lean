/-!
# Tables

A table is a finite map that remembers the order in which its keys were first written. Writing to a
key that is there keeps its place and the form in which the key was first given; keys are compared
by `==`, which may identify different forms of one key.
-/

namespace Stencil

/-- A map from keys to values in the order of insertion. -/
abbrev Table (K V : Type) := List (K × V)

namespace Table

variable {K V : Type} [BEq K]

/-- The value of a key. -/
def get? (table : Table K V) (key : K) : Option V :=
  (table.find? fun entry => entry.1 == key).map (·.2)

/-- Is the key in the table? -/
def has (table : Table K V) (key : K) : Bool :=
  table.any fun entry => entry.1 == key

/-- Give a key a value: in its place if it is there, and last if it is new. -/
def put (key : K) (value : V) : Table K V → Table K V
  | [] => [(key, value)]
  | entry :: rest =>
      if entry.1 == key then (entry.1, value) :: rest else entry :: put key value rest

/-- The table without a key. -/
def without (table : Table K V) (key : K) : Table K V :=
  table.filter fun entry => !(entry.1 == key)

/-- The keys in order. -/
def keys (table : Table K V) : List K :=
  table.map (·.1)

/-- The values in the order of their keys. -/
def values (table : Table K V) : List V :=
  table.map (·.2)

/-- A table from entries in order. -/
def ofEntries (entries : List (K × V)) : Table K V :=
  entries.foldl (fun table entry => put entry.1 entry.2 table) []

omit [BEq K] in
@[simp] theorem keys_nil : keys ([] : Table K V) = [] := rfl

theorem has_eq_isSome_get? (table : Table K V) (key : K) :
    has table key = (get? table key).isSome := by
  induction table with
  | nil => rfl
  | cons entry rest ih =>
      simp only [has, get?, List.any_cons, List.find?_cons] at ih ⊢
      cases entry.1 == key <;> simp [ih]

end Table

end Stencil
