import Stencil.Data
import Stencil.Script.Store

/-!
# Loading data

Data become values of scripts: lists and mappings get cells of their own in a store, and everything
else is a value in itself.
-/

namespace Stencil.Script

mutual

/-- The value of data. -/
def Value.ofData : Data → Store → Value × Store
  | .null, store => (.none, store)
  | .bool value, store => (.bool value, store)
  | .int value, store => (.int value, store)
  | .float value, store => (.float value, store)
  | .text value, store => (.text value, store)
  | .other typeName, store => (.other typeName, store)
  | .list items, store =>
      let (values, store) := Value.ofItems items store
      store.newList values
  | .mapping entries, store =>
      let (table, store) := Value.ofEntries entries store
      store.newDict (Table.ofEntries table)

/-- The values of several data. -/
def Value.ofItems : List Data → Store → List Value × Store
  | [], store => ([], store)
  | item :: rest, store =>
      let (value, store) := Value.ofData item store
      let (more, store) := Value.ofItems rest store
      (value :: more, store)

/-- The values of the entries of a mapping. -/
def Value.ofEntries : List (Data × Data) → Store → List (Value × Value) × Store
  | [], store => ([], store)
  | (key, item) :: rest, store =>
      let (key, store) := Value.ofData key store
      let (value, store) := Value.ofData item store
      let (more, store) := Value.ofEntries rest store
      ((key, value) :: more, store)

end

/-- The scope with the variables of a mapping, and the store that it lies in. -/
def Store.ofVariables (entries : List (Data × Data)) : List Address × Store :=
  let (table, store) := Value.ofEntries entries {}
  let (address, store) := store.alloc (.dict (Table.ofEntries table))
  ([address], store)

end Stencil.Script
