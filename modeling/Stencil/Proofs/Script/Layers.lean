import Stencil.Proofs.Scope.OneLayer
import Stencil.Proofs.Script.Effects
import Stencil.Script.Host

/-!
# Mappings in a store

A mapping writes its layers back to the dictionaries that they were read from. These are different
from each other (`Store.Holds`), so writing back a scope in which one layer was changed comes to
changing one dictionary (`writeScope_modify`).
-/

namespace Stencil.Script

namespace Store

/-- The addresses of a chain are different from each other and lead to dictionaries. -/
structure Holds (store : Store) (chain : Chain) : Prop where
  nodup : chain.Nodup
  dict {address : Address} (mem : address ∈ chain) :
    ∃ entries, store.cells[address]? = some (.dict entries)

/-- The store with one dictionary changed. -/
def change (store : Store) (address : Address) (f : Table Value Value → Table Value Value) : Store :=
  store.write address (.dict (f (store.dict address)))

variable {store : Store} {chain : Chain} {address other : Address} {content : Cell}
variable {layer : Table Value Value} {layers : Scope Value Value}

theorem cells_write_of_ne (h : address ≠ other) :
    (store.write address content).cells[other]? = store.cells[other]? :=
  Array.getElem?_setIfInBounds_ne h

theorem cells_write_self (h : address < store.cells.size) :
    (store.write address content).cells[address]? = some content :=
  Array.getElem?_setIfInBounds_self_of_lt h

theorem dict_of_cells {rest : Store} (h : rest.cells[address]? = store.cells[address]?) :
    rest.dict address = store.dict address := by
  rw [dict, h, ← dict]

theorem dict_of_cell (h : store.cells[address]? = some (.dict layer)) : store.dict address = layer := by
  rw [dict, h]

theorem lt_of_cell (h : store.cells[address]? = some content) : address < store.cells.size := by
  obtain ⟨hlt, -⟩ := Array.getElem?_eq_some_iff.1 h
  exact hlt

theorem Holds.tail (h : store.Holds (address :: chain)) : store.Holds chain where
  nodup := (List.nodup_cons.1 h.nodup).2
  dict mem := h.dict (List.mem_cons_of_mem _ mem)

/-- The layers of a scope are dictionaries of the store. -/
theorem Holds.cell (h : store.Holds chain) (mem : address ∈ chain) :
    store.cells[address]? = some (.dict (store.dict address)) := by
  obtain ⟨entries, hentries⟩ := h.dict mem
  rw [dict_of_cell hentries, hentries]

/-- Chains of dictionaries that did not become something else. -/
theorem Holds.of_cells {rest : Store} (h : store.Holds chain)
    (dict : ∀ address ∈ chain, ∃ entries, rest.cells[address]? = some (.dict entries)) :
    rest.Holds chain where
  nodup := h.nodup
  dict mem := dict _ mem

theorem Holds.change {f : Table Value Value → Table Value Value} (h : store.Holds chain) :
    (store.change address f).Holds chain := by
  refine h.of_cells ?_
  intro other mem
  by_cases heq : address = other
  · rw [heq, Store.change, cells_write_self (lt_of_cell (h.cell mem))]
    exact ⟨_, rfl⟩
  · exact ⟨_, (cells_write_of_ne heq).trans (h.cell mem)⟩

/-! ### Writing back -/

theorem writeScope_cons :
    store.writeScope (address :: chain) (layer :: layers)
      = (store.write address (.dict layer)).writeScope chain layers := rfl

/-- Writing the layers of a scope leaves all cells alone that are not layers of it. -/
theorem cells_writeScope_of_not_mem (h : other ∉ chain) :
    (store.writeScope chain layers).cells[other]? = store.cells[other]? := by
  induction chain generalizing store layers with
  | nil => rfl
  | cons address chain ih =>
      cases layers with
      | nil => rfl
      | cons layer layers =>
          rw [List.mem_cons, not_or] at h
          rw [writeScope_cons, ih h.2, cells_write_of_ne (Ne.symm h.1)]

/-- Every dictionary of the chain gets its layer. -/
theorem cells_writeScope {place : Nat} (h : store.Holds chain) (hplace : chain[place]? = some address)
    (hlayer : layers[place]? = some layer) :
    (store.writeScope chain layers).cells[address]? = some (.dict layer) := by
  induction chain generalizing store layers place with
  | nil => simp at hplace
  | cons first chain ih =>
      cases layers with
      | nil => simp at hlayer
      | cons head layers =>
          obtain ⟨hfirst, -⟩ := List.nodup_cons.1 h.nodup
          have lt : first < store.cells.size := lt_of_cell (h.cell List.mem_cons_self)
          rw [writeScope_cons]
          cases place with
          | zero =>
              simp only [List.getElem?_cons_zero, Option.some.injEq] at hplace hlayer
              rw [← hplace, ← hlayer, cells_writeScope_of_not_mem hfirst, cells_write_self lt]
          | succ place =>
              refine ih (h.tail.of_cells ?_) hplace hlayer
              intro other hother
              have hne : first ≠ other := fun heq => hfirst (heq ▸ hother)
              exact ⟨_, (cells_write_of_ne hne).trans (h.tail.cell hother)⟩

theorem ext_cells {rest : Store}
    (h : ∀ address : Address, rest.cells[address]? = store.cells[address]?) : rest = store := by
  cases rest
  cases store
  exact congrArg Store.mk (Array.ext_getElem? h)

theorem getElem?_scope {place : Nat} :
    (store.scope chain)[place]? = chain[place]?.map store.dict :=
  List.getElem?_map

/-- Layers written back to where they were read from. -/
theorem writeScope_modify {place : Nat} {f : Table Value Value → Table Value Value}
    (h : store.Holds chain) (hplace : chain[place]? = some address) :
    store.writeScope chain ((store.scope chain).modify place f) = store.change address f := by
  refine ext_cells fun other => ?_
  have hmem : address ∈ chain := List.mem_of_getElem? hplace
  by_cases hother : other ∈ chain
  · obtain ⟨index, hindex⟩ := List.getElem?_of_mem hother
    have hlayer : ((store.scope chain).modify place f)[index]?
        = some (if place = index then f (store.dict other) else store.dict other) := by
      rw [List.getElem?_modify, getElem?_scope, hindex]
      split <;> rfl
    rw [cells_writeScope h hindex hlayer, change]
    by_cases heq : place = index
    · rw [heq, hindex, Option.some.injEq] at hplace
      rw [if_pos heq, ← hplace, cells_write_self (lt_of_cell (h.cell hother))]
    · have hne : address ≠ other := by
        intro same
        obtain ⟨hlt, -⟩ := List.getElem?_eq_some_iff.1 hplace
        exact heq ((List.getElem?_inj hlt h.nodup).1 (by rw [hplace, same, hindex]))
      rw [if_neg heq, cells_write_of_ne hne, h.cell hother]
  · rw [cells_writeScope_of_not_mem hother, change, cells_write_of_ne]
    intro same
    exact hother (same ▸ hmem)

/-- Writing back what was read changes nothing. -/
theorem writeScope_scope (h : store.Holds chain) :
    store.writeScope chain (store.scope chain) = store := by
  refine ext_cells fun other => ?_
  by_cases hother : other ∈ chain
  · obtain ⟨index, hindex⟩ := List.getElem?_of_mem hother
    rw [cells_writeScope h hindex (by rw [getElem?_scope, hindex]; rfl), h.cell hother]
  · exact cells_writeScope_of_not_mem hother

/-- What was written back is read again. -/
theorem scope_writeScope (h : store.Holds chain) (hlength : layers.length = chain.length) :
    (store.writeScope chain layers).scope chain = layers := by
  refine List.ext_getElem? fun place => ?_
  rw [getElem?_scope]
  cases hplace : chain[place]? with
  | none =>
      rw [List.getElem?_eq_none_iff, ← hlength] at hplace
      exact (List.getElem?_eq_none hplace).symm
  | some address =>
      obtain ⟨hlt, -⟩ := List.getElem?_eq_some_iff.1 hplace
      have hlayer := List.getElem?_eq_getElem (hlength ▸ hlt : place < layers.length)
      rw [hlayer, Option.map_some, dict_of_cell (cells_writeScope h hplace hlayer)]

theorem Holds.writeScope (h : store.Holds chain) (hlength : layers.length = chain.length) :
    (store.writeScope chain layers).Holds chain := by
  refine h.of_cells ?_
  intro address mem
  obtain ⟨place, hplace⟩ := List.getElem?_of_mem mem
  obtain ⟨hlt, -⟩ := List.getElem?_eq_some_iff.1 hplace
  exact ⟨_, cells_writeScope h hplace (List.getElem?_eq_getElem (hlength ▸ hlt))⟩

end Store

end Stencil.Script
