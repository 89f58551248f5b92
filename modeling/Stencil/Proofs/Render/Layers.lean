import Mathlib.Data.List.Nodup
import Stencil.Proofs.Render.Flat
import Stencil.Proofs.Scope

/-!
# Layers over a flat map

What the layers of a scope are for the flat map of the reference. The map shows the innermost value
of every key. What the layers hide is what the reference keeps aside in order to put it back: each
loop that is being run has a layer, and the map as it was before the loop.

`Represents` says this of the layers of a scope, `Tables.Shows` of a chain of tables, and
`MapProgram.run_shows` that no program can tell the chain and the flat map apart.
-/

namespace Stencil

/-! ### Lookups -/

/-- What a map gives for every key. -/
abbrev Lookup (K V : Type) := K → Option V

namespace Lookup

variable {K V : Type} [BEq K]

/-- One key gets a value. -/
def put (key : K) (value : V) (lookup : Lookup K V) : Lookup K V := fun k =>
  if key == k then some value else lookup k

/-- Some keys are as they were. -/
def restore (names : List K) (old lookup : Lookup K V) : Lookup K V := fun k =>
  if names.any (· == k) then old k else lookup k

variable {names : List K} {key k : K} {value : V} {old lookup : Lookup K V}

theorem restore_of_any (h : names.any (· == k)) : restore names old lookup k = old k :=
  if_pos h

theorem restore_of_not_any (h : ¬names.any (· == k)) : restore names old lookup k = lookup k :=
  if_neg h

@[simp] theorem restore_self : restore names old old = old := by
  funext k
  by_cases h : names.any (· == k)
  · exact restore_of_any h
  · exact restore_of_not_any h

variable [EquivBEq K]

/-- Names are compared by `==`, which need not be equality; equal keys are found in the same lists.
-/
theorem any_congr (h : key == k) : names.any (· == key) = names.any (· == k) := by
  congr 1
  funext name
  exact BEq.congr_right h

/-- Putting back undoes a write to one of the keys. -/
theorem restore_put_of_any (h : names.any (· == key)) :
    restore names old (put key value lookup) = restore names old lookup := by
  funext k
  by_cases hk : names.any (· == k)
  · rw [restore_of_any hk, restore_of_any hk]
  · rw [restore_of_not_any hk, restore_of_not_any hk]
    refine if_neg fun hkey => hk ?_
    rw [← any_congr hkey]
    exact h

/-- Putting back leaves a write to any other key. -/
theorem restore_put_of_not_any (h : ¬names.any (· == key)) :
    restore names old (put key value lookup) = put key value (restore names old lookup) := by
  funext k
  by_cases hkey : key == k
  · rw [restore_of_not_any (any_congr hkey ▸ h), put, put, if_pos hkey, if_pos hkey]
  · rw [put, if_neg hkey]
    by_cases hk : names.any (· == k)
    · rw [restore_of_any hk, restore_of_any hk]
    · rw [restore_of_not_any hk, restore_of_not_any hk, put, if_neg hkey]

end Lookup

namespace Table

variable {K V : Type} [BEq K] [EquivBEq K] {table old : Table K V} {key : K} {value : V}
  {names : List K}

@[simp] theorem lookup_put :
    get? (put key value table) = Lookup.put key value (get? table) :=
  funext fun _ => get?_put

/-- Going back to the old values of some names, seen as a change of what is found. -/
@[simp] theorem lookup_restore :
    get? (restore names old table) = Lookup.restore names (get? old) (get? table) :=
  funext fun _ => get?_restore

end Table

/-! ### Chains of tables -/

namespace Tables

variable {K V : Type} {tables : Tables K V} {chain : List Nat} {layers : Scope K V}

theorem length_write : (write chain layers tables).length = tables.length := by
  induction chain generalizing layers tables with
  | nil => rfl
  | cons address chain ih =>
      cases layers with
      | nil => rfl
      | cons layer layers => rw [write, ih, List.length_set]

/-- Writing a chain of tables leaves all others. -/
theorem getD_write {address : Nat} (h : address ∉ chain) :
    (write chain layers tables).getD address [] = tables.getD address [] := by
  induction chain generalizing layers tables with
  | nil => rfl
  | cons first chain ih =>
      cases layers with
      | nil => rfl
      | cons layer layers =>
          obtain ⟨hne, hmem⟩ := not_or.1 (mt List.mem_cons.2 h)
          rw [write, ih hmem, List.getD_eq_getElem?_getD, List.getElem?_set_ne (Ne.symm hne),
            ← List.getD_eq_getElem?_getD]

/-- The layers of a chain are what was written there. -/
theorem layers_write (nodup : chain.Nodup) (inRange : ∀ address ∈ chain, address < tables.length)
    (length : layers.length = chain.length) :
    (write chain layers tables).layers chain = layers := by
  induction chain generalizing layers tables with
  | nil => exact (List.length_eq_zero_iff.1 length).symm
  | cons address chain ih =>
      cases layers with
      | nil => cases length
      | cons layer layers =>
          obtain ⟨hmem, nodup⟩ := List.nodup_cons.1 nodup
          obtain ⟨haddress, inRange⟩ := List.forall_mem_cons.1 inRange
          have hlayer :
              (write (address :: chain) (layer :: layers) tables).getD address [] = layer := by
            rw [write, getD_write hmem, List.getD_eq_getElem?_getD, List.getElem?_set_self haddress]
            rfl
          have hlayers :
              (write (address :: chain) (layer :: layers) tables).layers chain = layers := by
            rw [write]
            refine ih nodup ?_ (Nat.succ.inj length)
            rw [List.length_set]
            exact inRange
          rw [Tables.layers, List.map_cons, ← Tables.layers, hlayer, hlayers]

/-- A new table leaves the layers of a chain. -/
theorem layers_append (inRange : ∀ address ∈ chain, address < tables.length) (more : Tables K V) :
    (tables ++ more).layers chain = tables.layers chain := by
  refine List.map_congr_left fun address haddress => ?_
  rw [List.getD_eq_getElem?_getD, List.getElem?_append_left (inRange address haddress),
    ← List.getD_eq_getElem?_getD]

end Tables

/-! ### Layers of a scope -/

/-- A loop that is being run: the keys that it binds, and what the map gave before it. -/
structure Running (K V : Type) where
  names : List K
  old : Lookup K V

section

variable {K V : Type} [BEq K]

/-- The layers of a scope represent a map, inside some loops. A layer has the keys that its loop
binds; the layers around it represent the map with these keys as they were before the loop. -/
inductive Represents : Scope K V → List (Running K V) → Lookup K V → Prop
  | base {base : Table K V} : Represents [base] [] (Table.get? base)
  | layer {layer : Table K V} {outer : Scope K V} {loop : Running K V} {loops : List (Running K V)}
      {lookup : Lookup K V}
      (has : ∀ key, Table.has layer key = loop.names.any (· == key))
      (agree : ∀ key, loop.names.any (· == key) → Table.get? layer key = lookup key)
      (around : Represents outer loops (Lookup.restore loop.names loop.old lookup)) :
      Represents (layer :: outer) (loop :: loops) lookup

namespace Represents

variable {scope : Scope K V} {loops : List (Running K V)} {lookup : Lookup K V}

theorem ne_nil (h : Represents scope loops lookup) : scope ≠ [] := by
  cases h <;> exact List.cons_ne_nil _ _

/-- Looking up in the layers gives what the map gives. -/
theorem get?_eq (h : Represents scope loops lookup) (key : K) :
    Scope.get? scope key = lookup key := by
  induction h with
  | base => rw [Scope.get?_cons, Scope.get?_nil, Option.or_none]
  | @layer layer outer loop loops lookup has agree _ ih =>
      rw [Scope.get?_cons, ih]
      by_cases hkey : loop.names.any (· == key)
      · -- The layer has the key, so nothing around it is seen.
        have hsome : (Table.get? layer key).isSome := by
          rw [← Table.has_eq_isSome_get?, has, hkey]
        rw [Option.or_of_isSome hsome, agree key hkey]
      · have hnone : Table.get? layer key = none := by
          rw [← Option.not_isSome_iff_eq_none, ← Table.has_eq_isSome_get?, has]
          exact hkey
        rw [hnone, Option.none_or, Lookup.restore_of_not_any hkey]

/-- Leaving a loop takes the innermost layer away, and the flat map gets the old values of its names
back. -/
theorem leave {layer : Table K V} {loop : Running K V}
    (h : Represents (layer :: scope) (loop :: loops) lookup) :
    Represents scope loops (Lookup.restore loop.names loop.old lookup) := by
  cases h with
  | layer _ _ around => exact around

variable [EquivBEq K] {key : K} {value : V}

/-- A write goes to the layer of the innermost loop that binds the key, and there it is seen; the
same write to the map is undone by this loop and by none inside it. -/
theorem put (h : Represents scope loops lookup) (key : K) (value : V) :
    Represents (Scope.put key value scope) loops (Lookup.put key value lookup) := by
  induction h with
  | base =>
      rw [← Table.lookup_put]
      exact .base
  | @layer layer outer loop loops lookup has agree around ih =>
      have hput : Scope.put key value (layer :: outer)
          = if Table.has layer key then Table.put key value layer :: outer
            else layer :: Scope.put key value outer := by
        cases outer with
        | nil => exact absurd rfl around.ne_nil
        | cons next outer => rfl
      rw [hput, has]
      by_cases hkey : loop.names.any (· == key)
      · -- The write ends here. Around the loop the key is as it was, before and after the write.
        rw [if_pos hkey]
        refine .layer ?_ ?_ ?_
        · intro k
          rw [Table.has_eq_isSome_get?, Table.get?_put, ← has]
          by_cases hk : key == k
          · rw [if_pos hk, ← Table.has_congr hk, has, hkey]
            rfl
          · rw [if_neg hk, Table.has_eq_isSome_get?]
        · intro k hk
          rw [Table.get?_put, agree k hk]
          rfl
        · rw [Lookup.restore_put_of_any hkey]
          exact around
      · -- The write goes on outwards, and the layer shows what it showed.
        rw [if_neg hkey]
        refine .layer has ?_ ?_
        · intro k hk
          have hother : ¬(key == k) := fun heq => hkey (Lookup.any_congr heq ▸ hk)
          rw [agree k hk, Lookup.put, if_neg hother]
        · rw [Lookup.restore_put_of_not_any hkey]
          exact ih

end Represents

/-! ### Chains that show a map -/

namespace Tables

/-- A chain of tables shows the map of the reference, inside some loops. -/
structure Shows (chain : List Nat) (loops : List (Running K V)) (tables : Tables K V)
    (context : Table K V) : Prop where
  nodup : chain.Nodup
  inRange : ∀ address ∈ chain, address < tables.length
  areMaps : ∀ layer ∈ tables.layers chain, Table.IsMap layer
  isMap : Table.IsMap context
  represents : Represents (tables.layers chain) loops (Table.get? context)

variable {chain : List Nat} {loops : List (Running K V)} {tables : Tables K V} {context : Table K V}

/-- A render begins with one table. -/
theorem Shows.start (h : Table.IsMap context) : Shows [0] [] [context] context where
  nodup := List.nodup_singleton 0
  inRange := by simp
  areMaps := by simpa [layers] using h
  isMap := h
  represents := .base

namespace Shows

variable [EquivBEq K]

/-- A name written in a scope is written to the layer that has it; the flat map only knows that it
is written. -/
theorem put (h : Shows chain loops tables context) (key : K) (value : V) :
    Shows chain loops ((Tables.map chain).put key value tables) (Table.put key value context) := by
  have hlayers : ((Tables.map chain).put key value tables).layers chain
      = Scope.put key value (tables.layers chain) := by
    refine layers_write h.nodup h.inRange ?_
    rw [Scope.length_put, layers, List.length_map]
  refine ⟨h.nodup, ?_, ?_, h.isMap.put, ?_⟩
  · intro address haddress
    rw [Tables.map, length_write]
    exact h.inRange address haddress
  · rw [hlayers]
    exact Scope.isMap_put h.areMaps
  · rw [hlayers, Table.lookup_put]
    exact h.represents.put key value

/-- A program has the same result on the chain and on the flat map, and leaves them alike. -/
theorem run {Result : Type} (program : MapProgram K V Result)
    (h : Shows chain loops tables context) :
    (program.run (Tables.map chain) tables).1 = (program.run Flat.map context).1 ∧
      Shows chain loops (program.run (Tables.map chain) tables).2
        (program.run Flat.map context).2 := by
  -- Each answer is the same, so both runs go on with the same program.
  induction program generalizing tables context with
  | done result => exact ⟨rfl, h⟩
  | get? key next ih =>
      have hget : (Tables.map chain).get? tables key = Table.get? context key :=
        h.represents.get?_eq key
      rw [MapProgram.run, hget]
      exact ih _ h
  | has key next ih =>
      have hhas : (Tables.map chain).has tables key = Table.has context key := by
        rw [Table.has_eq_isSome_get?, ← h.represents.get?_eq, ← Scope.has_eq_isSome_get?]
        rfl
      rw [MapProgram.run, hhas]
      exact ih _ h
  | size next ih =>
      have hsize : (Tables.map chain).size tables = context.length :=
        Scope.size_eq h.areMaps h.isMap h.represents.get?_eq
      rw [MapProgram.run, hsize]
      exact ih _ h
  | put key value next ih => exact ih (h.put key value)

/-! ### Loops -/

theorem restore_self {names : List K} (h : Shows chain loops tables context) :
    Shows chain loops tables (Table.restore names context context) := by
  refine ⟨h.nodup, h.inRange, h.areMaps, h.isMap.restore, ?_⟩
  rw [Table.lookup_restore, Lookup.restore_self]
  exact h.represents

/-- A round of a loop gets a new layer with the bindings of the loop. -/
theorem enter {names : List K} {old inner bindings : Table K V}
    (h : Shows chain loops tables (Table.restore names old context))
    (isMap : Table.IsMap inner) (bindingsIsMap : Table.IsMap bindings)
    (has : ∀ key, Table.has bindings key = names.any (· == key))
    (agree : ∀ key, names.any (· == key) → Table.get? bindings key = Table.get? inner key)
    (frame : ∀ key, ¬names.any (· == key) → Table.get? inner key = Table.get? context key) :
    Shows (tables.length :: chain) (⟨names, Table.get? old⟩ :: loops) (tables ++ [bindings])
      inner := by
  have hnew : (tables ++ [bindings]).getD tables.length [] = bindings := by simp
  have hlayers : (tables ++ [bindings]).layers (tables.length :: chain)
      = bindings :: tables.layers chain := by
    rw [layers, List.map_cons, hnew, ← layers, layers_append h.inRange]
  have hframe : Lookup.restore names (Table.get? old) (Table.get? inner)
      = Table.get? (Table.restore names old context) := by
    rw [Table.lookup_restore]
    funext key
    by_cases hkey : names.any (· == key)
    · rw [Lookup.restore_of_any hkey, Lookup.restore_of_any hkey]
    · rw [Lookup.restore_of_not_any hkey, Lookup.restore_of_not_any hkey, frame key hkey]
  refine ⟨?_, ?_, ?_, isMap, ?_⟩
  · exact List.nodup_cons.2 ⟨fun hmem => Nat.lt_irrefl _ (h.inRange _ hmem), h.nodup⟩
  · rw [List.length_append, List.length_singleton]
    refine List.forall_mem_cons.2 ⟨Nat.lt_succ_self _, fun address haddress => ?_⟩
    exact Nat.lt_succ_of_lt (h.inRange address haddress)
  · rw [hlayers]
    exact List.forall_mem_cons.2 ⟨bindingsIsMap, h.areMaps⟩
  · rw [hlayers]
    refine .layer has agree ?_
    rw [hframe]
    exact h.represents

/-- When the layer of a round is gone, the chain shows the map with the keys of the loop put back. -/
theorem leave {names : List K} {old : Table K V} {address : Nat}
    (h : Shows (address :: chain) (⟨names, Table.get? old⟩ :: loops) tables context) :
    Shows chain loops tables (Table.restore names old context) := by
  have houter : Represents (tables.layers chain) loops
      (Lookup.restore names (Table.get? old) (Table.get? context)) := by
    have hrepresents := h.represents
    rw [layers, List.map_cons, ← layers] at hrepresents
    exact hrepresents.leave
  refine ⟨(List.nodup_cons.1 h.nodup).2, (List.forall_mem_cons.1 h.inRange).2,
    (List.forall_mem_cons.1 h.areMaps).2, h.isMap.restore, ?_⟩
  rw [Table.lookup_restore]
  exact houter

end Shows

end Tables

end

end Stencil
