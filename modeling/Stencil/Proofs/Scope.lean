import Stencil.Proofs.Table
import Stencil.Scope

/-!
# Layered scopes as maps

A scope is seen through `Scope.get?`: it has the keys that can be looked up, and each visible key
once (`Scope.pairwise_keys`), so its size is that of any map with the same lookups.
-/

namespace Stencil

namespace Scope

variable {K V : Type} [BEq K] {scope outer : Scope K V} {layer flat : Table K V} {key k : K}

@[simp] theorem get?_nil : get? ([] : Scope K V) key = none := rfl

theorem get?_cons : get? (layer :: outer) key = (Table.get? layer key).or (get? outer key) := by
  rw [get?, List.findSome?_cons]
  cases Table.get? layer key <;> rfl

theorem has_eq_isSome_get? : has scope key = (get? scope key).isSome := by
  induction scope with
  | nil => rfl
  | cons layer outer ih =>
      rw [get?_cons, Option.isSome_or, ← ih, ← Table.has_eq_isSome_get?]
      rfl

/-! ### Writing -/

variable {value : V}

/-- Writing neither opens nor closes a loop. -/
theorem length_put : (put key value scope).length = scope.length := by
  induction scope with
  | nil => rfl
  | cons layer outer ih =>
      cases outer with
      | nil => rfl
      | cons next outer =>
          rw [put]
          split
          · rfl
          · rw [List.length_cons, ih]
            rfl

theorem isMap_put (h : ∀ layer ∈ scope, Table.IsMap layer) :
    ∀ layer ∈ put key value scope, Table.IsMap layer := by
  induction scope with
  | nil => exact h
  | cons layer outer ih =>
      obtain ⟨hlayer, houter⟩ := List.forall_mem_cons.1 h
      cases outer with
      | nil => exact List.forall_mem_cons.2 ⟨hlayer.put, houter⟩
      | cons next outer =>
          rw [put]
          split
          · exact List.forall_mem_cons.2 ⟨hlayer.put, houter⟩
          · exact List.forall_mem_cons.2 ⟨hlayer, ih houter⟩

/-! ### Visible keys -/

variable [EquivBEq K]

omit [EquivBEq K] in
/-- A key is visible if the scope has it, as long as no layer tells its forms apart. -/
theorem any_keys_of_congr
    (congr : ∀ a, a == k → ∀ layer : Table K V, Table.has layer a = Table.has layer k) :
    (keys scope).any (· == k) = has scope k := by
  induction scope with
  | nil => rfl
  | cons layer outer ih =>
      have hhas : has (layer :: outer) k = (Table.has layer k || has outer k) := rfl
      rw [hhas, keys, List.any_append, ← Table.has_eq_any_keys, ← ih]
      by_cases h : Table.has layer k
      · simp [h]
      · -- Only forms of keys that the layer has are taken out, and `k` is not among them.
        have hfilter : ((keys outer).filter fun key => !Table.has layer key).any (· == k)
            = (keys outer).any (· == k) := by
          rw [List.any_filter]
          congr 1
          funext a
          by_cases hak : a == k
          · simp [hak, congr a hak, h]
          · simp [hak]
        rw [hfilter]

/-- Iterating over a scope comes by exactly the keys that it has. -/
theorem any_keys : (keys scope).any (· == k) = has scope k :=
  any_keys_of_congr fun _ hak _ => Table.has_congr hak

omit [EquivBEq K] in
/-- Every visible key is listed once. -/
theorem pairwise_keys (h : ∀ layer ∈ scope, Table.IsMap layer) :
    (keys scope).Pairwise fun a b => ¬(a == b) := by
  induction scope with
  | nil => exact List.Pairwise.nil
  | cons layer outer ih =>
      rw [keys]
      refine List.pairwise_append.2 ⟨h layer (by simp), ?_, ?_⟩
      · exact (ih fun layer hlayer => h layer (by simp [hlayer])).filter _
      · intro a ha b hb hab
        have hlayer : Table.has layer b := by
          rw [Table.has_eq_any_keys]
          exact List.any_eq_true.2 ⟨a, ha, hab⟩
        simp [hlayer] at hb

/-- The size of a scope is that of a map with the same lookups. -/
theorem size_eq (h : ∀ layer ∈ scope, Table.IsMap layer) (hflat : Table.IsMap flat)
    (same : ∀ key, get? scope key = Table.get? flat key) : size scope = flat.length := by
  have hlength := Table.length_eq_of_same (pairwise_keys h) hflat fun k => by
    rw [any_keys, ← Table.has_eq_any_keys, has_eq_isSome_get?, Table.has_eq_isSome_get?, same]
  rw [size, hlength, Table.keys, List.length_map]

end Scope

end Stencil
