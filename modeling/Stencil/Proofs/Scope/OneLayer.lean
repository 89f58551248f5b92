import Stencil.Proofs.Scope.Change

/-!
# Which layer is touched

An operation on a key touches one layer of a scope, `Scope.layerOf?`: the innermost that has the key.
Removing the key changes nothing but this layer (`erase?_eq_map`). Writing changes this layer too,
and the last one if no layer has the key (`put_eq_modify`). Nothing is assumed about `==`.

So only the last layer can get new keys. `Scope.Confines` says this of two states of a scope, and
it holds before and after each of the operations.
-/

namespace Stencil

namespace Scope

variable {K V : Type} [BEq K] {scope outer rest : Scope K V} {layer : Table K V} {key : K} {value : V}

/-- The place of the innermost layer that has a key, counted from the inside. -/
def layerOf? (scope : Scope K V) (key : K) : Option Nat :=
  scope.findIdx? fun layer => Table.has layer key

/-- The place of the layer that a key is written to: the innermost that has it, or else the last. -/
def home (scope : Scope K V) (key : K) : Nat :=
  (layerOf? scope key).getD (scope.length - 1)

theorem layerOf?_cons :
    layerOf? (layer :: outer) key =
      if Table.has layer key then some 0 else (layerOf? outer key).map (· + 1) :=
  List.findIdx?_cons

/-- A key has a layer if and only if it has a value. -/
theorem layerOf?_eq_none_iff : layerOf? scope key = none ↔ get? scope key = none := by
  induction scope with
  | nil => simp [layerOf?]
  | cons layer outer ih =>
      rw [layerOf?_cons, get?_cons, Table.has_eq_isSome_get?]
      cases Table.get? layer key with
      | none => simpa using ih
      | some value => simp

/-- The value of a key is in the layer that has it. -/
theorem get?_eq_of_layerOf? {place : Nat} (h : layerOf? scope key = some place) :
    ∃ layer value, scope[place]? = some layer ∧ Table.get? layer key = some value
      ∧ get? scope key = some value := by
  induction scope generalizing place with
  | nil => cases h
  | cons layer outer ih =>
      rw [layerOf?_cons] at h
      rw [get?_cons]
      by_cases hlayer : Table.has layer key
      · rw [if_pos hlayer, Option.some.injEq] at h
        rw [Table.has_eq_isSome_get?, Option.isSome_iff_exists] at hlayer
        obtain ⟨value, hvalue⟩ := hlayer
        exact ⟨layer, value, by rw [← h]; rfl, hvalue, by rw [hvalue]; rfl⟩
      · rw [if_neg hlayer] at h
        obtain ⟨before, hbefore, rfl⟩ := Option.map_eq_some_iff.1 h
        obtain ⟨found, value, hfound, hvalue, hget⟩ := ih hbefore
        have hnone : Table.get? layer key = none := by
          rw [Table.has_eq_isSome_get?] at hlayer
          simpa using hlayer
        exact ⟨found, value, hfound, hvalue, by rw [hnone, hget]; rfl⟩

/-- The only layer is the last one, whether or not it has the key. -/
theorem home_singleton : home [layer] key = 0 := by
  rw [home, layerOf?_cons]
  split <;> rfl

/-- A key that no layer has is at home in the base, however many layers there are. -/
theorem home_cons (h : outer ≠ []) :
    home (layer :: outer) key = if Table.has layer key then 0 else home outer key + 1 := by
  rw [home, layerOf?_cons]
  split
  · rfl
  · rw [home]
    cases layerOf? outer key with
    | none =>
        have hlength : 0 < outer.length := List.length_pos_iff.2 h
        show (layer :: outer).length - 1 = outer.length - 1 + 1
        rw [List.length_cons]
        omega
    | some place => rfl

/-! ### The operations -/

/-- **Writing changes one layer**, the one where the key is at home. -/
theorem put_eq_modify : put key value scope = scope.modify (home scope key) (Table.put key value) := by
  induction scope with
  | nil => rfl
  | cons layer outer ih =>
      cases outer with
      | nil => rw [home_singleton]; rfl
      | cons next outer =>
          rw [put, home_cons (List.cons_ne_nil next outer)]
          split
          · rfl
          · rw [ih]
            rfl

/-- **Erasing changes one layer**, the one that has the key; without such a layer it fails. -/
theorem erase?_eq_map :
    erase? key scope =
      (layerOf? scope key).map fun place => scope.modify place (Table.without · key) := by
  induction scope with
  | nil => rfl
  | cons layer outer ih =>
      rw [erase?, layerOf?_cons]
      by_cases hlayer : Table.has layer key
      · rw [if_pos hlayer, if_pos hlayer]
        rfl
      · rw [if_neg hlayer, if_neg hlayer, ih]
        cases layerOf? outer key <;> rfl

theorem pop?_eq_map :
    pop? key scope = (get? scope key).bind fun value =>
      (erase? key scope).map fun rest => (value, rest) := by
  rw [pop?]
  cases get? scope key <;> cases erase? key scope <;> rfl

/-- A key that is there can be removed. -/
theorem erase?_eq_none_iff : erase? key scope = none ↔ get? scope key = none := by
  rw [erase?_eq_map, Option.map_eq_none_iff, layerOf?_eq_none_iff]

theorem get?_without_self : Table.get? (Table.without layer key) key = none := by
  rw [Table.get?, Table.without, Option.map_eq_none_iff, List.find?_eq_none]
  intro entry hentry
  simpa using (List.mem_filter.1 hentry).2

/-- A removed key has the value that the layers around the touched one give it. -/
theorem get?_of_erase? {place : Nat} (h : layerOf? scope key = some place) :
    get? (scope.modify place (Table.without · key)) key = get? (scope.drop (place + 1)) key := by
  induction scope generalizing place with
  | nil => cases h
  | cons layer outer ih =>
      rw [layerOf?_cons] at h
      by_cases hlayer : Table.has layer key
      · rw [if_pos hlayer, Option.some.injEq] at h
        rw [← h, List.modify_zero_cons, get?_cons, get?_without_self]
        rfl
      · rw [if_neg hlayer] at h
        obtain ⟨before, hbefore, rfl⟩ := Option.map_eq_some_iff.1 h
        have hnone : Table.get? layer key = none := by
          rw [Table.has_eq_isSome_get?] at hlayer
          simpa using hlayer
        rw [List.modify_succ_cons, get?_cons, hnone, Option.none_or, ih hbefore]
        rfl

/-! ### New keys -/

omit [BEq K] in
theorem keys_without [BEq K] : (Table.without layer key).keys.Sublist layer.keys :=
  List.filter_sublist.map _

/-- Only the last layer may have got new keys. The others have some of the keys that they had. -/
structure Confines (scope rest : Scope K V) : Prop where
  length : rest.length = scope.length
  keys {place : Nat} {layer : Table K V} (inner : place + 1 < scope.length)
    (found : rest[place]? = some layer) :
    ∃ before, scope[place]? = some before ∧ layer.keys.Sublist before.keys

omit [BEq K] in
theorem Confines.refl : Confines scope scope where
  length := rfl
  keys _ found := ⟨_, found, .refl _⟩

omit [BEq K] in
theorem Confines.trans {mid : Scope K V} (h : Confines scope mid) (h' : Confines mid rest) :
    Confines scope rest where
  length := h'.length.trans h.length
  keys inner found := by
    obtain ⟨between, hbetween, hkeys'⟩ := h'.keys (h.length.symm ▸ inner) found
    obtain ⟨before, hbefore, hkeys⟩ := h.keys inner hbetween
    exact ⟨before, hbefore, hkeys'.trans hkeys⟩

omit [BEq K] in
/-- One layer is changed, and gets no new keys unless it is the last. -/
theorem confines_modify {place : Nat} {f : Table K V → Table K V}
    (h : ∀ layer, scope[place]? = some layer → place + 1 < scope.length →
      (f layer).keys.Sublist layer.keys) : Confines scope (scope.modify place f) where
  length := List.length_modify ..
  keys {other layer} inner found := by
    rw [List.getElem?_modify] at found
    obtain ⟨before, hbefore, rfl⟩ := Option.map_eq_some_iff.1 found
    refine ⟨before, hbefore, ?_⟩
    split
    · rename_i heq
      rw [← heq] at hbefore inner
      exact h before hbefore inner
    · exact .refl _

/-- Writing leaves every loop layer with the keys it had, because only the base takes in a new key.
-/
theorem confines_put : Confines scope (put key value scope) := by
  rw [put_eq_modify]
  refine confines_modify ?_
  intro layer hlayer inner
  rw [Table.keys_put]
  split
  · exact .refl _
  · -- A layer without the key is written to only if it is the last one.
    rename_i hnew
    cases hplace : layerOf? scope key with
    | none =>
        rw [home, hplace] at inner
        have : (none : Option Nat).getD (scope.length - 1) + 1 < scope.length := inner
        simp only [Option.getD_none] at this
        omega
    | some place =>
        obtain ⟨found, value, hfound, hvalue, -⟩ := get?_eq_of_layerOf? hplace
        rw [home, hplace, Option.getD_some, hfound] at hlayer
        cases hlayer
        rw [Table.has_eq_isSome_get?, hvalue] at hnew
        exact absurd rfl hnew

theorem confines_erase? (h : erase? key scope = some rest) : Confines scope rest := by
  rw [erase?_eq_map] at h
  obtain ⟨place, -, rfl⟩ := Option.map_eq_some_iff.1 h
  exact confines_modify fun layer _ _ => keys_without

/-- Writing and erasing are confined, hence every method is. -/
theorem isKept_confines : IsKept (Confines (K := K) (V := V)) where
  refl _ := .refl
  trans := Confines.trans
  put _ _ _ := confines_put
  erase := confines_erase?
  dropLast entries := by
    refine ⟨rfl, ?_⟩
    intro place layer inner
    simp at inner

end Scope

end Stencil
