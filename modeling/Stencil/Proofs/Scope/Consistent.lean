import Stencil.Proofs.Scope.Change

/-!
# Scopes behave as one map

`Scope.IsConsistent` says that looking up, testing for a key and going through a scope agree. It
holds of all scopes in whose layers no key is twice (`Scope.isConsistent`), and so after every
history of changes.

Keys are compared up to an equivalence `==`, so the list of visible keys is the one without
repetitions that `List.eraseDups` makes of the keys of all layers.
-/

namespace Stencil

/-! ### First occurrences -/

section

variable {K : Type} [BEq K] {xs ys : List K}

/-- Keys that are taken out together do not matter to which of the other keys come first. -/
theorem eraseDups_filter {p : K → Bool} (respects : ∀ a b, a == b → p a = p b) (xs : List K) :
    (xs.filter p).eraseDups = xs.eraseDups.filter p := by
  -- The recursion of `eraseDups` is on the list without all forms of its head.
  match xs with
  | [] => rfl
  | x :: rest =>
      have ih := eraseDups_filter respects (rest.filter fun b => !b == x)
      rw [List.eraseDups_cons]
      cases hx : p x with
      | true =>
          rw [List.filter_cons_of_pos hx, List.filter_cons_of_pos hx, List.eraseDups_cons, ← ih,
            List.filter_comm]
      | false =>
          have hrest : (rest.filter fun b => !b == x).filter p = rest.filter p := by
            rw [List.filter_filter]
            refine List.filter_congr ?_
            intro b _
            by_cases hb : b == x
            · simp [respects b x hb, hx]
            · simp [hb]
          rw [List.filter_cons_of_neg (by simp [hx]), List.filter_cons_of_neg (by simp [hx]), ← ih,
            hrest]
termination_by xs.length
decreasing_by exact Nat.lt_succ_of_le (List.length_filter_le _ _)

/-- Behind keys that differ from each other only the other keys are new. -/
theorem eraseDups_append_of_pairwise [EquivBEq K] (h : xs.Pairwise fun a b => ¬(a == b)) :
    (xs ++ ys).eraseDups = xs ++ (ys.filter fun y => !xs.any (· == y)).eraseDups := by
  induction xs generalizing ys with
  | nil => simp
  | cons x rest ih =>
      obtain ⟨hx, hrest⟩ := List.pairwise_cons.1 h
      have hsame : (rest.filter fun b => !b == x) = rest := by
        refine List.filter_eq_self.2 ?_
        intro b hb
        have hne : ¬(b == x) := fun heq => hx b hb (BEq.symm heq)
        simp [hne]
      have hboth : ((ys.filter fun b => !b == x).filter fun y => !rest.any (· == y))
          = ys.filter fun y => !(x :: rest).any (· == y) := by
        rw [List.filter_filter]
        refine List.filter_congr ?_
        intro y _
        rw [List.any_cons, Bool.not_or, Bool.and_comm, BEq.comm]
      rw [List.cons_append, List.eraseDups_cons, List.filter_append, hsame, ih hrest, hboth,
        List.cons_append]

end

namespace Scope

variable {K V : Type} [BEq K]

/-- The value that the innermost layer that has a key gives it. -/
def innermost? (scope : Scope K V) (key : K) : Option V :=
  (scope.find? fun layer => Table.has layer key).bind fun layer => Table.get? layer key

/-- Looking up in a scope, testing it for keys and going through it agree. -/
structure IsConsistent (scope : Scope K V) : Prop where
  /-- The keys come layer by layer from the inside, in the order of each layer, and each only where
  it comes first. -/
  keys_eq : keys scope = (scope.flatMap Table.keys).eraseDups
  /-- No key comes twice. -/
  once : (keys scope).Pairwise fun a b => ¬(a == b)
  /-- A key comes if and only if the scope has it. -/
  any_keys (key : K) : (keys scope).any (· == key) = has scope key
  /-- The scope has a key if and only if looking it up succeeds. -/
  has_eq (key : K) : has scope key = (get? scope key).isSome
  /-- The value of a key is that of the innermost layer that has it. -/
  get?_eq (key : K) : get? scope key = innermost? scope key
  /-- The size is the number of keys. -/
  size_eq : size scope = (keys scope).length
  /-- The items are the keys in order with their values. -/
  items_eq : (items scope).map (·.1) = keys scope
  get?_items (entry : K × V) (mem : entry ∈ items scope) : get? scope entry.1 = some entry.2

variable {scope : Scope K V} {layer : Table K V}

/-- Lookup, as the methods of a scope have it, is that of the innermost layer with the key. -/
theorem get?_eq_innermost? (key : K) : get? scope key = innermost? scope key := by
  induction scope with
  | nil => rfl
  | cons layer outer ih =>
      rw [innermost?] at ih ⊢
      rw [get?_cons, List.find?_cons, Table.has_eq_isSome_get?]
      cases hlayer : Table.get? layer key with
      | none => simpa using ih
      | some value => simp [hlayer]

/-- The items of a scope are its keys with the values that are found for them. -/
theorem get?_of_mem_items {entry : K × V} (h : entry ∈ items scope) :
    get? scope entry.1 = some entry.2 := by
  obtain ⟨key, -, h⟩ := List.mem_filterMap.1 h
  obtain ⟨value, hvalue, rfl⟩ := Option.map_eq_some_iff.1 h
  exact hvalue

variable [EquivBEq K]

/-- Iteration comes by every key of a layer once, at the place where it is found first from the
inside. -/
theorem keys_eq_eraseDups (h : ∀ layer ∈ scope, Table.IsMap layer) :
    keys scope = (scope.flatMap Table.keys).eraseDups := by
  induction scope with
  | nil => rfl
  | cons layer outer ih =>
      obtain ⟨hlayer, houter⟩ := List.forall_mem_cons.1 h
      have respects : ∀ a b : K, a == b →
          (!layer.keys.any (· == a)) = !layer.keys.any (· == b) := by
        intro a b hab
        rw [← Table.has_eq_any_keys, ← Table.has_eq_any_keys, Table.has_congr hab]
      rw [List.flatMap_cons, eraseDups_append_of_pairwise hlayer, eraseDups_filter respects,
        ← ih houter, keys]
      simp only [Table.has_eq_any_keys]

/-- Iteration comes by no key that has no value. -/
theorem exists_of_mem_keys {key : K} (h : key ∈ keys scope) : ∃ value, get? scope key = some value := by
  have hany : (keys scope).any (· == key) := List.any_eq_true.2 ⟨key, h, BEq.refl key⟩
  rw [any_keys, has_eq_isSome_get?] at hany
  exact Option.isSome_iff_exists.1 hany

theorem keys_items : (items scope).map (·.1) = keys scope := by
  have hall : ∀ key ∈ keys scope,
      ((get? scope key).map fun value => (key, value)).map (·.1) = some key := by
    intro key hkey
    obtain ⟨value, hvalue⟩ := exists_of_mem_keys hkey
    rw [hvalue]
    rfl
  rw [items, List.map_filterMap]
  rw [List.filterMap_congr hall]
  exact List.filterMap_some

/-- **A scope is one map** if no key is twice in one of its layers. -/
theorem isConsistent (h : ∀ layer ∈ scope, Table.IsMap layer) : IsConsistent scope where
  keys_eq := keys_eq_eraseDups h
  once := pairwise_keys h
  any_keys _ := any_keys
  has_eq _ := has_eq_isSome_get?
  get?_eq := get?_eq_innermost?
  size_eq := rfl
  items_eq := keys_items
  get?_items _ := get?_of_mem_items

end Scope

end Stencil
