import Mathlib.Data.List.Nodup
import Stencil.Table

/-!
# Tables as maps

A table in which no key is there twice is a finite map. Keys are compared by `==`, an equivalence
that may identify different forms of one key, so everything here is said about keys up to `==`.

`Table.restore names old table` gives some keys back what they had in an older table: their values,
or their absence.
-/

namespace Stencil

namespace Table

variable {K V : Type} [BEq K] {table other : Table K V} {key k : K} {value : V}

/-- No key is there twice. -/
def IsMap (table : Table K V) : Prop :=
  table.keys.Pairwise fun a b => ¬(a == b)

instance : Decidable (IsMap table) :=
  inferInstanceAs (Decidable (table.keys.Pairwise fun a b => ¬(a == b)))

/-- The table with one key as it is in an older table: with its value, or absent. -/
def giveBack (old : Table K V) (table : Table K V) (name : K) : Table K V :=
  match get? old name with
  | some value => put name value table
  | none => without table name

/-- The table with some keys as they are in an older table. -/
def restore (names : List K) (old table : Table K V) : Table K V :=
  names.foldl (giveBack old) table

/-! ### Looking up -/

@[simp] theorem get?_nil : get? ([] : Table K V) k = none := rfl

theorem get?_cons {entry : K × V} :
    get? (entry :: table) k = if entry.1 == k then some entry.2 else get? table k := by
  by_cases h : entry.1 == k <;> simp [get?, h]

theorem has_eq_any_keys : has table k = table.keys.any (· == k) := by
  rw [has, keys, List.any_map]
  rfl

variable [EquivBEq K]

theorem get?_congr (h : key == k) : get? table key = get? table k := by
  induction table with
  | nil => rfl
  | cons entry rest ih => rw [get?_cons, get?_cons, ih, BEq.congr_right h]

theorem has_congr (h : key == k) : has table key = has table k := by
  rw [has_eq_isSome_get?, has_eq_isSome_get?, get?_congr h]

theorem get?_put : get? (put key value table) k = if key == k then some value else get? table k := by
  induction table with
  | nil => rw [put, get?_cons]
  | cons entry rest ih =>
      rw [put]
      by_cases h : entry.1 == key
      · rw [if_pos h, get?_cons, get?_cons, BEq.congr_left h]
        split <;> rfl
      · rw [if_neg h, get?_cons, get?_cons, ih]
        by_cases hk : entry.1 == k
        · have other : ¬(key == k) := fun hkey => h (PartialEquivBEq.trans hk (BEq.symm hkey))
          simp [hk, other]
        · simp [hk]

theorem get?_without : get? (without table key) k = if key == k then none else get? table k := by
  induction table with
  | nil => simp [without]
  | cons entry rest ih =>
      rw [without] at ih ⊢
      by_cases h : entry.1 == key
      · rw [List.filter_cons_of_neg (by simp [h]), ih, get?_cons, BEq.congr_left h]
        split <;> rfl
      · rw [List.filter_cons_of_pos (by simpa using h), get?_cons, get?_cons, ih]
        by_cases hk : entry.1 == k
        · have other : ¬(key == k) := fun hkey => h (PartialEquivBEq.trans hk (BEq.symm hkey))
          simp [hk, other]
        · simp [hk]

theorem get?_giveBack {name : K} :
    get? (giveBack other table name) k = if name == k then get? other k else get? table k := by
  rw [giveBack]
  by_cases h : name == k
  · have hk : get? other name = get? other k := get?_congr h
    rw [if_pos h, ← hk]
    cases get? other name with
    | some value => exact get?_put.trans (if_pos h)
    | none => exact get?_without.trans (if_pos h)
  · rw [if_neg h]
    cases get? other name with
    | some value => exact get?_put.trans (if_neg h)
    | none => exact get?_without.trans (if_neg h)

/-- What is found after the old values of some names came back: for these names the old value or its
absence, for all others what was there. -/
theorem get?_restore {names : List K} :
    get? (restore names other table) k =
      if names.any (· == k) then get? other k else get? table k := by
  induction names generalizing table with
  | nil => rfl
  | cons name names ih =>
      rw [restore, List.foldl_cons, ← restore, ih, get?_giveBack, List.any_cons]
      by_cases h : name == k <;> simp [h]

/-! ### Maps -/

omit [EquivBEq K] in
theorem IsMap.nil : IsMap ([] : Table K V) := List.Pairwise.nil

omit [EquivBEq K] in
/-- A new key goes behind the others, and a known one stays where it is. -/
theorem keys_put :
    keys (put key value table) = if has table key then keys table else keys table ++ [key] := by
  induction table with
  | nil => rfl
  | cons entry rest ih =>
      rw [put]
      by_cases h : entry.1 == key
      · simp [h, has, keys]
      · rw [if_neg h]
        have hkeys : keys (entry :: put key value rest) = entry.1 :: keys (put key value rest) := rfl
        have hhas : has (entry :: rest) key = has rest key := by simp [has, h]
        rw [hkeys, ih, hhas]
        split <;> rfl

omit [EquivBEq K] in
theorem IsMap.put (h : IsMap table) : IsMap (put key value table) := by
  rw [IsMap, keys_put]
  by_cases hhas : has table key
  · rw [if_pos hhas]
    exact h
  · rw [if_neg hhas]
    refine List.pairwise_append.2 ⟨h, List.pairwise_singleton .., ?_⟩
    intro a ha b hb hab
    rw [List.mem_singleton.1 hb] at hab
    rw [has_eq_any_keys] at hhas
    exact hhas (List.any_eq_true.2 ⟨a, ha, hab⟩)

omit [EquivBEq K] in
theorem IsMap.without (h : IsMap table) : IsMap (without table key) :=
  h.sublist (List.filter_sublist.map _)

omit [EquivBEq K] in
/-- Giving back old values makes no key appear twice. -/
theorem IsMap.restore {names : List K} (h : IsMap table) : IsMap (restore names other table) := by
  induction names generalizing table with
  | nil => exact h
  | cons name names ih =>
      rw [Table.restore, List.foldl_cons]
      refine ih ?_
      rw [giveBack]
      cases get? other name with
      | some value => exact h.put
      | none => exact h.without

/-- Two lists without repetition that have the same keys are of one length. -/
theorem length_eq_of_same {xs ys : List K} (hx : xs.Pairwise fun a b => ¬(a == b))
    (hy : ys.Pairwise fun a b => ¬(a == b)) (same : ∀ k, xs.any (· == k) = ys.any (· == k)) :
    xs.length = ys.length := by
  -- Up to `==` the two lists are the same set of keys.
  let keySetoid : Setoid K :=
    ⟨fun a b => a == b, fun a => BEq.refl a, BEq.symm, PartialEquivBEq.trans⟩
  let classes (keys : List K) : List (Quotient keySetoid) := keys.map (Quotient.mk keySetoid)
  have nodup : ∀ {keys : List K}, (keys.Pairwise fun a b => ¬(a == b)) → (classes keys).Nodup :=
    fun h => List.pairwise_map.2 (h.imp fun hab heq => hab (Quotient.exact heq))
  have mem : ∀ (keys : List K) k, Quotient.mk keySetoid k ∈ classes keys ↔ keys.any (· == k) := by
    intro keys k
    rw [List.mem_map, List.any_eq_true]
    exact ⟨fun ⟨a, ha, heq⟩ => ⟨a, ha, Quotient.exact heq⟩,
      fun ⟨a, ha, hak⟩ => ⟨a, ha, Quotient.sound hak⟩⟩
  have perm : (classes xs).Perm (classes ys) := by
    refine (List.perm_ext_iff_of_nodup (nodup hx) (nodup hy)).2 fun c => ?_
    induction c using Quotient.inductionOn with
    | h k => rw [mem, mem, same]
  simpa [classes] using perm.length_eq

end Table

end Stencil
