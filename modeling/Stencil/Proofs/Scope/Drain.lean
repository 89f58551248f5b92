import Stencil.Proofs.Scope.OneLayer

/-!
# Draining a scope

Taking out first keys goes through the layers from the inside outwards, and through the entries of a
layer in their order: it takes out `Scope.entries`, one after another (`popFirst?_eq_some`,
`drain_eq`). A key that shadows another brings that one back, so the number of visible keys need not
shrink; the number of entries does. Taking out one key over and over gives its values from the
inside outwards (`pop?_eq_some`).

Of the keys it is only assumed that each is the same as itself, and no later key of a layer the same
as an earlier one.
-/

namespace Stencil

namespace Table

variable {K V : Type} [BEq K] {table : Table K V} {key : K} {value : V}

/-- Each key of the table is the same as itself, and no later key is the same as an earlier one. -/
structure TellsApart (table : Table K V) : Prop where
  same : ∀ key ∈ table.keys, key == key
  apart : table.keys.Pairwise fun earlier later => ¬(later == earlier)

/-- A table tells its keys apart if the first is found by itself, is not found again, and the rest
does. -/
theorem tellsApart_cons_iff {entry : K × V} :
    TellsApart (entry :: table) ↔ entry.1 == entry.1
      ∧ (∀ key ∈ table.keys, ¬(key == entry.1)) ∧ TellsApart table := by
  have hkeys : keys (entry :: table) = entry.1 :: table.keys := rfl
  constructor
  · rintro ⟨same, apart⟩
    rw [hkeys, List.forall_mem_cons] at same
    rw [hkeys, List.pairwise_cons] at apart
    exact ⟨same.1, apart.1, same.2, apart.2⟩
  · rintro ⟨hsame, hapart, same, apart⟩
    exact ⟨List.forall_mem_cons.2 ⟨hsame, same⟩, List.pairwise_cons.2 ⟨hapart, apart⟩⟩

/-- Without its first key a table is what stands behind it. -/
theorem without_cons_self (h : TellsApart ((key, value) :: table)) :
    without ((key, value) :: table) key = table := by
  obtain ⟨same, apart, -⟩ := tellsApart_cons_iff.1 h
  rw [without, List.filter_cons_of_neg (by simp [same]), List.filter_eq_self]
  intro entry hentry
  simpa using apart entry.1 (List.mem_map_of_mem hentry)

theorem without_of_get?_eq_none (h : get? table key = none) : without table key = table := by
  rw [get?, Option.map_eq_none_iff, List.find?_eq_none] at h
  rw [without, List.filter_eq_self]
  intro entry hentry
  simpa using h entry hentry

theorem without_without : without (without table key) key = without table key := by
  rw [without, without, List.filter_filter]
  simp

/-- A key that stands for at most one key of a table has at most one entry there. -/
theorem filter_eq_toList_get? (apart : TellsApart table)
    (alike : ∀ a ∈ table.keys, ∀ b ∈ table.keys, a == key → b == key → b == a) :
    (table.filter fun entry => entry.1 == key).map (·.2) = (get? table key).toList := by
  induction table with
  | nil => rfl
  | cons entry rest ih =>
      obtain ⟨-, hapart, hinner⟩ := tellsApart_cons_iff.1 apart
      simp only [keys, List.map_cons, List.mem_cons, forall_eq_or_imp] at alike
      obtain ⟨hfirst, hrest⟩ := alike
      by_cases hkey : entry.1 == key
      · have hnone : rest.filter (fun entry => entry.1 == key) = [] := by
          rw [List.filter_eq_nil_iff]
          intro other hother hsame
          have hmem : other.1 ∈ rest.map (·.1) := List.mem_map_of_mem hother
          exact hapart other.1 hmem (hfirst.2 other.1 hmem hkey hsame)
        simp [get?, hkey, hnone]
      · have hrestored := ih hinner fun a ha b hb => (hrest a ha).2 b hb
        have hget : get? (entry :: rest) key = get? rest key := by simp [get?, hkey]
        rw [hget, ← hrestored]
        simp [hkey]

end Table

namespace Scope

variable {K V : Type} [BEq K] {scope outer : Scope K V} {layer : Table K V} {key : K} {value : V}

/-- The entries of all layers, from the inside outwards. -/
def entries (scope : Scope K V) : List (K × V) :=
  scope.flatMap id

/-- The values that the layers have for a key, from the inside outwards. -/
def held (scope : Scope K V) (key : K) : List V :=
  scope.filterMap fun layer => Table.get? layer key

theorem held_cons :
    held (layer :: outer) key = (Table.get? layer key).toList ++ held outer key := by
  rw [held, List.filterMap_cons]
  cases Table.get? layer key <;> rfl

omit [BEq K] in
/-- Draining to the end takes as many steps as there are entries in all layers, hidden ones
included. -/
theorem length_entries : (entries scope).length = entryCount scope := by
  induction scope with
  | nil => rfl
  | cons layer outer ih =>
      rw [entryCount, ← ih, entries, List.flatMap_cons, List.length_append]
      rfl

omit [BEq K] in
/-- Layers without entries are empty. -/
theorem eq_replicate_of_entries_eq_nil (h : entries scope = []) :
    scope = List.replicate scope.length [] := by
  rw [entries, List.flatMap_eq_nil_iff] at h
  exact List.eq_replicate_of_mem h

/-- The entries of a key are its values from the inside outwards. -/
theorem map_filter_entries (apart : ∀ layer ∈ scope, Table.TellsApart layer)
    (alike : ∀ layer ∈ scope, ∀ a ∈ layer.keys, ∀ b ∈ layer.keys, a == key → b == key → b == a) :
    ((entries scope).filter fun entry => entry.1 == key).map (·.2) = held scope key := by
  induction scope with
  | nil => rfl
  | cons layer outer ih =>
      obtain ⟨hlayer, houter⟩ := List.forall_mem_cons.1 apart
      obtain ⟨hsame, hrest⟩ := List.forall_mem_cons.1 alike
      have hentries : entries (layer :: outer) = layer ++ entries outer := rfl
      rw [hentries, List.filter_append, List.map_append, ih houter hrest, held_cons,
        Table.filter_eq_toList_get? hlayer hsame]

/-! ### First keys -/

/-- An empty layer is passed over. -/
theorem popFirst?_nil_cons :
    popFirst? ([] :: outer) = (popFirst? outer).map fun found => (found.1, [] :: found.2) := by
  have hkeys : keys ([] :: outer) = keys outer := by simp [keys, Table.has]
  have hget (key : K) : get? ([] :: outer) key = get? outer key := rfl
  have herase (key : K) : erase? key ([] :: outer) = (erase? key outer).map ([] :: ·) := rfl
  simp only [popFirst?, pop?, hkeys, hget, herase]
  cases (keys outer).head? with
  | none => rfl
  | some key =>
      simp only [Option.bind_eq_bind, Option.bind_some]
      cases get? outer key with
      | none => rfl
      | some value => cases erase? key outer <;> rfl

/-- The first entry of the innermost layer goes first, as no key before it hides it. -/
theorem popFirst?_cons_cons (apart : Table.TellsApart ((key, value) :: layer)) :
    popFirst? (((key, value) :: layer) :: outer) = some ((key, value), layer :: outer) := by
  have hhead : (keys (((key, value) :: layer) :: outer)).head? = some key := rfl
  have hsame : key == key := apart.same key List.mem_cons_self
  have hget : get? (((key, value) :: layer) :: outer) key = some value := by
    simp [get?, Table.get?, hsame]
  have herase : erase? key (((key, value) :: layer) :: outer) = some (layer :: outer) := by
    have hhas : Table.has ((key, value) :: layer) key := by simp [Table.has, hsame]
    rw [erase?, if_pos hhas, Table.without_cons_self apart]
  simp [popFirst?, pop?, hhead, hget, herase]

/-- **The first key** of a scope is that of its first entry, and only this entry is taken out. -/
theorem popFirst?_eq_some {entry : K × V} {more : List (K × V)}
    (apart : ∀ layer ∈ scope, Table.TellsApart layer) (h : entries scope = entry :: more) :
    ∃ rest, popFirst? scope = some (entry, rest) ∧ entries rest = more
      ∧ rest.length = scope.length ∧ ∀ layer ∈ rest, Table.TellsApart layer := by
  induction scope with
  | nil => cases h
  | cons layer outer ih =>
      obtain ⟨hlayer, houter⟩ := List.forall_mem_cons.1 apart
      -- An empty layer has no say: the first entry is in the first layer that has one.
      cases layer with
      | nil =>
          obtain ⟨rest, hpop, hentries, hlength, hrest⟩ := ih houter h
          refine ⟨[] :: rest, by rw [popFirst?_nil_cons, hpop]; rfl, hentries, ?_, ?_⟩
          · rw [List.length_cons, hlength, List.length_cons]
          · exact List.forall_mem_cons.2 ⟨hlayer, hrest⟩
      | cons first layer =>
          obtain ⟨rfl, hmore⟩ : first = entry ∧ layer ++ entries outer = more := by
            simpa [entries] using h
          refine ⟨layer :: outer, popFirst?_cons_cons hlayer, hmore, rfl, ?_⟩
          exact List.forall_mem_cons.2 ⟨(Table.tellsApart_cons_iff.1 hlayer).2.2, houter⟩

theorem popFirst?_eq_none (h : entries scope = []) : popFirst? scope = none := by
  rw [eq_replicate_of_entries_eq_nil h]
  induction scope.length with
  | zero => rfl
  | succ count ih => rw [List.replicate_succ, popFirst?_nil_cons, ih]; rfl

/-- **Draining** takes out the first entries, and as many of them as are asked for. -/
theorem drain_eq (apart : ∀ layer ∈ scope, Table.TellsApart layer) (limit : Nat) :
    (drain limit scope).1 = (entries scope).take limit
      ∧ entries (drain limit scope).2 = (entries scope).drop limit
      ∧ (drain limit scope).2.length = scope.length := by
  induction limit generalizing scope with
  | zero => exact ⟨rfl, rfl, rfl⟩
  | succ limit ih =>
      rw [drain]
      cases hentries : entries scope with
      | nil => rw [popFirst?_eq_none hentries]; exact ⟨rfl, hentries, rfl⟩
      | cons entry more =>
          obtain ⟨rest, hpop, hmore, hlength, hrest⟩ := popFirst?_eq_some apart hentries
          obtain ⟨hgiven, hleft, hcount⟩ := ih hrest
          rw [hpop]
          exact ⟨by rw [List.take_succ_cons, ← hmore, ← hgiven],
            by rw [List.drop_succ_cons, ← hmore, ← hleft], hcount.trans hlength⟩

/-- Clearing leaves every layer empty. -/
theorem clear_eq (apart : ∀ layer ∈ scope, Table.TellsApart layer) :
    clear scope = List.replicate scope.length [] := by
  obtain ⟨-, hleft, hlength⟩ := drain_eq apart (entryCount scope)
  rw [← length_entries, List.drop_length] at hleft
  rw [clear, ← hlength, ← length_entries]
  exact eq_replicate_of_entries_eq_nil hleft

/-! ### One key -/

/-- **Taking out a key** gives its innermost value, and the next ones are those further outwards. -/
theorem pop?_eq_some {more : List V} (h : held scope key = value :: more) :
    ∃ rest, pop? key scope = some (value, rest) ∧ held rest key = more
      ∧ rest.length = scope.length
      ∧ rest.map (Table.without · key) = scope.map (Table.without · key) := by
  induction scope with
  | nil => cases h
  | cons layer outer ih =>
      rw [held_cons] at h
      -- The innermost layer with the key gives its value up; the layers inside of it do not hold
      -- the key at all.
      cases hlayer : Table.get? layer key with
      | some found =>
          obtain ⟨rfl, hmore⟩ : found = value ∧ held outer key = more := by simpa [hlayer] using h
          have hhas : Table.has layer key := by rw [Table.has_eq_isSome_get?, hlayer]; rfl
          refine ⟨Table.without layer key :: outer, ?_, ?_, rfl, ?_⟩
          · simp [pop?, get?_cons, hlayer, erase?, hhas]
          · rwa [held_cons, get?_without_self]
          · rw [List.map_cons, List.map_cons, Table.without_without]
      | none =>
          rw [hlayer] at h
          obtain ⟨rest, hpop, hmore, hlength, hwithout⟩ := ih h
          have hhas : ¬Table.has layer key := by rw [Table.has_eq_isSome_get?, hlayer]; simp
          refine ⟨layer :: rest, ?_, ?_, ?_, ?_⟩
          · rw [pop?_eq_map, Option.bind_eq_some_iff] at hpop
            obtain ⟨found, hget, herased⟩ := hpop
            obtain ⟨others, herase, hpair⟩ := Option.map_eq_some_iff.1 herased
            obtain ⟨rfl, rfl⟩ := Prod.mk.inj hpair
            simp [pop?, get?_cons, hlayer, hget, erase?, hhas, herase]
          · rw [held_cons, hlayer, hmore]
            rfl
          · rw [List.length_cons, hlength, List.length_cons]
          · rw [List.map_cons, hwithout, List.map_cons]

/-- A key that no layer has is in none of them. -/
theorem map_without_of_held_eq_nil (h : held scope key = []) :
    scope.map (Table.without · key) = scope := by
  refine List.map_congr_left (fun layer hlayer => ?_) |>.trans (List.map_id scope)
  exact Table.without_of_get?_eq_none (List.filterMap_eq_nil_iff.1 h layer hlayer)

theorem held_map_without : held (scope.map (Table.without · key)) key = [] := by
  rw [held, List.filterMap_eq_nil_iff]
  refine List.forall_mem_map.2 fun layer _ => ?_
  exact get?_without_self

theorem pop?_eq_none (h : held scope key = []) : pop? key scope = none := by
  have hget : get? scope key = none := by
    rw [get?, List.findSome?_eq_none_iff]
    exact List.filterMap_eq_nil_iff.1 h
  rw [pop?_eq_map, hget]
  rfl

end Scope

end Stencil
