import Stencil.Proofs.Scope.Drain
import Stencil.Proofs.Script.Touch

/-!
# Draining a stack of scopes

What `popitem`, `clear` and `pop` do when they are repeated at a level of a stack: they empty this
level and everything below it, each entry once, and leave the levels above as they were
(`drainsBelow`).
-/

namespace Stencil.Script

open Eval Call

/-- Do the same several times, and give all results. -/
def repeated {α : Type} (run : Eval α) : Nat → Eval (List α)
  | 0 => return []
  | count + 1 => do
      let first ← run
      let rest ← repeated run count
      return first :: rest

/-- The store with all dictionaries of a chain empty. -/
def Store.emptied (store : Store) (chain : Chain) : Store :=
  store.writeScope chain (List.replicate chain.length [])

/-- The store with a key removed from all dictionaries of a chain. -/
def Store.freed (store : Store) (chain : Chain) (key : Value) : Store :=
  store.writeScope chain ((store.scope chain).map (Table.without · key))

/-- **What draining does** at a level of a stack that is a scope of a loop. -/
structure DrainsBelow (store : Store) (loops : Chain) (base : Address) (depth : Nat) : Prop where
  /-- `popitem` gives each entry of the layers once, layer by layer from the level outwards, and
  each layer in order. -/
  popitem :
    let entries := (level loops base depth).flatMap store.dict
    repeated (ofMapping (level loops base depth) .popitem ⟨[], []⟩) entries.length store
      = .ok (entries.map fun entry => .tuple [entry.1, entry.2])
        (store.emptied (level loops base depth))
  /-- A key is given as often as there are layers that have it, with the innermost value first. -/
  shadowed {key : Value}
      (alike : ∀ address ∈ level loops base depth, ∀ a ∈ (store.dict address).keys,
        ∀ b ∈ (store.dict address).keys, a == key → b == key → b == a) :
    (((level loops base depth).flatMap store.dict).filter fun entry => entry.1 == key).map (·.2)
      = (level loops base depth).filterMap fun address => Table.get? (store.dict address) key
  /-- After that there is nothing left to give. -/
  exhausted :
    ofMapping (level loops base depth) .popitem ⟨[], []⟩ (store.emptied (level loops base depth))
      = .error (.noKey []) (store.emptied (level loops base depth))
  /-- `clear` does as much as these many `popitem`s. -/
  clear :
    ofMapping (level loops base depth) .clear ⟨[], []⟩ store
      = .ok .none (store.emptied (level loops base depth))
  /-- `pop` gives the values of a key from the level outwards. -/
  pop {key : Value} (hkey : key.notHashable? = none) :
    let values := (level loops base depth).filterMap fun address =>
      Table.get? (store.dict address) key
    repeated (ofMapping (level loops base depth) .pop ⟨[key], []⟩) values.length store
      = .ok values (store.freed (level loops base depth) key)
  /-- After that the key is missing. -/
  popExhausted {key : Value} (hkey : key.notHashable? = none) :
    let rest := store.freed (level loops base depth) key
    ofMapping (level loops base depth) .pop ⟨[key], []⟩ rest = .error (rest.noKey key) rest
      ∧ ∀ written, rest.repr key = .ok written → (rest.noKey key).kind = .key
  /-- All layers from the level outwards are empty then, or do not have the key. -/
  below {address : Address} (mem : address ∈ level loops base depth) :
    (store.emptied (level loops base depth)).dict address = []
      ∧ ∀ key, (store.freed (level loops base depth) key).dict address
          = (store.dict address).without key
  /-- The layers inside of the level, and all that is not on the stack, are left alone. -/
  beside {address : Address} (h : address ∉ level loops base depth) :
    (store.emptied (level loops base depth)).cells[address]? = store.cells[address]?
      ∧ ∀ key, (store.freed (level loops base depth) key).cells[address]? = store.cells[address]?
  inside : ∀ loop ∈ loops.take depth, loop ∉ level loops base depth

variable {store rest : Store} {loops chain : Chain} {base address : Address} {key value : Value}

/-! ### Writing back -/

namespace Store

/-- What a dictionary of the chain has when every layer was changed in the same way. -/
theorem dict_writeScope_map {f : Table Value Value → Table Value Value} (h : store.Holds chain)
    (mem : address ∈ chain) :
    (store.writeScope chain ((store.scope chain).map f)).dict address = f (store.dict address) := by
  obtain ⟨place, hplace⟩ := List.getElem?_of_mem mem
  have hlayer : ((store.scope chain).map f)[place]? = some (f (store.dict address)) := by
    rw [List.getElem?_map, getElem?_scope, hplace]
    rfl
  exact dict_of_cell (cells_writeScope h hplace hlayer)

/-- Emptying a scope is writing every layer empty. -/
theorem emptied_eq : store.emptied chain
    = store.writeScope chain ((store.scope chain).map fun _ => []) := by
  rw [emptied, List.map_const', length_scope]

theorem entries_scope : (store.scope chain).entries = chain.flatMap store.dict := by
  rw [Scope.entries, scope, List.flatMap_map]
  rfl

theorem held_scope :
    (store.scope chain).held key
      = chain.filterMap fun address => Table.get? (store.dict address) key := by
  rw [Scope.held, scope, List.filterMap_map]
  rfl

end Store

/-! ### One step -/

/-- A chain with a scope of a loop has at least two layers. -/
theorem exists_level_eq {depth : Nat} (hdepth : depth < loops.length) :
    ∃ first next outer, level loops base depth = first :: next :: outer := by
  rw [level, List.drop_eq_getElem_cons hdepth]
  cases loops.drop (depth + 1) with
  | nil => exact ⟨_, _, _, rfl⟩
  | cons next outer => exact ⟨_, _, _, rfl⟩

/-- `popitem` on a scope gives its first visible key. -/
theorem popitem_eq {first next : Address} {outer : Chain}
    (hchain : chain = first :: next :: outer) :
    ofMapping chain .popitem ⟨[], []⟩ store = match (store.scope chain).popFirst? with
      | none => .error (.noKey []) store
      | some ((key, value), rest) => .ok (.tuple [key, value]) (store.writeScope chain rest) := by
  subst hchain
  have hnothing : noArguments (first :: next :: outer) .popitem ⟨[], []⟩ store = .ok () store := rfl
  have hscope : store.scope (first :: next :: outer)
      = store.dict first :: store.dict next :: store.scope outer := rfl
  unfold ofMapping
  rw [Render.bind_ok scope_eq]
  dsimp only
  rw [Render.bind_ok hnothing, hscope]
  cases Scope.popFirst? (store.dict first :: store.dict next :: store.scope outer) with
  | none => rfl
  | some found => rfl

/-- `clear` on a scope clears its layers. -/
theorem clear_eq {first next : Address} {outer : Chain} (hchain : chain = first :: next :: outer) :
    ofMapping chain .clear ⟨[], []⟩ store
      = .ok .none (store.writeScope chain (store.scope chain).clear) := by
  subst hchain
  rfl

/-! ### Runs -/

section

variable {first next : Address} {outer : Chain} (hchain : chain = first :: next :: outer)
  (h : store.Holds chain)
include hchain h

/-- **Repeated `popitem`** gives as many of the entries as it is repeated, the first ones. -/
theorem repeated_popitem (apart : ∀ layer ∈ store.scope chain, layer.TellsApart) {count : Nat}
    (hcount : count ≤ (store.scope chain).entries.length) :
    ∃ layers, repeated (ofMapping chain .popitem ⟨[], []⟩) count store
        = .ok (((store.scope chain).entries.take count).map fun entry => .tuple [entry.1, entry.2])
          (store.writeScope chain layers)
      ∧ layers.entries = (store.scope chain).entries.drop count ∧ layers.length = chain.length := by
  induction count generalizing store with
  | zero =>
      refine ⟨store.scope chain, ?_, rfl, Store.length_scope⟩
      rw [Store.writeScope_scope h]
      rfl
  | succ count ih =>
      obtain ⟨entry, more, hentries⟩ := List.exists_cons_of_length_pos (Nat.zero_lt_of_lt hcount)
      obtain ⟨rest, hpop, hmore, hlength, hrest⟩ := Scope.popFirst?_eq_some apart hentries
      rw [Store.length_scope] at hlength
      have hstep : ofMapping chain .popitem ⟨[], []⟩ store
          = .ok (.tuple [entry.1, entry.2]) (store.writeScope chain rest) := by
        rw [popitem_eq hchain, hpop]
      -- The rest of the run starts with the same chain over the layers that are left.
      have hscope : (store.writeScope chain rest).scope chain = rest :=
        Store.scope_writeScope h hlength
      rw [hentries, List.length_cons] at hcount
      obtain ⟨layers, hrun, hleft, hlast⟩ := ih (h.writeScope hlength) (by rwa [hscope])
        (by rw [hscope, hmore]; exact Nat.le_of_succ_le_succ hcount)
      refine ⟨layers, ?_, ?_, hlast⟩
      · rw [repeated, Render.bind_ok hstep, Render.bind_ok hrun, hscope, hmore, hentries,
          Store.writeScope_writeScope h hlength hlast]
        rfl
      · rw [hleft, hscope, hmore, hentries, List.drop_succ_cons]

omit hchain in
/-- **Repeated `pop`** gives the values of a key from the inside outwards. -/
theorem repeated_pop (hkey : key.notHashable? = none) {values : List Value}
    (hvalues : (store.scope chain).held key = values) :
    repeated (ofMapping chain .pop ⟨[key], []⟩) values.length store
      = .ok values (store.freed chain key) := by
  induction values generalizing store with
  | nil =>
      rw [Store.freed, Scope.map_without_of_held_eq_nil hvalues, Store.writeScope_scope h]
      rfl
  | cons value more ih =>
      obtain ⟨rest, hpop, hmore, hlength, hwithout⟩ := Scope.pop?_eq_some hvalues
      rw [Store.length_scope] at hlength
      have hstep : ofMapping chain .pop ⟨[key], []⟩ store
          = .ok value (store.writeScope chain rest) := by
        have hrun : ofMapping chain .pop ⟨key :: (none : Option Value).toList, []⟩ store = _ :=
          pop_eq_writeScope hkey
        rw [hpop] at hrun
        exact hrun
      have hscope : (store.writeScope chain rest).scope chain = rest :=
        Store.scope_writeScope h hlength
      have hrun := ih (h.writeScope hlength) (by rwa [hscope])
      rw [List.length_cons, repeated, Render.bind_ok hstep, Render.bind_ok hrun, Store.freed,
        hscope, hwithout, Store.writeScope_writeScope h hlength, ← Store.freed]
      · rfl
      · rw [List.length_map, Store.length_scope]

end

/-- **Draining a level** of a stack, below which there is at least the dictionary that the render
was begun with. -/
theorem drainsBelow (h : store.Holds (loops ++ [base])) {depth : Nat}
    (hdepth : depth < loops.length)
    (apart : ∀ address ∈ level loops base depth, (store.dict address).TellsApart) :
    DrainsBelow store loops base depth := by
  obtain ⟨first, next, outer, hchain⟩ := exists_level_eq hdepth
  have hholds : store.Holds (level loops base depth) := h.level depth
  have layers : ∀ layer ∈ store.scope (level loops base depth), layer.TellsApart :=
    List.forall_mem_map.2 apart
  -- Everything below goes by what the layers hold, so the empty scope is described once.
  have hempty : (store.emptied (level loops base depth)).scope (level loops base depth)
      = List.replicate (level loops base depth).length [] :=
    Store.scope_writeScope hholds (List.length_replicate ..)
  have hnone : Scope.entries (List.replicate (level loops base depth).length
      ([] : Table Value Value)) = [] := by
    simp [Scope.entries, List.flatMap_replicate]
  refine ⟨?_, fun {key} alike => ?_, ?_, ?_, fun {key} hkey => ?_, fun {key} hkey => ?_,
    fun {address} mem => ⟨?_, fun key => ?_⟩, fun {address} mem => ⟨?_, fun key => ?_⟩, ?_⟩
  · obtain ⟨rest, hrun, hleft, hlength⟩ := repeated_popitem hchain hholds layers (Nat.le_refl _)
    rw [List.take_length] at hrun
    rw [List.drop_length] at hleft
    dsimp only
    rw [← Store.entries_scope, hrun, Store.emptied, ← hlength,
      ← Scope.eq_replicate_of_entries_eq_nil hleft]
  · rw [← Store.entries_scope, ← Store.held_scope]
    exact Scope.map_filter_entries layers (List.forall_mem_map.2 alike)
  · rw [popitem_eq hchain, hempty, Scope.popFirst?_eq_none hnone]
  · rw [clear_eq hchain, Scope.clear_eq layers, Store.length_scope]
    rfl
  · rw [← Store.held_scope]
    exact repeated_pop hholds hkey rfl
  · have hscope : (store.freed (level loops base depth) key).scope (level loops base depth)
        = (store.scope (level loops base depth)).map (Table.without · key) :=
      Store.scope_writeScope hholds ((List.length_map ..).trans Store.length_scope)
    have hrun : ofMapping (level loops base depth) .pop ⟨key :: (none : Option Value).toList, []⟩
        (store.freed (level loops base depth) key) = _ := pop_eq_writeScope hkey
    rw [hscope, Scope.pop?_eq_none Scope.held_map_without] at hrun
    refine ⟨hrun, fun written hwritten => ?_⟩
    rw [Store.noKey, hwritten]
    rfl
  · rw [Store.emptied_eq, Store.dict_writeScope_map hholds mem]
  · exact Store.dict_writeScope_map hholds mem
  · exact Store.cells_writeScope_of_not_mem mem
  · exact Store.cells_writeScope_of_not_mem mem
  · exact fun loop hloop => not_mem_level h hloop

/-- Inside of the inner loop of `threeLayers` a name is given three times. -/
theorem drainsBelow_threeLayers :
    threeLayers.Holds ([2, 1] ++ [0]) ∧ 0 < [2, 1].length
      ∧ (∀ address ∈ level [2, 1] 0 0, (threeLayers.dict address).TellsApart)
      ∧ DrainsBelow threeLayers [2, 1] 0 0 := by
  have holds : threeLayers.Holds ([2, 1] ++ [0]) := by
    refine ⟨by decide, fun {address} mem => ?_⟩
    simp only [List.cons_append, List.nil_append, List.mem_cons, List.not_mem_nil, or_false] at mem
    rcases mem with rfl | rfl | rfl
    · exact ⟨_, rfl⟩
    · exact ⟨_, rfl⟩
    · exact ⟨_, rfl⟩
  have apart : ∀ address ∈ level [2, 1] 0 0, (threeLayers.dict address).TellsApart := by
    intro address mem
    simp only [level, List.drop_zero, List.cons_append, List.nil_append, List.mem_cons,
      List.not_mem_nil, or_false] at mem
    rcases mem with rfl | rfl | rfl
    · exact ⟨by decide, by decide⟩
    · exact ⟨by decide, by decide⟩
    · exact ⟨by decide, by decide⟩
  exact ⟨holds, by decide, apart, drainsBelow holds (by decide) apart⟩

end Stencil.Script
