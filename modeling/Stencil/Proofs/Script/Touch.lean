import Stencil.Proofs.Script.Update

/-!
# One layer at a time

The variables of nested loops are a stack of dictionaries over the one that the render was begun
with. What is done to the mapping at some level of the stack touches one layer of it: reading and
writing agree on which one that is, and everything else is left as it was, also by what fails for
want of a key (`touchesOneLayer`). So no loop ever gets a variable that it did not begin with.
-/

namespace Stencil.Script

open Render (after)
open Eval Call

/-- The mapping at a level of a stack: the loops from there outwards, and the dictionary below. -/
def level (loops : Chain) (base : Address) (depth : Nat) : Chain :=
  loops.drop depth ++ [base]

/-- What can be done at a level of a stack. -/
inductive Act
  | assign (depth : Nat) (key value : Value)
  | delete (depth : Nat) (key : Value)
  | call (depth : Nat) (method : Method) (args : Arguments)

namespace Act

/-- Where something is done. -/
def depth : Act → Nat
  | assign depth _ _ => depth
  | delete depth _ => depth
  | call depth _ _ => depth

/-- Do it. -/
def run (loops : Chain) (base : Address) : Act → Eval Value
  | assign depth key value => do
      Operation.assign (.mapping (level loops base depth)) key value
      return .none
  | delete depth key => do
      Operation.delete (.mapping (level loops base depth)) key
      return .none
  | call depth method args => ofMapping (level loops base depth) method args

/-- Do several things one after another, whether or not those before succeeded. -/
def runAll (loops : Chain) (base : Address) (acts : List Act) (store : Store) : Store :=
  acts.foldl (fun store act => after (act.run loops base store)) store

end Act

/-- Two stores differ in one dictionary only, and there only in what it has for one key. -/
structure Store.DiffersAt (address : Address) (key : Value) (store rest : Store) : Prop where
  elsewhere {other : Address} (h : other ≠ address) : rest.cells[other]? = store.cells[other]?
  others : (rest.dict address).without key = (store.dict address).without key

/-- **Each operation on a stack** touches one layer, and what fails for want of a key none. -/
structure TouchesOneLayer (store : Store) (loops : Chain) (base : Address) : Prop where
  /-- Writing changes the innermost layer that has the key, or else the base. -/
  assign (depth : Nat) {key : Value} (hkey : key.IsKey) (value : Value) :
    let home := store.home (loops.drop depth) base key
    let rest := store.change home (Table.put key value)
    Operation.assign (.mapping (level loops base depth)) key value store = .ok () rest
      ∧ store.DiffersAt home key rest
  /-- Deleting changes the innermost layer that has the key, and what the layers around this one
  have for the key comes to light. -/
  delete (depth : Nat) {key : Value} (hkey : key.IsKey) {inner outer : Chain} {holder : Address}
      (hlevel : level loops base depth = inner ++ holder :: outer)
      (hholder : store.holder? (level loops base depth) key = some holder) :
    let rest := store.change holder (Table.without · key)
    Operation.delete (.mapping (level loops base depth)) key store = .ok () rest
      ∧ store.DiffersAt holder key rest
      ∧ (rest.scope (level loops base depth)).get? key = (store.scope outer).get? key
  /-- A key that no layer has cannot be deleted. -/
  deleteMissing (depth : Nat) {key : Value} (hkey : key.IsKey)
      (hholder : store.holder? (level loops base depth) key = none) :
    Operation.delete (.mapping (level loops base depth)) key store = .error (store.noKey key) store
      ∧ ∀ written, store.repr key = .ok written → (store.noKey key).kind = .key
  /-- `pop` reads and then deletes. -/
  pop (depth : Nat) {key : Value} (hkey : key.IsKey) {default : Option Value} :
    ofMapping (level loops base depth) .pop ⟨key :: default.toList, []⟩ store =
      match store.holder? (level loops base depth) key, default with
      | none, some value => .ok value store
      | _, _ => takeOut (level loops base depth) key store
  /-- `setdefault` reads, or else writes. -/
  setdefault (depth : Nat) {key : Value} (hkey : key.IsKey) {default : Option Value} :
    ofMapping (level loops base depth) .setdefault ⟨key :: default.toList, []⟩ store =
      match store.holder? (level loops base depth) key with
      | some _ => Operation.subscript (.mapping (level loops base depth)) key store
      | none => (do
          Operation.assign (.mapping (level loops base depth)) key (default.getD .none)
          return default.getD .none : Eval Value) store
  /-- `update` on a dictionary writes the entries of another mapping in turn, and those by name. -/
  updateDict (depth : Nat) (hdepth : loops.drop depth = []) {other : Chain}
      {named : List (Text × Value)} :
    ofMapping (level loops base depth) .update ⟨[.mapping other], named⟩ store = (do
      setEach (level loops base depth) (store.scope other).items
      setEach (level loops base depth) (namedEntries named)
      return .none : Eval Value) store
  /-- `update` on a scope goes through the other mapping and writes in turn. Going through it fails
  if this is about the same base, and the base got a new key. -/
  updateScope (depth : Nat) (hdepth : loops.drop depth ≠ []) {other : Chain}
      (hother : ∀ address ∈ other, ∃ entries, store.cells[address]? = some (.dict entries))
      {named : List (Text × Value)} :
    ofMapping (level loops base depth) .update ⟨[.mapping other], named⟩ store = (do
        setFrom (level loops base depth) other (store.scope other).keys
        setEach (level loops base depth) (namedEntries named)
        return .none : Eval Value) store
      ∨ base ∈ other ∧ StopsWithin (level loops base depth) other (store.scope other).keys store
          (ofMapping (level loops base depth) .update ⟨[.mapping other], named⟩ store)
  /-- `update` with pairs writes them in turn. -/
  updatePairs (depth : Nat) {given : Value} {pairs : List (Value × Value)}
      (hgiven : ∀ other, given ≠ .mapping other)
      (hpairs : Stretch.ofValue? store given
        = some [.known (pairs.map fun pair => .item (.tuple [pair.1, pair.2]))])
      (hashable : ∀ pair ∈ pairs, pair.1.notHashable? = none) {named : List (Text × Value)} :
    ofMapping (level loops base depth) .update ⟨[given], named⟩ store = (do
      setEach (level loops base depth) pairs
      setEach (level loops base depth) (namedEntries named)
      return .none : Eval Value) store
  /-- What fails for want of a key has changed nothing. -/
  keyFault (act : Act) {fault : Fault} {rest : Store}
      (hfault : act.run loops base store = .error fault rest) (hkind : fault.kind = .key) :
    rest = store
  /-- The layers inside of the level, and all that is not on the stack, are left alone. -/
  above (act : Act) {address : Address} (h : address ∉ level loops base act.depth) :
    (after (act.run loops base store)).cells[address]? = store.cells[address]?
  inside (act : Act) : ∀ loop ∈ loops.take act.depth, loop ∉ level loops base act.depth
  /-- Whatever is done, no loop gains a key. -/
  noGain (acts : List Act) : ∀ loop ∈ loops,
    ((Act.runAll loops base acts store).dict loop).keys.Sublist (store.dict loop).keys

variable {store rest : Store} {loops chain : Chain} {base address : Address} {key value : Value}

/-! ### Layers of the stack -/

theorem Store.Holds.level (h : store.Holds (loops ++ [base])) (depth : Nat) :
    store.Holds (level loops base depth) where
  nodup := h.nodup.sublist ((loops.drop_sublist depth).append_right [base])
  dict mem := by
    refine h.dict (List.mem_append.2 ?_)
    obtain hloop | hbase := List.mem_append.1 mem
    · exact .inl (List.mem_of_mem_drop hloop)
    · exact .inr hbase

theorem not_mem_level (h : store.Holds (loops ++ [base])) {depth : Nat} {loop : Address}
    (hloop : loop ∈ loops.take depth) : loop ∉ level loops base depth := by
  have hsplit : loops ++ [base] = loops.take depth ++ level loops base depth := by
    rw [level, ← List.append_assoc, List.take_append_drop]
  have hnodup := h.nodup
  rw [hsplit] at hnodup
  exact List.disjoint_of_nodup_append hnodup hloop

theorem Table.without_put {table : Table Value Value} (h : key == key) :
    (Table.put key value table).without key = table.without key := by
  induction table with
  | nil => simp [Table.put, Table.without, h]
  | cons entry rest ih =>
      rw [Table.put]
      split
      · rename_i heq
        simp [Table.without, heq]
      · rename_i hne
        rw [Table.without, List.filter_cons, ← Table.without, ih]
        simp [Table.without, hne]

theorem differsAt_change {f : Table Value Value → Table Value Value}
    (h : ∀ table : Table Value Value, (f table).without key = table.without key) :
    store.DiffersAt address key (store.change address f) where
  elsewhere hne := Store.cells_write_of_ne (Ne.symm hne)
  others := by
    obtain hsame | hchanged : (store.change address f).dict address = store.dict address
        ∨ (store.change address f).dict address = f (store.dict address) := Store.dict_change
    · rw [hsame]
    · rw [hchanged, h]

/-- The value that was hidden by a deleted one. -/
theorem get?_change_without {inner outer : Chain} (h : store.Holds (inner ++ address :: outer))
    (hholder : store.holder? (inner ++ address :: outer) key = some address) :
    ((store.change address (Table.without · key)).scope (inner ++ address :: outer)).get? key
      = (store.scope outer).get? key := by
  rw [Store.holder?_eq, Option.bind_eq_some_iff] at hholder
  obtain ⟨place, hlayer, hplace⟩ := hholder
  have hlength : place = inner.length := by
    obtain ⟨hlt, -⟩ := List.getElem?_eq_some_iff.1 hplace
    refine (List.getElem?_inj hlt h.nodup).1 (hplace.trans ?_)
    rw [List.getElem?_append_right (Nat.le_refl _), Nat.sub_self, List.getElem?_cons_zero]
  have houter : (store.scope (inner ++ address :: outer)).drop (place + 1) = store.scope outer := by
    rw [Store.scope, ← List.map_drop, hlength, List.drop_length_add_append]
    rfl
  have hmodified : ((store.scope (inner ++ address :: outer)).modify place
      (Table.without · key)).length = (inner ++ address :: outer).length :=
    (List.length_modify ..).trans Store.length_scope
  rw [← Store.writeScope_modify h hplace, Store.scope_writeScope h hmodified,
    Scope.get?_of_erase? hlayer, houter]

theorem has_eq_isSome_holder? :
    (store.scope chain).has key = (store.holder? chain key).isSome := by
  rw [Bool.eq_iff_iff, Scope.has, Store.scope, Store.holder?, List.find?_isSome, List.any_map,
    List.any_eq_true]
  rfl

/-! ### The laws -/

/-- Everything but `update` writes once. -/
theorem edits_act (h : store.Holds (loops ++ [base])) {act : Act}
    (hact : ∀ depth args, act ≠ .call depth .update args) :
    Edits Scope.Confines (level loops base act.depth) store (act.run loops base store) := by
  cases act with
  | assign depth key value => exact (edits_assign Scope.isKept_confines).andReturn
  | delete depth key => exact (edits_delete Scope.isKept_confines).andReturn
  | call depth method args =>
      refine edits_ofMapping Scope.isKept_confines (h.level depth) ?_
      rintro rfl
      exact hact depth args rfl

/-- An act that misses a key leaves the whole store as it was. For `update` that takes an argument,
as it may have written before it fails: none of its faults is a missing key (`missesNoKey_update`).
-/
theorem keyFault_act (h : store.Holds (loops ++ [base])) {act : Act} {fault : Fault}
    (hfault : act.run loops base store = .error fault rest) (hkind : fault.kind = .key) :
    rest = store := by
  by_cases hact : ∀ depth args, act ≠ .call depth .update args
  · have hedits := edits_act h hact
    rw [hfault] at hedits
    exact hedits
  · simp only [ne_eq, not_forall, not_not] at hact
    obtain ⟨depth, args, rfl⟩ := hact
    exact absurd hkind (missesNoKey_update (h.level depth) fault rest hfault)

theorem moves_act (h : store.Holds (loops ++ [base])) (act : Act) :
    Moves (level loops base act.depth) store (after (act.run loops base store)) := by
  by_cases hact : ∀ depth args, act ≠ .call depth .update args
  · exact movesOnly_of_edits (edits_act h hact) (h.level act.depth)
  · simp only [ne_eq, not_forall, not_not] at hact
    obtain ⟨depth, args, rfl⟩ := hact
    exact (movesOnly_update store).1 (h.level depth)

/-- One thing done: the stack is still a stack, and no loop gained a key. -/
theorem keys_act (h : store.Holds (loops ++ [base])) (act : Act) :
    let rest := after (act.run loops base store)
    rest.Holds (loops ++ [base])
      ∧ ∀ loop ∈ loops, (rest.dict loop).keys.Sublist (store.dict loop).keys := by
  intro rest
  have hmoves : Moves (level loops base act.depth) store rest := moves_act h act
  constructor
  · refine h.of_cells ?_
    intro address mem
    by_cases hlevel : address ∈ level loops base act.depth
    · exact hmoves.holds.dict hlevel
    · exact ⟨_, (hmoves.frame hlevel).trans (h.cell mem)⟩
  · intro loop hloop
    -- A loop layer in the scope of the act is no base, so it may lose keys and gains none. Outside
    -- of the scope it stays as it is.
    by_cases hlevel : loop ∈ level loops base act.depth
    · have hne : loop ≠ base := by
        rintro rfl
        exact List.disjoint_of_nodup_append h.nodup hloop List.mem_cons_self
      obtain hdrop | hbase := List.mem_append.1 hlevel
      · obtain ⟨place, hplace⟩ := List.getElem?_of_mem hdrop
        obtain ⟨hlt, -⟩ := List.getElem?_eq_some_iff.1 hplace
        have hfound : (level loops base act.depth)[place]? = some loop :=
          (List.getElem?_append_left hlt).trans hplace
        have hinner : place + 1 < (store.scope (level loops base act.depth)).length := by
          rw [Store.length_scope, level, List.length_append, List.length_singleton]
          omega
        obtain ⟨before, hbefore, hkeys⟩ := hmoves.confined.keys hinner
          (by rw [Store.getElem?_scope, hfound]; rfl)
        rw [Store.getElem?_scope, hfound] at hbefore
        cases hbefore
        exact hkeys
      · exact absurd (List.mem_singleton.1 hbase) hne
    · rw [Store.dict_of_cells (hmoves.frame hlevel)]

/-- No act, and hence no list of acts, puts a new key into a loop layer. -/
theorem keys_runAll (h : store.Holds (loops ++ [base])) (acts : List Act) :
    ∀ loop ∈ loops,
      ((Act.runAll loops base acts store).dict loop).keys.Sublist (store.dict loop).keys := by
  induction acts generalizing store with
  | nil => exact fun _ _ => .refl _
  | cons act acts ih =>
      obtain ⟨hholds, hkeys⟩ := keys_act h act
      intro loop hloop
      exact (ih hholds loop hloop).trans (hkeys loop hloop)

theorem holder?_eq_none_iff :
    store.holder? chain key = none ↔ (store.scope chain).get? key = none := by
  rw [← Option.not_isSome_iff_eq_none, ← Option.not_isSome_iff_eq_none,
    ← Scope.has_eq_isSome_get?, has_eq_isSome_holder?]

theorem bind_congr_first {α β : Type} {first second : Eval α} {next : α → Eval β}
    (h : first store = second store) : (first >>= next) store = (second >>= next) store := by
  cases hrun : second store with
  | ok a rest => rw [Render.bind_ok (h.trans hrun), Render.bind_ok hrun]
  | error fault rest => rw [Render.bind_error (h.trans hrun), Render.bind_error hrun]

/-- Every visible key is one of a dictionary. -/
theorem mem_keys (h : key ∈ (store.scope chain).keys) :
    ∃ address, key ∈ (store.dict address).keys := by
  induction chain with
  | nil => cases h
  | cons address outer ih =>
      obtain hlayer | houter := List.mem_append.1 h
      · exact ⟨address, hlayer⟩
      · exact ih (List.mem_of_mem_filter houter)

/-- **The laws of a stack.** -/
theorem touchesOneLayer (h : store.Holds (loops ++ [base]))
    (keys : ∀ address, ∀ key ∈ (store.dict address).keys, key.IsKey) :
    TouchesOneLayer store loops base where
  assign depth key hkey value := by
    refine ⟨assign_eq (h.level depth) hkey.hashable, differsAt_change fun table => ?_⟩
    exact Table.without_put hkey.same
  delete depth key hkey inner outer holder hlevel hholder := by
    refine ⟨?_, differsAt_change fun table => ?_, ?_⟩
    · rw [delete_eq (h.level depth) hkey.hashable, hholder]
    · exact List.filter_filter.trans (by simp [Table.without])
    · have hholds := h.level depth
      rw [hlevel] at hholds hholder ⊢
      exact get?_change_without hholds hholder
  deleteMissing depth key hkey hholder := by
    refine ⟨?_, ?_⟩
    · rw [delete_eq (h.level depth) hkey.hashable, hholder]
    · intro written hwritten
      rw [Store.noKey, hwritten]
      rfl
  pop depth key hkey default := by
    rw [pop_eq hkey.hashable]
    cases hholder : store.holder? (level loops base depth) key with
    | none =>
        rw [holder?_eq_none_iff.1 hholder]
        cases default <;> rfl
    | some holder =>
        cases hget : (store.scope (level loops base depth)).get? key with
        | none =>
            rw [holder?_eq_none_iff.2 hget] at hholder
            cases hholder
        | some value => cases default <;> rfl
  setdefault depth key hkey default := by
    rw [setdefault_eq (h.level depth) hkey.hashable]
    cases hholder : store.holder? (level loops base depth) key with
    | none => rw [holder?_eq_none_iff.1 hholder]
    | some holder =>
        cases hget : (store.scope (level loops base depth)).get? key with
        | none =>
            rw [holder?_eq_none_iff.2 hget] at hholder
            cases hholder
        | some value =>
            have hread : Operation.subscript (.mapping (level loops base depth)) key store = _ :=
              subscript_eq hkey.hashable
            rw [hget] at hread
            exact hread.symm
  updateDict depth hdepth other named := by
    rw [update_eq (h.level depth)]
    refine bind_congr_first ?_
    have hlevel : level loops base depth = [base] := by rw [level, hdepth, List.nil_append]
    have hholds := h.level depth
    rw [hlevel] at hholds ⊢
    refine putEntries_dict hholds ?_
    intro entry hentry
    obtain ⟨key, hkey, hvalue⟩ := List.mem_filterMap.1 hentry
    obtain ⟨value, -, rfl⟩ := Option.map_eq_some_iff.1 hvalue
    obtain ⟨address, hmem⟩ := mem_keys hkey
    exact (keys address key hmem).hashable
  updateScope depth hdepth other hother named := by
    rw [update_eq (h.level depth)]
    obtain hput | ⟨hbase, fault, count, hkind, hput⟩ := putEntries_scope hdepth (h.level depth)
      hother fun address _ key hkey => (keys address key hkey).hashable
    · exact .inl (bind_congr_first hput)
    · exact .inr ⟨hbase, fault, count, hkind, Render.bind_error hput⟩
  updatePairs depth given pairs hgiven hpairs hashable named := by
    rw [update_eq (h.level depth)]
    exact bind_congr_first (putEntries_pairs (h.level depth) hgiven hpairs hashable)
  keyFault act fault rest := keyFault_act h
  above act address hout := (moves_act h act).frame hout
  inside act loop := not_mem_level h
  noGain := keys_runAll h

/-- Two loops over a dictionary; all three layers have a variable of the same name. -/
def threeLayers : Store where
  cells := #[.dict [(.text ['x'], .int 1), (.text ['y'], .none)],
    .dict [(.text ['x'], .int 2), (.text ['i'], .int 0)], .dict [(.text ['x'], .int 3)]]

theorem touchesOneLayer_threeLayers :
    threeLayers.Holds ([2, 1] ++ [0])
      ∧ (∀ address, ∀ key ∈ (threeLayers.dict address).keys, key.IsKey)
      ∧ TouchesOneLayer threeLayers [2, 1] 0 := by
  have holds : threeLayers.Holds ([2, 1] ++ [0]) := by
    refine ⟨by decide, ?_⟩
    intro address mem
    obtain rfl | rfl | rfl : address = 2 ∨ address = 1 ∨ address = 0 := by simpa using mem
    · exact ⟨_, rfl⟩
    · exact ⟨_, rfl⟩
    · exact ⟨_, rfl⟩
  have isKey (name : Text) : (Value.text name).IsKey := ⟨rfl, by simp [BEq.beq, Value.sameKey]⟩
  have keys : ∀ address, ∀ key ∈ (threeLayers.dict address).keys, key.IsKey := by
    intro address key hkey
    obtain _ | _ | _ | address := address
    · obtain rfl | rfl : key = .text ['x'] ∨ key = .text ['y'] := by
        simpa [Store.dict, threeLayers, Table.keys] using hkey
      · exact isKey ['x']
      · exact isKey ['y']
    · obtain rfl | rfl : key = .text ['x'] ∨ key = .text ['i'] := by
        simpa [Store.dict, threeLayers, Table.keys] using hkey
      · exact isKey ['x']
      · exact isKey ['i']
    · obtain rfl : key = .text ['x'] := by
        simpa [Store.dict, threeLayers, Table.keys] using hkey
      exact isKey ['x']
    · cases hkey
  exact ⟨holds, keys, touchesOneLayer holds keys⟩

end Stencil.Script
