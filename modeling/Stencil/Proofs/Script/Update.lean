import Stencil.Proofs.Script.Stack

/-!
# Updating mappings

`update` puts the entries of another mapping into a mapping, one after another and each like an
assignment. A dictionary takes them all; a scope goes through the other mapping meanwhile, and fails
when the dictionary below it got a new key that the other mapping, which has this dictionary too, did
not have when it was begun (`putEntries_scope`).

The keys of a layer are read when the loop gets to it, after keys were put that the layers before it
have. Only the dictionary below can get a key in this way, and just these layers hide it there: what
the loop comes to is what was visible when it began (`Store.Grown`).
-/

namespace Stencil.Script

open Render (after)
open Eval Call

variable {store : Store} {layers chain other : Chain} {base address : Address} {key value : Value}

theorem Store.writeScope_writeScope {first last : Scope Value Value} (h : store.Holds chain)
    (hfirst : first.length = chain.length) (hlast : last.length = chain.length) :
    (store.writeScope chain first).writeScope chain last = store.writeScope chain last := by
  refine Store.ext_cells fun address => ?_
  by_cases hmem : address ∈ chain
  · obtain ⟨place, hplace⟩ := List.getElem?_of_mem hmem
    obtain ⟨hlt, -⟩ := List.getElem?_eq_some_iff.1 hplace
    have hlayer := List.getElem?_eq_getElem (hlast ▸ hlt : place < last.length)
    rw [Store.cells_writeScope (h.writeScope hfirst) hplace hlayer,
      Store.cells_writeScope h hplace hlayer]
  · rw [Store.cells_writeScope_of_not_mem hmem, Store.cells_writeScope_of_not_mem hmem,
      Store.cells_writeScope_of_not_mem hmem]

theorem Store.length_scope : (store.scope chain).length = chain.length :=
  List.length_map _

/-! ### Assigning in turn -/

/-- Assign entries to a mapping, one after another. -/
def setEach (chain : Chain) (entries : List (Value × Value)) : Eval Unit :=
  entries.forM fun entry => Operation.assign (.mapping chain) entry.1 entry.2

/-- Assign to a mapping what another one has for some keys, one after another. -/
def setFrom (chain other : Chain) (keys : List Value) : Eval Unit :=
  keys.forM fun key => do
    Operation.assign (.mapping chain) key (← Operation.subscript (.mapping other) key)

/-- Setting entries one by one is the same as putting all of them, if every key can be hashed. -/
theorem setEach_eq {entries : List (Value × Value)} (h : store.Holds chain)
    (hashable : ∀ entry ∈ entries, entry.1.notHashable? = none) :
    setEach chain entries store
      = .ok () (store.writeScope chain ((store.scope chain).putAll entries)) := by
  induction entries generalizing store with
  | nil =>
      show EStateM.Result.ok () store = .ok () (store.writeScope chain (store.scope chain))
      rw [Store.writeScope_scope h]
  | cons entry entries ih =>
      obtain ⟨hentry, hrest⟩ := List.forall_mem_cons.1 hashable
      have hput : ((store.scope chain).put entry.1 entry.2).length = chain.length :=
        Scope.length_put.trans Store.length_scope
      have hall : (Scope.putAll entries ((store.scope chain).put entry.1 entry.2)).length
          = chain.length :=
        (Scope.isKept_keeps.putAll).length.trans hput
      show (do
        Operation.assign (.mapping chain) entry.1 entry.2
        setEach chain entries : Eval Unit) store = _
      rw [Render.bind_ok (assign_eq_writeScope hentry), ih (h.writeScope hput) hrest,
        Store.scope_writeScope h hput, Store.writeScope_writeScope h hput hall]
      rfl

theorem hashable_namedEntries {named : List (Text × Value)} :
    ∀ entry ∈ namedEntries named, entry.1.notHashable? = none := by
  intro entry hentry
  obtain ⟨argument, -, rfl⟩ := List.mem_map.1 hentry
  rfl

theorem holds_putEntries {given : Value} {mid : Store} (h : store.Holds chain)
    (hput : putEntries chain given store = .ok () mid) : mid.Holds chain := by
  obtain ⟨hmoves, -⟩ : ObeysAt (MovesOnly chain) (fun _ => True) store (putEntries chain given) :=
    movesOnly_putEntries store
  rw [hput] at hmoves
  exact (hmoves h).holds

/-- `update` takes the entries of its argument first, and then those given by name. -/
theorem update_eq {given : Value} {named : List (Text × Value)} (h : store.Holds chain) :
    ofMapping chain .update ⟨[given], named⟩ store = (do
      putEntries chain given
      setEach chain (namedEntries named)
      return .none : Eval Value) store := by
  have hupdate : ofMapping chain .update ⟨[given], named⟩ store = (do
      putEntries chain given
      Eval.writeScope chain ((← Eval.scope chain).putAll (namedEntries named))
      return .none : Eval Value) store := rfl
  rw [hupdate]
  cases hput : putEntries chain given store with
  | error fault mid => rw [Render.bind_error hput, Render.bind_error hput]
  | ok done mid =>
      have hmid : mid.Holds chain := holds_putEntries h hput
      rw [Render.bind_ok hput, Render.bind_ok hput,
        Render.bind_ok (setEach_eq hmid hashable_namedEntries)]
      rfl

theorem putEntries_dict (h : store.Holds [base])
    (hashable : ∀ entry ∈ (store.scope other).items, entry.1.notHashable? = none) :
    putEntries [base] (.mapping other) store = setEach [base] (store.scope other).items store := by
  rw [setEach_eq h hashable]
  rfl

/-! ### Keys of dictionaries -/

mutual

/-- Every value is one key with itself, so a dictionary has the keys that it lists. -/
theorem Value.sameKey_self : (value : Value) → value.sameKey value
  | .tuple items => by
      rw [sameKey]
      exact sameKeys_self items
  | .method receiver m => by
      rw [sameKey, sameKey_self receiver, decide_eq_true rfl]
      rfl
  | .slice start stop step => by
      rw [sameKey, sameKey_self start, sameKey_self stop, sameKey_self step]
      rfl
  | .none | .bool _ | .int _ | .float _ | .text _ | .bytes _ | .range _ _ _ | .list _ | .set _
  | .mapping _ | .view _ _ | .builtin _ | .other _ => by
      simp [sameKey]

@[inherit_doc Value.sameKey_self]
theorem Value.sameKeys_self : (items : List Value) → sameKeys items items
  | [] => rfl
  | item :: rest => by
      rw [sameKeys, sameKey_self item, sameKeys_self rest]
      rfl

end

theorem Table.has_of_mem_keys {table : Table Value Value} (h : key ∈ table.keys) :
    table.has key := by
  rw [Table.has_eq_any_keys]
  exact List.any_eq_true.2 ⟨key, h, key.sameKey_self⟩

/-- In the store there is a dictionary with these keys. -/
def Store.HasKeys (store : Store) (address : Address) (keys : List Value) : Prop :=
  ∃ entries : Table Value Value, store.cells[address]? = some (.dict entries) ∧ entries.keys = keys

theorem Store.HasKeys.keys_dict {keys : List Value} (h : store.HasKeys address keys) :
    (store.dict address).keys = keys := by
  obtain ⟨entries, hentries, rfl⟩ := h
  rw [Store.dict_of_cell hentries]

/-- Only the base gets a key, since any other layer is written to only if it has the key already. -/
theorem Store.HasKeys.put {keys : List Value} (h : store.HasKeys address keys) :
    (store.change (store.home layers base key) (Table.put key value)).HasKeys address keys
      ∨ address = base ∧ (store.change (store.home layers base key)
          (Table.put key value)).HasKeys address (keys ++ [key]) := by
  obtain ⟨entries, hentries, rfl⟩ := h
  by_cases hhome : store.home layers base key = address
  · have hcell : (store.change (store.home layers base key) (Table.put key value)).cells[address]?
        = some (.dict (Table.put key value entries)) := by
      rw [hhome, Store.change, Store.dict_of_cell hentries,
        Store.cells_write_self (Store.lt_of_cell hentries)]
    by_cases hhas : Table.has entries key
    · exact .inl ⟨_, hcell, by rw [Table.keys_put, if_pos hhas]⟩
    · refine .inr ⟨?_, _, hcell, by rw [Table.keys_put, if_neg hhas]⟩
      unfold Store.home at hhome
      cases hholder : store.holder? layers key with
      | none =>
          rw [hholder] at hhome
          exact hhome.symm
      | some found =>
          have hfound := List.find?_some hholder
          rw [hholder, Option.getD_some] at hhome
          rw [hhome, Store.dict_of_cell hentries] at hfound
          exact absurd hfound hhas
  · exact .inl ⟨entries, (Store.cells_write_of_ne hhome).trans hentries, rfl⟩

/-! ### Going through another mapping -/

namespace Visit

/-- The visits to the entries of a mapping. -/
inductive Of (other : Chain) : Visit → Prop
  | check {address : Address} {size : Nat} (mem : address ∈ other) : Of other (.check address size)
  | entry {key : Value} (hashable : key.notHashable? = none) : Of other (.entry .items other key)

/-- The key that a visit is about. -/
def key? : Visit → Option Value
  | .entry _ _ key => some key
  | _ => none

/-- A check will be passed, unless it is one of a certain dictionary. -/
def Steady (base : Address) (store : Store) : Visit → Prop
  | .check address size => address ≠ base → ∃ keys, store.HasKeys address keys ∧ keys.length = size
  | _ => True

variable {size place : Nat} {visits rest : List Visit}

/-- A layer that still has its keys passes the check of its size. -/
theorem checkSize_eq {keys : List Value} (h : store.HasKeys address keys)
    (hlength : keys.length = size) : checkSize address size store = .ok () store := by
  obtain ⟨entries, hentries, rfl⟩ := h
  rw [Table.keys, List.length_map] at hlength
  rw [checkSize, Render.bind_ok get_eq, hentries]
  dsimp only
  rw [if_pos hlength]
  rfl

/-- Dictionaries but for the base keep their size when something is put. -/
theorem Steady.put {visit : Visit} (h : visit.Steady base store) :
    visit.Steady base
      (store.change (store.home layers base key) (Table.put key value)) := by
  cases visit with
  | item _ => trivial
  | entry _ _ _ => trivial
  | check address size =>
      intro hbase
      obtain ⟨keys, hkeys, hlength⟩ := h hbase
      obtain hsame | ⟨heq, -⟩ := hkeys.put
      · exact ⟨keys, hsame, hlength⟩
      · exact absurd heq hbase

/-- A check fails only if it is of the base. -/
theorem checkSize_steady (h : (Visit.check address size).Steady base store)
    (mem : address ∈ other) : checkSize address size store = .ok () store
      ∨ base ∈ other ∧ ∃ fault, fault.kind = .changed
        ∧ checkSize address size store = .error fault store := by
  by_cases hbase : address = base
  · obtain ⟨hsame, hkind⟩ := obeys_checkSize address size store
    cases hrun : checkSize address size store with
    | ok done rest =>
        rw [hrun] at hsame
        exact .inl (congrArg (EStateM.Result.ok ()) (show store = rest from hsame).symm)
    | error fault rest =>
        rw [hrun] at hsame
        exact .inr ⟨hbase ▸ mem, fault, hkind fault rest hrun,
          congrArg (EStateM.Result.error fault) (show store = rest from hsame).symm⟩
  · obtain ⟨keys, hkeys, hlength⟩ := h hbase
    exact .inl (checkSize_eq hkeys hlength)

theorem item?_entry (hkey : key.notHashable? = none) :
    (Visit.entry .items other key).item? store = (do
      let value ← Operation.subscript (.mapping other) key
      return some (.tuple [key, value]) : Eval (Option Value)) store := by
  have hread : Operation.subscript (.mapping other) key store = _ := subscript_eq hkey
  rw [Visit.item?, Render.bind_ok scope_eq]
  cases hget : (store.scope other).get? key with
  | none =>
      rw [hget] at hread
      exact missing_eq.trans (Render.bind_error hread).symm
  | some value =>
      rw [hget] at hread
      refine Eq.trans ?_ (Render.bind_ok hread).symm
      rfl

end Visit

theorem entryOf_pair {place : Nat} :
    entryOf chain (.tuple [key, value]) place store = .ok (key, value) store := by
  cases chain with
  | nil => rfl
  | cons address outer => cases outer <;> rfl

/-- A visit that shows a pair assigns it. -/
theorem putVisited_pair {place : Nat} {visit : Visit} {rest : List Visit}
    (h : visit.item? store = .ok (some (.tuple [key, value])) store)
    (hkey : key.notHashable? = none) :
    putVisited chain place (visit :: rest) store = (do
      Operation.assign (.mapping chain) key value
      putVisited chain (place + 1) rest : Eval Unit) store := by
  rw [putVisited, Render.bind_ok h]
  show (entryOf chain (.tuple [key, value]) place >>= fun entry => _) store = _
  rw [Render.bind_ok entryOf_pair, Render.bind_ok (assign_eq_writeScope hkey)]
  show (checkKey key >>= fun _ => _) store = _
  rw [checkKey_eq hkey]
  rfl

/-- A visit to an entry reads it and assigns it, or fails in reading it. -/
theorem putVisited_entry (other : Chain) (place : Nat) (rest : List Visit)
    (h : store.Holds (layers ++ [base])) (hkey : key.notHashable? = none) :
    (∃ fault, putVisited (layers ++ [base]) place (.entry .items other key :: rest) store
          = .error fault store
        ∧ ∀ keys, setFrom (layers ++ [base]) other (key :: keys) store = .error fault store)
      ∨ ∃ value, putVisited (layers ++ [base]) place (.entry .items other key :: rest) store
          = putVisited (layers ++ [base]) (place + 1) rest
              (store.change (store.home layers base key) (Table.put key value))
        ∧ ∀ keys, setFrom (layers ++ [base]) other (key :: keys) store
          = setFrom (layers ++ [base]) other keys
              (store.change (store.home layers base key) (Table.put key value)) := by
  have hread : Operation.subscript (.mapping other) key store = _ := subscript_eq hkey
  have hitem : (Visit.entry .items other key).item? store = _ := Visit.item?_entry hkey
  cases hget : (store.scope other).get? key with
  | none =>
      rw [hget] at hread
      rw [Render.bind_error hread] at hitem
      refine .inl ⟨_, ?_, fun keys => Render.bind_error (Render.bind_error hread)⟩
      rw [putVisited, Render.bind_error hitem]
  | some value =>
      rw [hget] at hread
      rw [Render.bind_ok hread] at hitem
      have hassign : Operation.assign (.mapping (layers ++ [base])) key value store = _ :=
        assign_eq h hkey
      refine .inr ⟨value, ?_, fun keys => Render.bind_ok ((Render.bind_ok hread).trans hassign)⟩
      rw [putVisited_pair hitem hkey, Render.bind_ok hassign]

/-- How going through keys may end before its time: something changed after some of them. -/
def StopsWithin {α : Type} (chain other : Chain) (keys : List Value) (store : Store)
    (result : EStateM.Result Fault Store α) : Prop :=
  ∃ fault count, fault.kind = .changed
    ∧ result = .error fault (after (setFrom chain other (keys.take count) store))

/-- Visits are followed up by setting their keys in order; or the base has grown meanwhile and the
loop stops there, with part of the keys set. -/
theorem putVisited_eq {visits : List Visit} (place : Nat)
    (h : store.Holds (layers ++ [base])) (hof : ∀ visit ∈ visits, visit.Of other)
    (steady : ∀ visit ∈ visits, visit.Steady base store) :
    putVisited (layers ++ [base]) place visits store
        = setFrom (layers ++ [base]) other (visits.filterMap Visit.key?) store
      ∨ base ∈ other ∧ StopsWithin (layers ++ [base]) other (visits.filterMap Visit.key?) store
          (putVisited (layers ++ [base]) place visits store) := by
  induction visits generalizing store place with
  | nil => exact .inl rfl
  | cons visit rest ih =>
      obtain ⟨hvisit, hrest⟩ := List.forall_mem_cons.1 hof
      obtain ⟨hsteady, hmore⟩ := List.forall_mem_cons.1 steady
      -- A check sets no key: it passes, or it stops the loop because the base has grown. An entry
      -- sets one.
      cases hvisit with
      | check mem =>
          rename_i address size
          have hkeys : (Visit.check address size :: rest).filterMap Visit.key?
              = rest.filterMap Visit.key? := rfl
          rw [hkeys]
          obtain hcheck | ⟨hbase, fault, hkind, hcheck⟩ := Visit.checkSize_steady hsteady mem
          · have hitem : (Visit.check address size).item? store = .ok none store := by
              rw [Visit.item?, Render.bind_ok hcheck]
              rfl
            rw [putVisited, Render.bind_ok hitem]
            exact ih place h hrest hmore
          · have hitem : (Visit.check address size).item? store = .error fault store := by
              rw [Visit.item?, Render.bind_error hcheck]
            rw [putVisited, Render.bind_error hitem]
            exact .inr ⟨hbase, fault, 0, hkind, rfl⟩
      | entry hkey =>
          rename_i key
          have hkeys : (Visit.entry .items other key :: rest).filterMap Visit.key?
              = key :: rest.filterMap Visit.key? := rfl
          rw [hkeys]
          obtain ⟨fault, hput, hset⟩ | ⟨value, hput, hset⟩ :=
            putVisited_entry other place rest h hkey
          · exact .inl (hput.trans (hset _).symm)
          · rw [hput, hset]
            obtain hrun | ⟨hbase, fault, count, hkind, hrun⟩ :=
              ih (place + 1) h.change hrest fun visit hmem => (hmore visit hmem).put
            · exact .inl hrun
            · refine .inr ⟨hbase, fault, count + 1, hkind, ?_⟩
              rw [hrun, List.take_succ_cons, hset]

/-! ### What is gone through -/

namespace Stretch

variable {kind : ViewKind} {hidden : Scope Value Value} {inner outer : Chain} {size? : Option Nat}

/-- What a stretch consists of: checks, and the keys of its layer that are not hidden. -/
theorem mem_visits {visit : Visit}
    (h : visit ∈ (layer kind chain hidden address size?).visits store) :
    visit = .check address (size?.getD (store.dict address).length)
      ∨ ∃ key ∈ (store.dict address).keys, hidden.has key = false
        ∧ visit = .entry kind chain key := by
  obtain hlayer | hlast := List.mem_append.1 h
  · obtain ⟨key, hkey, hvisit⟩ := List.mem_flatMap.1 hlayer
    cases hhidden : hidden.has key with
    | true =>
        rw [hhidden, if_pos rfl, List.mem_singleton, List.length_map] at hvisit
        exact .inl hvisit
    | false =>
        rw [hhidden, if_neg Bool.false_ne_true, List.length_map] at hvisit
        obtain heq | heq := List.mem_cons.1 hvisit
        · exact .inl heq
        · exact .inr ⟨key, hkey, hhidden, List.mem_singleton.1 heq⟩
  · rw [List.mem_singleton, List.length_map] at hlast
    exact .inl hlast

/-- What a layer shows are its keys that are not hidden. -/
theorem filterMap_key?_visits :
    ((layer .items other hidden address size?).visits store).filterMap Visit.key?
      = (store.dict address).keys.filter fun key => !hidden.has key := by
  have hlayer (check : Visit) (hcheck : check.key? = none) (keys : List Value) :
      (keys.flatMap fun key => if hidden.has key then [check]
          else [check, .entry .items other key]).filterMap Visit.key?
        = keys.filter fun key => !hidden.has key := by
    induction keys with
    | nil => rfl
    | cons key keys ih =>
        rw [List.flatMap_cons, List.filterMap_append, ih, List.filter_cons]
        cases hidden.has key with
        | true => simp [hcheck]
        | false =>
            simp only [Bool.false_eq_true, if_false, Bool.not_false, if_true]
            rw [List.filterMap_cons_none hcheck]
            rfl
  rw [visits, List.filterMap_append, hlayer _ rfl, List.filterMap_cons_none rfl]
  exact List.append_nil _

/-- The visible keys of several layers are those of the first one and what it leaves visible. -/
theorem filter_keys_scope : ((store.scope (address :: outer)).keys.filter fun key =>
      !(store.scope inner).has key)
    = ((store.dict address).keys.filter fun key => !(store.scope inner).has key)
      ++ (store.scope outer).keys.filter fun key => !(store.scope (address :: inner)).has key := by
  have hscope : (store.scope (address :: outer)).keys = (store.dict address).keys
      ++ (store.scope outer).keys.filter fun key => !Table.has (store.dict address) key := rfl
  have houter : (fun key => !(store.scope (address :: inner)).has key)
      = fun key => !(store.scope inner).has key && !Table.has (store.dict address) key := by
    funext key
    show (!(Table.has (store.dict address) key || (store.scope inner).has key)) = _
    rw [Bool.not_or, Bool.and_comm]
  rw [hscope, List.filter_append, List.filter_filter, houter]

end Stretch

/-- How far a store has come from the one where a loop began, when the layers `inner` are behind it:
a dictionary has the keys that it had. The base may have got more, which these layers hide. -/
def Store.Grown (start : Store) (base : Address) (inner : Chain) (address : Address)
    (store : Store) : Prop :=
  ∃ more, store.HasKeys address ((start.dict address).keys ++ more)
    ∧ (address ≠ base → more = []) ∧ ∀ key ∈ more, (start.scope inner).has key

namespace Store.Grown

variable {start : Store} {inner : Chain}

theorem refl (dict : ∃ entries, store.cells[address]? = some (.dict entries)) :
    store.Grown base inner address store := by
  obtain ⟨entries, hentries⟩ := dict
  refine ⟨[], ⟨entries, hentries, ?_⟩, fun _ => rfl, by simp⟩
  rw [List.append_nil, Store.dict_of_cell hentries]

theorem cons (h : start.Grown base inner address store) (next : Address) :
    start.Grown base (next :: inner) address store := by
  obtain ⟨more, hkeys, hbase, hmore⟩ := h
  refine ⟨more, hkeys, hbase, fun key hkey => ?_⟩
  show (Table.has (start.dict next) key || (start.scope inner).has key) = true
  rw [hmore key hkey, Bool.or_true]

/-- A write to a key that the passed layers have grows none of the layers that are still to come,
apart from the base. -/
theorem put (h : start.Grown base inner address store) (hkey : (start.scope inner).has key) :
    start.Grown base inner address
      (store.change (store.home layers base key) (Table.put key value)) := by
  obtain ⟨more, hkeys, hbase, hmore⟩ := h
  have hcases : (store.change (store.home layers base key) (Table.put key value)).HasKeys address _
      ∨ _ := hkeys.put
  obtain hsame | ⟨rfl, hput⟩ := hcases
  · exact ⟨more, hsame, hbase, hmore⟩
  · refine ⟨more ++ [key], ?_, fun ne => absurd rfl ne, fun other mem => ?_⟩
    · rwa [← List.append_assoc]
    · obtain hold | hnew := List.mem_append.1 mem
      · exact hmore other hold
      · rwa [List.mem_singleton.1 hnew]

/-- What is visible of a layer is what was visible of it. -/
theorem filter_keys (h : start.Grown base inner address store) :
    ((store.dict address).keys.filter fun key => !(start.scope inner).has key)
      = (start.dict address).keys.filter fun key => !(start.scope inner).has key := by
  obtain ⟨more, hkeys, -, hmore⟩ := h
  have hidden : (more.filter fun key => !(start.scope inner).has key) = [] :=
    List.filter_eq_nil_iff.2 fun key hkey => by simp [hmore key hkey]
  rw [hkeys.keys_dict, List.filter_append, hidden, List.append_nil]

/-- A layer other than the base is as large as it was, so its checks are passed. -/
theorem steady {kind : ViewKind} (h : start.Grown base inner address store) {last : Bool}
    {visit : Visit}
    (mem : visit ∈ (Stretch.layer kind chain (start.scope inner) address
      (if last then some (start.dict address).length else none)).visits store) :
    visit.Steady base store := by
  obtain rfl | ⟨key, -, -, rfl⟩ := Stretch.mem_visits mem
  · intro hbase
    obtain ⟨more, hkeys, hnone, -⟩ := h
    rw [hnone hbase, List.append_nil] at hkeys
    refine ⟨_, hkeys, ?_⟩
    have hlength := congrArg List.length hkeys.keys_dict
    rw [Table.keys, Table.keys, List.length_map, List.length_map] at hlength
    rw [Table.keys, List.length_map]
    cases last with
    | true => rfl
    | false => exact hlength.symm
  · trivial

/-- Assigning keys that the layers behind have lets a store come no further. -/
theorem setFrom {addresses : Chain} {keys : List Value} {rest : Store}
    (grown : ∀ address ∈ addresses, start.Grown base inner address store)
    (h : store.Holds (layers ++ [base]))
    (hkeys : ∀ key ∈ keys, key.notHashable? = none ∧ (start.scope inner).has key)
    (hrun : Script.setFrom (layers ++ [base]) other keys store = .ok () rest) :
    rest.Holds (layers ++ [base])
      ∧ ∀ address ∈ addresses, start.Grown base inner address rest := by
  induction keys generalizing store with
  | nil =>
      cases hrun
      exact ⟨h, grown⟩
  | cons key keys ih =>
      obtain ⟨⟨hkey, hhas⟩, hrest⟩ := List.forall_mem_cons.1 hkeys
      obtain ⟨fault, -, hset⟩ | ⟨value, -, hset⟩ := putVisited_entry other 0 [] h hkey
      · rw [hset] at hrun
        cases hrun
      · rw [hset] at hrun
        exact ih (fun address mem => (grown address mem).put hhas) h.change hrest hrun

end Store.Grown

theorem setFrom_append {first second : List Value} :
    setFrom chain other (first ++ second) = (do
      setFrom chain other first
      setFrom chain other second) :=
  List.forM_append ..

/-- Going through one layer puts the keys that are its own. -/
theorem putVisited_layer {start : Store} {inner : Chain} {own : List Value}
    (h : store.Holds (layers ++ [base])) (mem : address ∈ other)
    (grown : start.Grown base inner address store)
    (hashable : ∀ key ∈ (start.dict address).keys, key.notHashable? = none)
    (hown : ((start.dict address).keys.filter fun key => !(start.scope inner).has key) = own)
    (last : Bool) :
    let visits := (Stretch.layer .items other (start.scope inner) address
      (if last then some (start.dict address).length else none)).visits store
    putVisited (layers ++ [base]) 0 visits store = setFrom (layers ++ [base]) other own store
      ∨ base ∈ other ∧ StopsWithin (layers ++ [base]) other own store
          (putVisited (layers ++ [base]) 0 visits store) := by
  intro visits
  have visible := grown.filter_keys.trans hown
  have hof : ∀ visit ∈ visits, visit.Of other := by
    intro visit hvisit
    obtain rfl | ⟨key, hkey, hhidden, rfl⟩ := Stretch.mem_visits hvisit
    · exact .check mem
    · have hmem : key ∈ own := by
        rw [← visible]
        exact List.mem_filter.2 ⟨hkey, by rw [hhidden]; rfl⟩
      rw [← hown] at hmem
      exact .entry (hashable key (List.mem_of_mem_filter hmem))
  have hvisited := putVisited_eq 0 h hof fun visit hvisit => grown.steady hvisit
  rwa [Stretch.filterMap_key?_visits, visible] at hvisited

/-- Going through layers one after another puts what was visible of them when the loop began. -/
theorem putStretches_eq {start : Store} {inner outer : Chain}
    (h : store.Holds (layers ++ [base])) (houter : ∀ address ∈ outer, address ∈ other)
    (grown : ∀ address ∈ other, start.Grown base inner address store)
    (hashable : ∀ address ∈ other, ∀ key ∈ (start.dict address).keys, key.notHashable? = none)
    {keys : List Value}
    (visible : ((start.scope outer).keys.filter fun key => !(start.scope inner).has key) = keys) :
    putStretches (layers ++ [base]) (Stretch.ofLayers start .items other inner outer) store
        = setFrom (layers ++ [base]) other keys store
      ∨ base ∈ other ∧ StopsWithin (layers ++ [base]) other keys store
          (putStretches (layers ++ [base]) (Stretch.ofLayers start .items other inner outer)
            store) := by
  induction outer generalizing inner store keys with
  | nil =>
      subst visible
      exact .inl rfl
  | cons address outer ih =>
      obtain ⟨mem, hrest⟩ := List.forall_mem_cons.1 houter
      rw [Stretch.filter_keys_scope] at visible
      generalize hown : ((start.dict address).keys.filter fun key =>
        !(start.scope inner).has key) = own at visible
      subst visible
      -- The visits of this layer are the keys that are its own.
      let size? := if outer.isEmpty then some (start.dict address).length else none
      let visits := (Stretch.layer .items other (start.scope inner) address size?).visits store
      have hvisited := putVisited_layer h mem (grown address mem) (hashable address mem) hown
        outer.isEmpty
      have hput : putStretches (layers ++ [base])
            (Stretch.ofLayers start .items other inner (address :: outer)) store = (do
          putVisited (layers ++ [base]) 0 visits
          putStretches (layers ++ [base])
            (Stretch.ofLayers start .items other (address :: inner) outer) : Eval Unit) store := rfl
      rw [hput]
      obtain hrun | ⟨hbase, fault, count, hkind, hrun⟩ := hvisited
      · cases hset : setFrom (layers ++ [base]) other own store with
        | error fault rest =>
            rw [hset] at hrun
            rw [Render.bind_error hrun, setFrom_append, Render.bind_error hset]
            exact .inl rfl
        | ok done rest =>
            rw [hset] at hrun
            have hkeys : ∀ key ∈ own, key.notHashable? = none
                ∧ (start.scope (address :: inner)).has key := by
              intro key hkey
              rw [← hown] at hkey
              have hfound := List.mem_of_mem_filter hkey
              exact ⟨hashable address mem key hfound, List.any_eq_true.2
                ⟨start.dict address, List.mem_cons_self, Table.has_of_mem_keys hfound⟩⟩
            obtain ⟨hholds, hgrown⟩ := Store.Grown.setFrom
              (fun found hmem => (grown found hmem).cons address) h hkeys hset
            rw [Render.bind_ok hrun, setFrom_append, Render.bind_ok hset]
            obtain hsame | ⟨hbase, fault, count, hkind, hstops⟩ := ih hholds hrest hgrown rfl
            · exact .inl hsame
            · refine .inr ⟨hbase, fault, own.length + count, hkind, ?_⟩
              rw [hstops, List.take_length_add_append, setFrom_append, Render.bind_ok hset]
      · refine .inr ⟨hbase, fault, min count own.length, hkind, ?_⟩
        rw [Render.bind_error hrun, List.take_append_of_le_length (Nat.min_le_right ..),
          ← List.take_eq_take_min]

/-- **Another mapping** is put into a scope by going through its keys, up to a change of the base. -/
theorem putEntries_scope (hlayers : layers ≠ []) (h : store.Holds (layers ++ [base]))
    (dict : ∀ address ∈ other, ∃ entries, store.cells[address]? = some (.dict entries))
    (hashable : ∀ address ∈ other, ∀ key ∈ (store.dict address).keys, key.notHashable? = none) :
    putEntries (layers ++ [base]) (.mapping other) store
        = setFrom (layers ++ [base]) other (store.scope other).keys store
      ∨ base ∈ other ∧ StopsWithin (layers ++ [base]) other (store.scope other).keys store
          (putEntries (layers ++ [base]) (.mapping other) store) := by
  have hput : putEntries (layers ++ [base]) (.mapping other) store
      = putStretches (layers ++ [base]) (Stretch.ofLayers store .items other [] other) store := by
    cases layers with
    | nil => exact absurd rfl hlayers
    | cons address layers => cases layers <;> rfl
  have visible : ((store.scope other).keys.filter fun key => !(store.scope []).has key)
      = (store.scope other).keys := List.filter_eq_self.2 fun _ _ => rfl
  rw [hput]
  exact putStretches_eq h (fun _ => id) (fun address mem => .refl (dict address mem)) hashable visible

/-- Pairs that are there already are set in order, whatever place the first of them has. -/
theorem putVisited_pairs {pairs : List (Value × Value)} (place : Nat) (h : store.Holds chain)
    (hashable : ∀ pair ∈ pairs, pair.1.notHashable? = none) :
    putVisited chain place (pairs.map fun pair => .item (.tuple [pair.1, pair.2])) store
      = setEach chain pairs store := by
  induction pairs generalizing store place with
  | nil => rfl
  | cons pair pairs ih =>
      obtain ⟨hpair, hrest⟩ := List.forall_mem_cons.1 hashable
      have hassign : Operation.assign (.mapping chain) pair.1 pair.2 store = _ :=
        assign_eq_writeScope hpair
      have hholds :
          (store.writeScope chain ((store.scope chain).put pair.1 pair.2)).Holds chain :=
        h.writeScope (Scope.length_put.trans Store.length_scope)
      show _ = (do
        Operation.assign (.mapping chain) pair.1 pair.2
        setEach chain pairs : Eval Unit) store
      rw [List.map_cons, putVisited_pair rfl hpair, Render.bind_ok hassign, Render.bind_ok hassign]
      exact ih (place + 1) hholds hrest

/-- **Pairs** are put into a mapping one after another. -/
theorem putEntries_pairs {given : Value} {pairs : List (Value × Value)}
    (h : store.Holds chain) (hgiven : ∀ other, given ≠ .mapping other)
    (hpairs : Stretch.ofValue? store given
      = some [.known (pairs.map fun pair => .item (.tuple [pair.1, pair.2]))])
    (hashable : ∀ pair ∈ pairs, pair.1.notHashable? = none) :
    putEntries chain given store = setEach chain pairs store := by
  -- Pairs that are known from the beginning make one stretch of items, with no check in between.
  have hput : putEntries chain given store
      = putVisited chain 0 (pairs.map fun pair => .item (.tuple [pair.1, pair.2])) store := by
    unfold putEntries
    split
    · exact absurd rfl (hgiven _)
    · have hsame : pairsOf given = given := by
        cases given with
        | mapping other => exact absurd rfl (hgiven other)
        | _ => rfl
      rw [Render.bind_ok get_eq, hsame, hpairs]
      show (putVisited chain 0 _ >>= fun _ => pure ()) store = _
      rw [bind_pure_unit]
      rfl
  rw [hput, putVisited_pairs 0 h hashable]

/-! ### No key is missed -/

/-- What is so of every key of a dictionary: it can be a key, and is the same key as itself. -/
structure Value.IsKey (key : Value) : Prop where
  hashable : key.notHashable? = Option.none
  same : key == key

theorem Store.dict_change {f : Table Value Value → Table Value Value} {found : Address} :
    (store.change address f).dict found = store.dict found
      ∨ (store.change address f).dict found = f (store.dict found) := by
  by_cases heq : address = found
  · by_cases hlt : address < store.cells.size
    · refine .inr ?_
      rw [← heq]
      exact Store.dict_of_cell (Store.cells_write_self hlt)
    · refine .inl (Store.dict_of_cells ?_)
      rw [← heq]
      exact congrArg (·[address]?) (Array.setIfInBounds_eq_of_size_le (Nat.le_of_not_lt hlt))
  · exact .inl (Store.dict_of_cells (Store.cells_write_of_ne heq))

/-- Putting something takes no key away. -/
theorem Store.has_change_put {k : Value}
    (h : (store.scope chain).has k) :
    ((store.change address (Table.put key value)).scope chain).has k := by
  obtain ⟨layer, hlayer, hhas⟩ := List.any_eq_true.1 h
  obtain ⟨found, hfound, rfl⟩ := List.mem_map.1 hlayer
  refine List.any_eq_true.2 ⟨_, List.mem_map.2 ⟨found, hfound, rfl⟩, ?_⟩
  obtain hsame | hput : (store.change address (Table.put key value)).dict found = store.dict found
      ∨ (store.change address (Table.put key value)).dict found
        = Table.put key value (store.dict found) := Store.dict_change
  · rwa [hsame]
  · rw [hput, Table.has_eq_any_keys, Table.keys_put]
    rw [Table.has_eq_any_keys] at hhas
    split
    · exact hhas
    · rw [List.any_append, hhas]
      rfl

namespace Visit

/-- A visit finds what it looks up. -/
def Answered (store : Store) : Visit → Prop
  | .entry _ chain key => (store.scope chain).has key
  | _ => True

/-- A visit that is answered takes a value that is there, so it misses no key. -/
theorem Answered.inspects {visit : Visit} (h : visit.Answered store) :
    ObeysAt Eq (fun fault => fault.kind ≠ .key) store visit.item? := by
  cases visit with
  | check address size =>
      have hcheck : Obeys Eq (fun fault => fault.kind ≠ .key) (checkSize address size) := by
        refine (obeys_checkSize address size).mono (fun _ _ => id) ?_
        intro fault hkind
        rw [hkind]
        simp
      exact obeys_bind hcheck (fun _ => obeys_pure _) store
  | item value => exact obeys_pure (some value) store
  | entry kind chain key =>
      rw [Answered, Scope.has_eq_isSome_get?, Option.isSome_iff_exists] at h
      obtain ⟨value, hvalue⟩ := h
      have hitem : ∃ shown, (Visit.entry kind chain key).item? store = .ok (some shown) store := by
        rw [Visit.item?, Render.bind_ok scope_eq, hvalue]
        cases kind with
        | keys => exact ⟨key, rfl⟩
        | values => exact ⟨value, rfl⟩
        | items => exact ⟨.tuple [key, value], rfl⟩
      obtain ⟨shown, hshown⟩ := hitem
      rw [ObeysAt, hshown]
      exact ⟨rfl, fun _ _ h => by cases h⟩

end Visit

/-- Whenever a stretch begins, its visits find what they look up. -/
def Stretch.IsAnswered (stretch : Stretch) : Prop :=
  ∀ store : Store, ∀ visit ∈ stretch.visits store, visit.Answered store

theorem Stretch.isAnswered_layer {kind : ViewKind} {hidden : Scope Value Value} {size? : Option Nat}
    (mem : address ∈ chain) : (layer kind chain hidden address size?).IsAnswered := by
  intro store visit hvisit
  obtain rfl | ⟨key, hkey, -, rfl⟩ := mem_visits hvisit
  · trivial
  · exact List.any_eq_true.2
      ⟨store.dict address, List.mem_map_of_mem mem, Table.has_of_mem_keys hkey⟩

theorem Stretch.isAnswered_ofLayers {kind : ViewKind} {inner outer : Chain}
    (h : ∀ address ∈ outer, address ∈ chain) :
    ∀ stretch ∈ ofLayers store kind chain inner outer, stretch.IsAnswered := by
  induction outer generalizing inner with
  | nil => simp [ofLayers]
  | cons address outer ih =>
      obtain ⟨mem, hrest⟩ := List.forall_mem_cons.1 h
      exact List.forall_mem_cons.2 ⟨isAnswered_layer mem, ih hrest⟩

theorem Stretch.isAnswered_ofValue? {given : Value} {stretches : List Stretch}
    (h : ofValue? store given = some stretches) : ∀ stretch ∈ stretches, stretch.IsAnswered := by
  unfold ofValue? at h
  split at h
  · cases h
    exact isAnswered_ofLayers fun _ => id
  · cases h
    exact isAnswered_ofLayers fun _ => id
  · cases h
    refine List.forall_mem_singleton.2 fun store visit hvisit => ?_
    obtain hitem | hcheck := List.mem_append.1 hvisit
    · obtain ⟨item, -, hmem⟩ := List.mem_flatMap.1 hitem
      obtain rfl | hmem := List.mem_cons.1 hmem
      · trivial
      · rw [List.mem_singleton.1 hmem]
        trivial
    · rw [List.mem_singleton.1 hcheck]
      trivial
  · obtain ⟨found, -, rfl⟩ := Option.map_eq_some_iff.1 h
    refine List.forall_mem_singleton.2 fun store visit hvisit => ?_
    obtain ⟨value, -, rfl⟩ := List.mem_map.1 hvisit
    trivial

/-- A result that is no complaint about a missing key. -/
def MissesNoKey {α : Type} (result : EStateM.Result Fault Store α) : Prop :=
  ∀ fault rest, result = .error fault rest → fault.kind ≠ .key

theorem missesNoKey_error {α : Type} {fault : Fault} (h : fault.kind ≠ .key) :
    MissesNoKey (.error fault store : EStateM.Result Fault Store α) := by
  intro found rest hfound
  cases hfound
  exact h

theorem missesNoKey_ok {α : Type} {a : α} :
    MissesNoKey (.ok a store : EStateM.Result Fault Store α) := by
  intro found rest hfound
  cases hfound

theorem missesNoKey_putVisited {visits : List Visit} {place : Nat}
    (h : store.Holds (layers ++ [base])) (answered : ∀ visit ∈ visits, visit.Answered store) :
    MissesNoKey (putVisited (layers ++ [base]) place visits store) := by
  induction visits generalizing store place with
  | nil => exact missesNoKey_ok
  | cons visit rest ih =>
      obtain ⟨hvisit, hrest⟩ := List.forall_mem_cons.1 answered
      rw [putVisited]
      -- Each visit asks, takes the pair apart, checks the key and writes. Only the last of these
      -- changes the store, and a write takes no key away, so later visits are still answered.
      refine hvisit.inspects.bind_cases ?_ fun _ hfault => missesNoKey_error hfault
      intro item _
      cases item with
      | none => exact ih h hrest
      | some item =>
          refine (inspects_entryOf _ item place store).bind_cases ?_ fun _ hfault =>
            missesNoKey_error hfault
          rintro ⟨key, value⟩ -
          refine (inspects_checkKey key store).bind_cases ?_ fun _ hfault =>
            missesNoKey_error hfault
          intro _ _
          have hwrite : store.writeScope (layers ++ [base])
                ((store.scope (layers ++ [base])).put key value)
              = store.change (store.home layers base key) (Table.put key value) := by
            rw [Scope.put_eq_modify, Store.writeScope_modify h Store.getElem?_home]
          show MissesNoKey (putVisited (layers ++ [base]) (place + 1) rest
            (store.writeScope (layers ++ [base])
              ((store.scope (layers ++ [base])).put key value)))
          rw [hwrite]
          refine ih h.change ?_
          intro visit hmem
          have hanswered := hrest visit hmem
          cases visit with
          | entry kind chain k => exact Store.has_change_put hanswered
          | _ => trivial

/-- Keys only ever come to the base while `update` runs, and none goes, so every key that a stretch
asks for is still there when its turn comes. -/
theorem missesNoKey_putStretches {stretches : List Stretch} (h : store.Holds (layers ++ [base]))
    (answered : ∀ stretch ∈ stretches, stretch.IsAnswered) :
    MissesNoKey (putStretches (layers ++ [base]) stretches store) := by
  induction stretches generalizing store with
  | nil => exact missesNoKey_ok
  | cons stretch rest ih =>
      obtain ⟨hstretch, hrest⟩ := List.forall_mem_cons.1 answered
      have hput : putStretches (layers ++ [base]) (stretch :: rest) store = (do
          putVisited (layers ++ [base]) 0 (stretch.visits store)
          putStretches (layers ++ [base]) rest : Eval Unit) store := rfl
      have misses : MissesNoKey
          (putVisited (layers ++ [base]) 0 (stretch.visits store) store) :=
        missesNoKey_putVisited h (hstretch store)
      obtain ⟨hmoves, -⟩ : ObeysAt (MovesOnly (layers ++ [base])) (fun _ => True) store
          (putVisited (layers ++ [base]) 0 (stretch.visits store)) := movesOnly_putVisited store
      rw [hput]
      cases hrun : putVisited (layers ++ [base]) 0 (stretch.visits store) store with
      | error fault mid =>
          rw [Render.bind_error hrun]
          exact missesNoKey_error (misses fault mid hrun)
      | ok done mid =>
          rw [hrun] at hmoves
          rw [Render.bind_ok hrun]
          exact ih (hmoves h).holds hrest

theorem missesNoKey_putEntries {given : Value} (h : store.Holds (layers ++ [base])) :
    MissesNoKey (putEntries (layers ++ [base]) given store) := by
  generalize hchain : layers ++ [base] = chain
  unfold putEntries
  split
  · exact missesNoKey_ok
  · subst hchain
    rw [Render.bind_ok get_eq]
    cases hstretches : Stretch.ofValue? store (pairsOf given) with
    | none => exact missesNoKey_error (by simp [Fault.object])
    | some stretches =>
        exact missesNoKey_putStretches h (Stretch.isAnswered_ofValue? hstretches)

theorem missesNoKey_update {args : Arguments} (h : store.Holds (layers ++ [base])) :
    MissesNoKey (ofMapping (layers ++ [base]) .update args store) := by
  -- A dictionary and a scope word it differently when there are too many arguments, so the layers
  -- are taken apart.
  obtain ⟨positional, named⟩ := args
  obtain _ | ⟨given, _ | ⟨more, rest⟩⟩ := positional
  · exact missesNoKey_ok
  · rw [update_eq h]
    cases hrun : putEntries (layers ++ [base]) given store with
    | error fault mid =>
        rw [Render.bind_error hrun]
        exact missesNoKey_error (missesNoKey_putEntries h fault mid hrun)
    | ok done mid =>
        have hmid : mid.Holds (layers ++ [base]) := holds_putEntries h hrun
        rw [Render.bind_ok hrun, Render.bind_ok (setEach_eq hmid hashable_namedEntries)]
        exact missesNoKey_ok
  · obtain _ | ⟨inner, _ | ⟨next, outer⟩⟩ := layers
    · exact missesNoKey_error (by simp [Fault.type])
    · exact missesNoKey_error (by simp [Fault.type])
    · exact missesNoKey_error (by simp [Fault.type])

end Stencil.Script
