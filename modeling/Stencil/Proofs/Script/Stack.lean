import Stencil.Proofs.Script.Mapping
import Stencil.Proofs.Script.Variables

/-!
# Mappings read, written and deleted from

What the operations of a mapping come to, said of the dictionaries of its chain: writing changes one
of them (`assign_eq`), deleting changes the innermost that has the key (`delete_eq`), and `pop` and
`setdefault` are made of these.
-/

namespace Stencil.Script

open Render (after)
open Eval Call

variable {α β : Type} {store : Store} {chain : Chain} {key value : Value}

/-- The innermost dictionary of a chain that has a key. -/
def Store.holder? (store : Store) (chain : Chain) (key : Value) : Option Address :=
  chain.find? fun address => Table.has (store.dict address) key

/-- The dictionary that holds a key is the one at the place of its layer. -/
theorem Store.holder?_eq : store.holder? chain key =
    (Scope.layerOf? (store.scope chain) key).bind fun place => chain[place]? := by
  induction chain with
  | nil => rfl
  | cons address chain ih =>
      rw [holder?, List.find?_cons]
      have hscope : store.scope (address :: chain) = store.dict address :: store.scope chain := rfl
      rw [hscope, Scope.layerOf?_cons]
      cases Table.has (store.dict address) key with
      | true => rfl
      | false =>
          rw [← Store.holder?, ih]
          cases Scope.layerOf? (store.scope chain) key <;> rfl

/-- The key and what may stand in for its value, given by their places. -/
theorem keyArguments_positional (h : key.notHashable? = none) {method : Method}
    {default : Option Value} :
    keyArguments chain method ⟨key :: default.toList, []⟩ store = .ok (key, default) store := by
  have inDict (owner name : String) : between owner name 1 2 ⟨key :: default.toList, []⟩ store
      = .ok (key :: default.toList) store := by
    cases default <;> rfl
  have inScope (what : String) :
      Call.parameters what ["key"] ["default"] ⟨key :: default.toList, []⟩ store
        = .ok [some key, default] store := by
    cases default <;> rfl
  unfold keyArguments
  split
  · rw [Render.bind_ok (inDict _ _)]
    show (do checkKey key; return (key, (default.toList.map some).head?.join) : Eval _) store = _
    rw [checkKey_eq h]
    cases default <;> rfl
  · rw [Render.bind_ok (inScope _)]
    show (do checkKey key; return (key, [default].head?.join) : Eval _) store = _
    rw [checkKey_eq h]
    rfl

/-- The dictionary that a key is written to: the innermost of the layers that has it, or else the
one that they lie over. -/
def Store.home (store : Store) (layers : Chain) (base : Address) (key : Value) : Address :=
  (store.holder? layers key).getD base

variable {layers : Chain} {base : Address}

theorem Store.getElem?_home : (layers ++ [base])[(store.scope (layers ++ [base])).home key]?
    = some (store.home layers base key) := by
  induction layers with
  | nil => exact congrArg ([base][·]?) Scope.home_singleton
  | cons address layers ih =>
      have hne : store.scope (layers ++ [base]) ≠ [] := by simp [scope]
      have hscope : store.scope (address :: layers ++ [base])
          = store.dict address :: store.scope (layers ++ [base]) := rfl
      rw [hscope, Scope.home_cons hne, home, holder?, List.find?_cons]
      cases Table.has (store.dict address) key with
      | true => rfl
      | false =>
          rw [← Store.holder?, ← Store.home, ← ih]
          rfl

/-! ### Reading, writing and deleting -/

theorem subscript_eq (hkey : key.notHashable? = none) :
    Operation.subscript (.mapping chain) key store = match (store.scope chain).get? key with
      | some value => .ok value store
      | none => .error (store.noKey key) store := by
  rw [Operation.subscript, checkKey_eq hkey, pure_bind, Render.bind_ok scope_eq]
  cases (store.scope chain).get? key with
  | none => exact missing_eq
  | some value => rfl

/-- Assigning to a scope, as a write of all its layers. `assign_eq` says that only one of them
changes. -/
theorem assign_eq_writeScope (hkey : key.notHashable? = none) :
    Operation.assign (.mapping chain) key value store
      = .ok () (store.writeScope chain ((store.scope chain).put key value)) := by
  rw [Operation.assign, checkKey_eq hkey]
  rfl

/-- Deleting from a scope, as a write of all its layers, or a missing key. -/
theorem delete_eq_writeScope (hkey : key.notHashable? = none) :
    Operation.delete (.mapping chain) key store = match (store.scope chain).erase? key with
      | some rest => .ok () (store.writeScope chain rest)
      | none => .error (store.noKey key) store := by
  rw [Operation.delete, checkKey_eq hkey, pure_bind, Render.bind_ok scope_eq]
  cases (store.scope chain).erase? key with
  | none => exact missing_eq
  | some rest => rfl

theorem assign_eq (h : store.Holds (layers ++ [base])) (hkey : key.notHashable? = none) :
    Operation.assign (.mapping (layers ++ [base])) key value store
      = .ok () (store.change (store.home layers base key) (Table.put key value)) := by
  rw [assign_eq_writeScope hkey, Scope.put_eq_modify, Store.writeScope_modify h Store.getElem?_home]

theorem delete_eq (h : store.Holds chain) (hkey : key.notHashable? = none) :
    Operation.delete (.mapping chain) key store = match store.holder? chain key with
      | some address => .ok () (store.change address (Table.without · key))
      | none => .error (store.noKey key) store := by
  rw [delete_eq_writeScope hkey, Scope.erase?_eq_map, Store.holder?_eq]
  cases hplace : Scope.layerOf? (store.scope chain) key with
  | none => rfl
  | some place =>
      obtain ⟨layer, -, hlayer, -, -⟩ := Scope.get?_eq_of_layerOf? hplace
      rw [Store.getElem?_scope, Option.map_eq_some_iff] at hlayer
      obtain ⟨address, haddress, -⟩ := hlayer
      rw [Option.bind_some, haddress, Option.map_some]
      exact congrArg (EStateM.Result.ok ()) (Store.writeScope_modify h haddress)

/-! ### Methods in terms of them -/

/-- Read what a mapping has for a key, and then delete it. -/
def takeOut (chain : Chain) (key : Value) : Eval Value := do
  let value ← Operation.subscript (.mapping chain) key
  Operation.delete (.mapping chain) key
  return value

theorem pop_eq_writeScope (hkey : key.notHashable? = none) {default : Option Value} :
    ofMapping chain .pop ⟨key :: default.toList, []⟩ store =
      match (store.scope chain).pop? key, default with
      | some (value, rest), _ => .ok value (store.writeScope chain rest)
      | none, some value => .ok value store
      | none, none => .error (store.noKey key) store := by
  refine (Render.bind_ok (keyArguments_positional hkey)).trans ?_
  dsimp only
  cases (store.scope chain).pop? key with
  | some found => rfl
  | none =>
      cases default with
      | some value => rfl
      | none => exact missing_eq

/-- Taking an entry out of a scope: the dictionary that holds the key loses it, and no other
dictionary changes. A default is the answer only if none holds it. -/
theorem pop_eq (hkey : key.notHashable? = none) {default : Option Value} :
    ofMapping chain .pop ⟨key :: default.toList, []⟩ store =
      match (store.scope chain).get? key, default with
      | none, some value => .ok value store
      | _, _ => takeOut chain key store := by
  have hread : Operation.subscript (.mapping chain) key store = _ := subscript_eq hkey
  rw [pop_eq_writeScope hkey, Scope.pop?_eq_map]
  cases hget : (store.scope chain).get? key with
  | none =>
      rw [hget] at hread
      cases default with
      | none => exact (Render.bind_error hread).symm
      | some value => rfl
  | some value =>
      rw [hget] at hread
      have hdelete : Operation.delete (.mapping chain) key store = _ := delete_eq_writeScope hkey
      cases herase : (store.scope chain).erase? key with
      | none =>
          rw [Scope.erase?_eq_none_iff, hget] at herase
          cases herase
      | some rest =>
          rw [herase] at hdelete
          exact ((Render.bind_ok hread).trans (Render.bind_ok hdelete)).symm

/-- The method `setdefault` changes something only if no layer holds the key, and then the base. -/
theorem setdefault_eq (h : store.Holds chain) (hkey : key.notHashable? = none)
    {default : Option Value} :
    ofMapping chain .setdefault ⟨key :: default.toList, []⟩ store =
      match (store.scope chain).get? key with
      | some value => .ok value store
      | none => (do
          Operation.assign (.mapping chain) key (default.getD .none)
          return default.getD .none : Eval Value) store := by
  have hset : ofMapping chain .setdefault ⟨key :: default.toList, []⟩ store
      = .ok ((store.scope chain).getOrPut key (default.getD .none)).1
          (store.writeScope chain ((store.scope chain).getOrPut key (default.getD .none)).2) := by
    exact (Render.bind_ok (keyArguments_positional hkey)).trans rfl
  rw [hset, Scope.getOrPut]
  cases (store.scope chain).get? key with
  | some value =>
      show EStateM.Result.ok value (store.writeScope chain (store.scope chain)) = _
      rw [Store.writeScope_scope h]
  | none =>
      show _ = ((do
        Operation.assign (.mapping chain) key (default.getD .none)
        return default.getD .none : Eval Value) store)
      rw [Render.bind_ok (assign_eq_writeScope hkey)]
      rfl

end Stencil.Script
