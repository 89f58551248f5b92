import Stencil.Proofs.Scope.Consistent
import Stencil.Script.Call
import Stencil.Script.Language
import Stencil.Script.Operation

/-!
# The variables of a script

The keys of a scope that are names become the variables of a script. Keys of all kinds are compared
by `Value.sameKey`, of which nothing is assumed here: a text is the same key as no other value, and
that is enough to find the variables and their values.

`isConsistent_after` puts it together. After every history of changes the mappings in a stack of layers
are consistent, and the variables of a script are different from each other and have the values of
the innermost layers.
-/

namespace Stencil

namespace Script

variable {scope : Scope Value Value} {chain : Chain} {name : Text} {value : Value}

/-! ### Texts as keys -/

theorem text_beq_text (text other : Text) : (Value.text text == Value.text other) = (text = other) := by
  have hsame : (Value.text text == Value.text other) = Value.sameKey (.text text) (.text other) := rfl
  rw [hsame, Value.sameKey, decide_eq_true_eq]

/-- A key that is equal to a text is that text; no value of another type is. -/
theorem eq_of_beq_text {key : Value} (h : key == .text name) : key = .text name := by
  have hsame : key.sameKey (.text name) = true := h
  cases key <;> simp_all [Value.sameKey]

theorem text_beq_self : Value.text name == Value.text name := by
  rw [text_beq_text]

/-- A text is a visible key if and only if the scope has it. -/
theorem text_mem_keys : .text name ∈ scope.keys ↔ scope.has (.text name) = true := by
  have hany : scope.keys.any (· == .text name) = scope.has (.text name) :=
    Scope.any_keys_of_congr fun a ha _ => by rw [eq_of_beq_text ha]
  rw [← hany, List.any_eq_true]
  constructor
  · intro h
    exact ⟨.text name, h, text_beq_self⟩
  · intro h
    obtain ⟨key, hkey, hsame⟩ := h
    rwa [eq_of_beq_text hsame] at hkey

theorem text_mem_keys_iff_exists :
    .text name ∈ scope.keys ↔ ∃ value, scope.get? (.text name) = some value := by
  rw [text_mem_keys, Scope.has_eq_isSome_get?, Option.isSome_iff_exists]

/-! ### Parameters -/

/-- A variable is a key of the scope that may be one. -/
theorem mem_parameters :
    name ∈ parameters scope ↔ .text name ∈ scope.keys ∧ isParameter name = true := by
  rw [parameters, List.mem_filterMap]
  constructor
  · intro h
    obtain ⟨key, hkey, hname⟩ := h
    split at hname
    · obtain ⟨hparameter, heq⟩ := Option.ite_none_right_eq_some.1 hname
      cases heq
      exact ⟨hkey, hparameter⟩
    · cases hname
  · intro h
    obtain ⟨hkey, hparameter⟩ := h
    exact ⟨.text name, hkey, if_pos hparameter⟩

/-- No variable is passed twice. -/
theorem nodup_parameters (h : ∀ layer ∈ scope, Table.IsMap layer) : (parameters scope).Nodup := by
  refine List.Pairwise.filterMap _ ?_ (Scope.pairwise_keys h)
  -- Two keys that are one name are one key.
  intro key key' hne name hname name' hname' heq
  split at hname
  · split at hname'
    · cases (Option.ite_none_right_eq_some.1 hname).2
      cases (Option.ite_none_right_eq_some.1 hname').2
      rw [heq] at hne
      exact hne text_beq_self
    · cases hname'
  · cases hname

/-- Every variable has a value. -/
theorem exists_of_mem_parameters (h : name ∈ parameters scope) :
    ∃ value, scope.get? (.text name) = some value :=
  text_mem_keys_iff_exists.1 (mem_parameters.1 h).1

/-! ### Arguments -/

/-- What is passed to a script: its variables, and the scope last. -/
theorem keys_arguments : (arguments scope chain).keys = parameters scope ++ [scopeName] := by
  have hall : ∀ name ∈ parameters scope,
      ((scope.get? (.text name)).map fun value => (name, value)).map (·.1) = some name := by
    intro name hname
    obtain ⟨value, hvalue⟩ := exists_of_mem_parameters hname
    rw [hvalue]
    rfl
  rw [arguments, Table.keys, List.map_append, List.map_filterMap, List.filterMap_congr hall,
    List.filterMap_some]
  rfl

/-- In a table of names with what is found for them, a name has what is found for it. -/
theorem get?_filterMap {found : Text → Option Value} {names : List Text}
    {rest : Table Text Value} (hname : name ∈ names) (hfound : found name = some value) :
    Table.get? (names.filterMap (fun name => (found name).map fun value => (name, value)) ++ rest)
      name = some value := by
  -- A name may come several times, but with the same value each time.
  induction names with
  | nil => cases hname
  | cons first names ih =>
      by_cases hfirst : first = name
      · rw [hfirst, List.filterMap_cons_some (by rw [hfound]; rfl), List.cons_append,
          Table.get?_cons, if_pos (BEq.refl name)]
      · have hrest : name ∈ names := by
          rcases List.mem_cons.1 hname with heq | hrest
          · exact absurd heq.symm hfirst
          · exact hrest
        cases hother : found first with
        | none =>
            rw [List.filterMap_cons_none (by rw [hother]; rfl)]
            exact ih hrest
        | some other =>
            rw [List.filterMap_cons_some (by rw [hother]; rfl), List.cons_append, Table.get?_cons,
              if_neg (by simpa using hfirst)]
            exact ih hrest

theorem get?_arguments (h : name ∈ parameters scope) :
    (arguments scope chain).get? name = scope.get? (.text name) := by
  obtain ⟨value, hvalue⟩ := exists_of_mem_parameters h
  rw [hvalue]
  exact get?_filterMap h hvalue

/-! ### Mappings in a store -/

theorem checkKey_eq {key : Value} (h : key.notHashable? = none) : Eval.checkKey key = pure () := by
  rw [Eval.checkKey, h]

/-- Reading a key of a scope reads its innermost layer. -/
theorem subscript_mapping {key : Value} {store : Store} (h : key.notHashable? = none) :
    Operation.subscript (.mapping chain) key store =
      match (store.scope chain).innermost? key with
      | some value => .ok value store
      | none => Eval.missing key store := by
  rw [← Scope.get?_eq_innermost?, Operation.subscript, checkKey_eq h]
  show (match (store.scope chain).get? key with
    | some value => pure value
    | none => Eval.missing key : Eval Value) store = _
  cases (store.scope chain).get? key <;> rfl

theorem contains_mapping {key : Value} {store : Store} (h : key.notHashable? = none) :
    Operation.contains (.mapping chain) key store
      = .ok ((store.scope chain).has key) store := by
  rw [Operation.contains, checkKey_eq h]
  rfl

theorem get_mapping {key : Value} {store : Store} (h : key.notHashable? = none) :
    Call.ofMapping chain .get ⟨[key], []⟩ store
      = .ok (((store.scope chain).innermost? key).getD .none) store := by
  have harguments : Call.keyArguments chain .get ⟨[key], []⟩ = pure (key, none) := by
    have hcheck : (Eval.checkKey key >>= fun _ => pure (key, none) : Eval (Value × Option Value))
        = pure (key, none) := by
      rw [checkKey_eq h]
      rfl
    -- A dictionary and a scope read their arguments in different ways.
    match chain with
    | [_] => exact hcheck
    | [] => exact hcheck
    | _ :: _ :: _ => exact hcheck
  rw [← Scope.get?_eq_innermost?, Call.ofMapping, harguments]
  rfl

/-- What scripts see of a mapping in a store: one map, whose names are their variables. -/
structure SeesOneMap (chain : Chain) (store : Store) : Prop where
  /-- A key has the value of the innermost layer that has it, and otherwise it is an error of this
  key. -/
  subscript (key : Value) (hashable : key.notHashable? = none) :
    Operation.subscript (.mapping chain) key store =
      match (store.scope chain).innermost? key with
      | some value => .ok value store
      | none => Eval.missing key store
  get (key : Value) (hashable : key.notHashable? = none) :
    Call.ofMapping chain .get ⟨[key], []⟩ store
      = .ok (((store.scope chain).innermost? key).getD .none) store
  contains (key : Value) (hashable : key.notHashable? = none) :
    Operation.contains (.mapping chain) key store
      = .ok ((store.scope chain).innermost? key).isSome store
  /-- A text comes among the keys if and only if it has a value. -/
  text_mem_keys (name : Text) :
    .text name ∈ (store.scope chain).keys
      ↔ ((store.scope chain).innermost? (.text name)).isSome
  length : store.length? (.mapping chain) = some (store.scope chain).keys.length
  /-- The variables of a script are different from each other. -/
  nodup_parameters : (parameters (store.scope chain)).Nodup
  /-- They are passed in order, and behind them the scope. -/
  keys_arguments :
    (arguments (store.scope chain) chain).keys = parameters (store.scope chain) ++ [scopeName]
  /-- Each of them is passed the value of the innermost layer that has it. -/
  get?_arguments (name : Text) (mem : name ∈ parameters (store.scope chain)) :
    ∃ value, (store.scope chain).innermost? (.text name) = some value
      ∧ (arguments (store.scope chain) chain).get? name = some value

theorem seesOneMap {store : Store} (h : ∀ layer ∈ store.scope chain, Table.IsMap layer) :
    SeesOneMap chain store where
  subscript key hashable := subscript_mapping hashable
  get key hashable := get_mapping hashable
  contains key hashable := by
    rw [contains_mapping hashable, Scope.has_eq_isSome_get?, Scope.get?_eq_innermost?]
  text_mem_keys name := by
    rw [Script.text_mem_keys, Scope.has_eq_isSome_get?, Scope.get?_eq_innermost?]
  length := rfl
  nodup_parameters := Script.nodup_parameters h
  keys_arguments := Script.keys_arguments
  get?_arguments name mem := by
    obtain ⟨value, hvalue⟩ := exists_of_mem_parameters mem
    refine ⟨value, ?_, ?_⟩
    · rw [← Scope.get?_eq_innermost?, hvalue]
    · rw [Script.get?_arguments mem, hvalue]

end Script

/-! ### Histories -/

/-- **A stack of layers behaves as one map** after every history of changes, made through any of the
mappings in it: each mapping in the stack is consistent, and scripts that see it as their scope get
different variables, with the values of the innermost layers. -/
theorem isConsistent_after :
    (∀ {K V : Type} [BEq K] [EquivBEq K] (scope : Scope K V),
      (∀ layer ∈ scope, Table.IsMap layer) →
      ∀ (edits : List (Scope.Edit K V)) (depth : Nat),
        Scope.IsConsistent ((scope.after edits).drop depth))
    ∧ ∀ scope : Scope Script.Value Script.Value, (∀ layer ∈ scope, Table.IsMap layer) →
      ∀ (edits : List (Scope.Edit Script.Value Script.Value)) (depth : Nat)
        (chain : Script.Chain) (store : Script.Store),
        store.scope chain = (scope.after edits).drop depth → Script.SeesOneMap chain store := by
  constructor
  · intro K V _ _ scope hmaps edits depth
    have hafter := (Scope.keeps_after edits).areMaps hmaps
    refine Scope.isConsistent ?_
    intro layer hlayer
    exact hafter layer (List.mem_of_mem_drop hlayer)
  · intro scope hmaps edits depth chain store hscope
    have hafter := (Scope.keeps_after edits).areMaps hmaps
    refine Script.seesOneMap ?_
    intro layer hlayer
    rw [hscope] at hlayer
    exact hafter layer (List.mem_of_mem_drop hlayer)

/-- A key of the inner layer is removed, which shows that of the outer one, and a new key is written
through the inner layer. -/
theorem isConsistent_after_erase :
    let scope : Scope Text Nat := [[(['x'], 1), (['i'], 0)], [(['x'], 2)]]
    let edits : List (Scope.Edit Text Nat) :=
      [{ depth := 0, change := .erase ['x'] }, { depth := 0, change := .put ['y'] 3 }]
    let store : Script.Store :=
      ⟨#[.dict [(.text ['x'], .int 2), (.text ['y'], .int 3)], .dict [(.text ['i'], .int 0)]]⟩
    scope.after edits = [[(['i'], 0)], [(['x'], 2), (['y'], 3)]]
      ∧ Scope.IsConsistent ((scope.after edits).drop 0)
      ∧ Script.SeesOneMap [1, 0] store
      ∧ Script.parameters (store.scope [1, 0]) = [['i'], ['x'], ['y']] := by
  intro scope edits store
  have hmaps : ∀ layer ∈ store.scope [1, 0], Table.IsMap layer := by decide
  exact ⟨rfl, isConsistent_after.1 scope (by decide) edits 0,
    isConsistent_after.2 (store.scope [1, 0]) hmaps [] 0 [1, 0] store rfl, rfl⟩

end Stencil
