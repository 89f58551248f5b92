import Stencil.Proofs.Script.Follow.Run
import Stencil.Proofs.Script.Layers
import Stencil.Proofs.Script.Variables

/-!
# Scripts without their scope

A script that does not mention its scope is a function of the names that it mentions. `valueFor` is
this function. It knows no scope: it is given values for names, in a store of its own, and a script
in any scope with copies of these values has a copy of its result (`HasCopies.alike_run`).

Two scopes with copies of the same values therefore give the same result. Values that are in no cell
are copies of themselves, also where the function starts from a store with nothing in it; so a
script over such values leaves all that was there before it as it was (`isPure`).
-/

namespace Stencil.Script

open Eval
open Render (after)

/-- The names that a source reads or assigns to. -/
def mentionedIn (source : Text) : List Text :=
  match read source with
  | .ok statements => mentionedStatements statements
  | .error _ => []

/-- The variables of a script, given values for names, some of which the script assigns to. -/
def Locals.ofValues (values : Text → Option Value) (names assigned : List Text) : Locals where
  own := (names.filter fun name => (values name).isSome) ++ assigned
  values := names.filterMap fun name => (values name).map fun value => (name, value)

/-- The values of those names that may be variables. -/
def parametersOf (values : Text → Option Value) (name : Text) : Option Value :=
  if isParameter name then values name else none

/-- What a source comes to, given values for names. -/
def valueFor (source : Text) (values : Text → Option Value) : Eval Value := do
  let statements ← Eval.ofExcept (read source)
  let statements ← Eval.ofExcept (check [] statements)
  runScript statements (.ofValues (parametersOf values) (mentionedStatements statements)
    (namesOfStatements statements))

/-- The end of a computation, with the source that it was about in a failure. -/
def blaming {α : Type} (source : Text) :
    EStateM.Result Fault Store α → EStateM.Result Failure Store α
  | .ok value rest => .ok value rest
  | .error fault rest => .error (.evaluation source fault) rest

/-- The scope holds copies of the values that names have in a shared store. -/
structure HasCopies (names : List Text) (values : Text → Option Value) (shared : Store)
    (ρ : Address ↪ Address) (chain : Chain) (store : Store) : Prop where
  mirrors : Store.Mirrors ρ store shared store
  values (name : Text) (mem : name ∈ names) :
    (store.scope chain).get? (.text name) = (values name).map (Value.rename ρ)
  /-- No key is the constant, which cannot be a variable. -/
  plain : .text constantName ∉ (store.scope chain).keys

/-- Two evaluations end with copies of one value or with one failure, and in stores with copies of
one store. -/
inductive SameOutcome (ρ σ : Address ↪ Address) (store other : Store) :
    EStateM.Result Failure Store Value → EStateM.Result Failure Store Value → Prop
  | ok {value : Value} {shared rest rest' : Store} (left : Store.Mirrors ρ store shared rest)
      (right : Store.Mirrors σ other shared rest') :
      SameOutcome ρ σ store other (.ok (value.rename ρ) rest) (.ok (value.rename σ) rest')
  | error {failure : Failure} {shared rest rest' : Store} (left : Store.Mirrors ρ store shared rest)
      (right : Store.Mirrors σ other shared rest') :
      SameOutcome ρ σ store other (.error failure rest) (.error failure rest')

/-- A value that is in no cell and refers to none: nothing, a truth value, a number or a text. -/
def Value.IsPlain : Value → Prop
  | .none | .bool _ | .int _ | .float _ | .text _ => True
  | _ => False

/-- Every cell holds what it held. Cells that are new may hold anything. -/
def Store.Extends (store rest : Store) : Prop :=
  ∀ address < store.cells.size, rest.cells[address]? = store.cells[address]?

/-- The source is a pure function of the names that it mentions. -/
structure IsPure (source : Text) : Prop where
  /-- Scopes with copies of the same values give the same result, also in different stores. -/
  copies (values : Text → Option Value) (shared : Store) (ρ σ : Address ↪ Address)
      (chain outer : Chain) (store other : Store)
      (left : HasCopies (mentionedIn source) values shared ρ chain store)
      (right : HasCopies (mentionedIn source) values shared σ outer other) :
    SameOutcome ρ σ store other (evaluate source chain store) (evaluate source outer other)
  /-- Scopes with the very same values give the very same result, and do the same to the store. -/
  same (chain outer : Chain) (store : Store)
      (agree : ∀ name ∈ mentionedIn source,
        (store.scope chain).get? (.text name) = (store.scope outer).get? (.text name))
      (plain : .text constantName ∉ (store.scope chain).keys)
      (plain' : .text constantName ∉ (store.scope outer).keys) :
    evaluate source chain store = evaluate source outer store
  /-- Over plain values nothing that was there before is changed, whether or not it fails. -/
  keeps (chain : Chain) (store : Store) (inside : ∀ address ∈ chain, address < store.cells.size)
      (values : ∀ name ∈ mentionedIn source, ∀ value,
        (store.scope chain).get? (.text name) = some value → value.IsPlain)
      (plain : .text constantName ∉ (store.scope chain).keys) :
    store.Extends (after (evaluate source chain store))
      ∧ (after (evaluate source chain store)).scope chain = store.scope chain

variable {ρ σ : Address ↪ Address} {store shared other rest : Store} {chain outer : Chain}
variable {names assigned : List Text} {values : Text → Option Value} {name source : Text}

/-! ### Variables -/

/-- Among the names, each has the value it is given. -/
theorem Locals.get?_ofValues (h : name ∈ names) :
    Table.get? (Locals.ofValues values names assigned).values name = values name := by
  cases hvalue : values name with
  | some value =>
      have hfound : Table.get? (_ ++ []) name = some value := get?_filterMap h hvalue
      rwa [List.append_nil] at hfound
  | none =>
      rw [Table.get?, Option.map_eq_none_iff, List.find?_eq_none]
      intro entry hentry hsame
      obtain ⟨first, -, hfirst⟩ := List.mem_filterMap.1 hentry
      obtain ⟨value, hfound, rfl⟩ := Option.map_eq_some_iff.1 hfirst
      obtain rfl : first = name := by simpa using hsame
      rw [hvalue] at hfound
      cases hfound

theorem mem_parameters_iff_isSome {scope : Scope Value Value} :
    name ∈ parameters scope
      ↔ (parametersOf (fun name => scope.get? (.text name)) name).isSome := by
  rw [mem_parameters, text_mem_keys, Scope.has_eq_isSome_get?, parametersOf]
  split
  case isTrue h => simp [h]
  case isFalse h => simp [h]

/-- A name other than that of the scope is a variable just when it may be one and is a key. -/
theorem get?_arguments_of_ne {scope : Scope Value Value} (h : name ≠ scopeName) :
    Table.get? (arguments scope chain) name
      = parametersOf (fun name => scope.get? (.text name)) name := by
  by_cases mem : name ∈ parameters scope
  · rw [get?_arguments mem, parametersOf, if_pos (mem_parameters.1 mem).2]
  · have absent : Table.get? (arguments scope chain) name = none := by
      rw [← Option.not_isSome_iff_eq_none, ← Table.has_eq_isSome_get?, Table.has_eq_any_keys,
        keys_arguments]
      simp [mem, h.symm]
    rw [absent]
    exact (Option.not_isSome_iff_eq_none.1 (mt mem_parameters_iff_isSome.2 mem)).symm

theorem eq_of_check {given : List Text} {statements checked : List Statement}
    (h : check given statements = .ok checked) : checked = statements := by
  rw [check] at h
  split at h
  · exact (Except.ok.inj h).symm
  · cases h

namespace HasCopies

theorem parametersOf_eq (h : HasCopies names values shared ρ chain store) (mem : name ∈ names) :
    parametersOf (fun name => (store.scope chain).get? (.text name)) name
      = (parametersOf values name).map (Value.rename ρ) := by
  rw [parametersOf, parametersOf, h.values name mem]
  split <;> rfl

/-- The variables of a script in the scope are copies of the given ones. -/
theorem locals (h : HasCopies names values shared ρ chain store) (free : scopeName ∉ names) :
    Locals.Mirrors ρ names (.ofValues (parametersOf values) names assigned)
      ⟨(arguments (store.scope chain) chain).keys ++ assigned,
        arguments (store.scope chain) chain⟩ where
  values name mem := by
    rw [Locals.get?_ofValues mem, get?_arguments_of_ne (ne_of_mem_of_not_mem mem free),
      h.parametersOf_eq mem]
  own name mem := by
    have parameter : name ∈ parameters (store.scope chain) ↔ (parametersOf values name).isSome := by
      rw [mem_parameters_iff_isSome, h.parametersOf_eq mem, Option.isSome_map]
    rw [Bool.eq_iff_iff, List.contains_iff_mem, List.contains_iff_mem, keys_arguments]
    simp [Locals.ofValues, parameter, mem, ne_of_mem_of_not_mem mem free]

/-! ### Evaluation -/

/-- The keys of the scope have no say in whether statements make sense. -/
theorem check_parameters (h : HasCopies names values shared ρ chain store)
    (statements : List Statement) :
    check (parameters (store.scope chain)) statements = check [] statements := by
  have absent : constantName ∉ parameters (store.scope chain) := fun mem =>
    h.plain (mem_parameters.1 mem).1
  simp [check, absent]

/-- A source over copies of values comes to a copy of what it comes to with the values. -/
theorem alike_run (h : HasCopies (mentionedIn source) values shared ρ chain store)
    (free : scopeName ∉ mentionedIn source) :
    Alike (fun value copied => copied = value.rename ρ) (Store.Mirrors ρ store)
      (valueFor source values shared) (run source chain store) := by
  have hrun : run source chain store
      = (Eval.ofExcept (read source) >>= fun statements =>
          Eval.ofExcept (check (parameters (store.scope chain)) statements) >>= fun statements =>
            runScript statements ⟨(arguments (store.scope chain) chain).keys
              ++ namesOfStatements statements, arguments (store.scope chain) chain⟩ : Eval Value)
          store := rfl
  rw [hrun, valueFor]
  cases hread : read source with
  | error fault => exact .error h.mirrors
  | ok statements =>
      have named : mentionedIn source = mentionedStatements statements := by rw [mentionedIn, hread]
      rw [named] at h free
      show Alike _ _
        ((Eval.ofExcept (check [] statements) >>= fun checked => _ : Eval Value) shared)
        ((Eval.ofExcept (check (parameters (store.scope chain)) statements) >>= fun checked => _ :
          Eval Value) store)
      rw [h.check_parameters]
      cases hcheck : check [] statements with
      | error fault => exact .error h.mirrors
      | ok checked =>
          -- Checking only lets statements pass, so those that run are the ones that were read.
          obtain rfl := eq_of_check hcheck
          exact follows_runScript (h.locals free) checked (List.Subset.refl _) _ _ h.mirrors

/-- The same, with the source in every failure. -/
theorem alike_evaluate (h : HasCopies (mentionedIn source) values shared ρ chain store)
    (free : scopeName ∉ mentionedIn source) :
    Alike (fun value copied => copied = value.rename ρ) (Store.Mirrors ρ store)
      (blaming source (valueFor source values shared)) (evaluate source chain store) := by
  have alike := h.alike_run free
  unfold evaluate
  generalize valueFor source values shared = given at alike ⊢
  generalize run source chain store = copied at alike ⊢
  cases alike with
  | ok same mirrors => exact .ok same mirrors
  | error mirrors => exact .error mirrors

end HasCopies

/-! ### Two scopes -/

/-- What follows one evaluation in two ways has the same outcome in both. -/
theorem SameOutcome.of_alike {given left right : EStateM.Result Failure Store Value}
    (h : Alike (fun value copied => copied = value.rename ρ) (Store.Mirrors ρ store) given left)
    (h' : Alike (fun value copied => copied = value.rename σ) (Store.Mirrors σ other) given right) :
    SameOutcome ρ σ store other left right := by
  cases h with
  | ok same mirrors =>
      cases h' with
      | ok same' mirrors' =>
          rw [same, same']
          exact .ok mirrors mirrors'
  | error mirrors =>
      cases h' with
      | error mirrors' => exact .error mirrors mirrors'

/-- In one store the values are copies of themselves. -/
theorem hasCopies_refl
    (agree : ∀ name ∈ names, (store.scope chain).get? (.text name) = values name)
    (plain : .text constantName ∉ (store.scope chain).keys) :
    HasCopies names values store (.refl Address) chain store :=
  ⟨Store.mirrors_refl, fun name mem => by simp [funext Value.rename_refl, agree name mem], plain⟩

theorem SameOutcome.eq {left right : EStateM.Result Failure Store Value}
    (h : SameOutcome (.refl Address) (.refl Address) store other left right) : left = right := by
  cases h with
  | ok mirrors mirrors' => rw [mirrors.eq, mirrors'.eq]
  | error mirrors mirrors' => rw [mirrors.eq, mirrors'.eq]

/-! ### Plain values -/

theorem Value.IsPlain.rename_eq {value : Value} (h : value.IsPlain) : value.rename ρ = value := by
  cases value <;> simp_all [Value.IsPlain]

/-- The addresses behind the cells of a store. -/
def behind (size : Nat) : Address ↪ Address where
  toFun address := size + address
  inj' _ _ := Nat.add_left_cancel

@[simp] theorem behind_apply (size : Nat) (address : Address) :
    behind size address = size + address := rfl

/-- Behind the cells of a store there is room for a copy of the empty one. -/
theorem Store.mirrors_behind : Store.Mirrors (behind store.cells.size) store {} store where
  cells address := by simp
  fresh count := by simp
  beside address copied := rfl

theorem Store.Mirrors.extends (h : Store.Mirrors (behind store.cells.size) store shared rest) :
    store.Extends rest := by
  intro address inside
  refine h.beside address fun copied same => ?_
  exact absurd inside (same ▸ Nat.not_lt.2 (Nat.le_add_right _ copied))

theorem Store.Extends.scope_eq (h : store.Extends rest)
    (inside : ∀ address ∈ chain, address < store.cells.size) :
    rest.scope chain = store.scope chain :=
  List.map_congr_left fun address mem => dict_of_cells (h address (inside address mem))

/-! ### Purity -/

/-- **A script that does not mention its scope** is a pure function of the names in it. -/
theorem isPure (free : scopeName ∉ mentionedIn source) : IsPure source where
  copies values shared ρ σ chain outer store other left right :=
    .of_alike (left.alike_evaluate free) (right.alike_evaluate free)
  same chain outer store agree plain plain' := by
    have left := hasCopies_refl agree plain
    have right : HasCopies (mentionedIn source) _ store _ outer store :=
      hasCopies_refl (fun _ _ => rfl) plain'
    exact (SameOutcome.of_alike (left.alike_evaluate free) (right.alike_evaluate free)).eq
  keeps chain store inside values plain := by
    -- What the function works with lies behind the cells that there are: it changes none of them.
    have copies : HasCopies (mentionedIn source) (fun name => (store.scope chain).get? (.text name))
        {} (behind store.cells.size) chain store := by
      refine ⟨Store.mirrors_behind, fun name mem => ?_, plain⟩
      cases hvalue : (store.scope chain).get? (.text name) with
      | none => rfl
      | some value => rw [Option.map_some, (values name mem value hvalue).rename_eq]
    have kept : store.Extends (after (evaluate source chain store)) :=
      (copies.alike_evaluate free).sim_after.extends
    exact ⟨kept, kept.scope_eq inside⟩

/-- A loop that assigns to a key of its scope, in a dictionary and in layers with another key: the
result is the same, and the key keeps its value. -/
theorem isPure_loop :
    let source : Text := "for i in (1, 2):\n  x += y\nreturn x".toList
    let store : Store :=
      ⟨#[.dict [(.text ['x'], .int 1), (.text ['y'], .int 2)],
        .dict [(.text ['z'], .none), (.text ['y'], .int 2)], .dict [(.text ['x'], .int 1)]]⟩
    scopeName ∉ mentionedIn source ∧ IsPure source
      ∧ evaluate source [0] store = evaluate source [1, 2] store
      ∧ (after (evaluate source [0] store)).scope [0] = store.scope [0]
      ∧ (match evaluate source [0] store with
        | .ok value _ => value.integer?
        | .error _ _ => none) = some 5 := by
  intro source store
  have names : mentionedIn source = [['i'], ['x'], ['y'], ['x']] := by decide +kernel
  have free : scopeName ∉ mentionedIn source := by
    rw [names]
    decide
  have pure := isPure free
  have plain (chain : Chain) (h : (store.scope chain).has (.text constantName) = false) :
      .text constantName ∉ (store.scope chain).keys := by
    rw [text_mem_keys, h]
    exact Bool.false_ne_true
  have agree : ∀ name ∈ mentionedIn source,
      (store.scope [0]).get? (.text name) = (store.scope [1, 2]).get? (.text name) := by
    rw [names]
    simp only [List.forall_mem_cons]
    exact ⟨rfl, rfl, rfl, rfl, List.forall_mem_nil _⟩
  have values : ∀ name ∈ mentionedIn source, ∀ value,
      (store.scope [0]).get? (.text name) = some value → value.IsPlain := by
    rw [names]
    simp only [List.forall_mem_cons]
    refine ⟨?unknown, ?first, ?second, ?first, List.forall_mem_nil _⟩
    case unknown =>
      intro value h
      cases h
    all_goals
      intro value h
      cases h
      trivial
  exact ⟨free, pure, pure.same [0] [1, 2] store agree (plain [0] rfl) (plain [1, 2] rfl),
    (pure.keeps [0] store (by decide) values (plain [0] rfl)).2, by decide +kernel⟩

end Stencil.Script
