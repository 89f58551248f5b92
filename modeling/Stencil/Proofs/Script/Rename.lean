import Mathlib.Logic.Embedding.Basic
import Stencil.Proofs.Scope.Image
import Stencil.Script.Call

/-!
# Values under other addresses

A value with its addresses renamed is the same value, kept elsewhere. As long as different addresses
get different names, nothing that can be asked about a value alone tells the two apart: its type,
the number it stands for, whether it can be a key, and whether it is the same key as another one.
-/

namespace Stencil.Script

variable (ρ : Address ↪ Address)

mutual

/-- The value with its addresses renamed. -/
@[simp] def Value.rename : Value → Value
  | .tuple items => .tuple (Value.renameAll items)
  | .list address => .list (ρ address)
  | .set address => .set (ρ address)
  | .mapping chain => .mapping (chain.map ρ)
  | .view kind chain => .view kind (chain.map ρ)
  | .method receiver m => .method (Value.rename receiver) m
  | .slice start stop step =>
      .slice (Value.rename start) (Value.rename stop) (Value.rename step)
  | .none => .none
  | .bool value => .bool value
  | .int value => .int value
  | .float value => .float value
  | .text value => .text value
  | .bytes value => .bytes value
  | .range start stop step => .range start stop step
  | .builtin function => .builtin function
  | .other typeName => .other typeName

/-- The values with their addresses renamed. -/
def Value.renameAll : List Value → List Value
  | [] => []
  | item :: rest => Value.rename item :: Value.renameAll rest

end

namespace Value

@[simp] theorem renameAll_eq_map (items : List Value) : renameAll ρ items = items.map (rename ρ) := by
  induction items with
  | nil => rfl
  | cons item rest ih => rw [renameAll, ih, List.map_cons]

section

variable {ρ}

/-! ### What a value is -/

/-- Renaming changes addresses only, so a value keeps its type. -/
@[simp] theorem typeName_rename (value : Value) : (rename ρ value).typeName = value.typeName := by
  cases value with
  | tuple items | list address | set address | slice start stop step =>
      simp only [rename]
      rfl
  | mapping chain =>
      rw [rename]
      rcases chain with _ | ⟨inner, _ | ⟨next, outer⟩⟩ <;> rfl
  | view kind chain =>
      rw [rename]
      rcases chain with _ | ⟨inner, _ | ⟨next, outer⟩⟩ <;> cases kind <;> rfl
  | method receiver m =>
      rw [rename]
      cases receiver with
      | mapping chain =>
          rw [rename]
          rcases chain with _ | ⟨inner, _ | ⟨next, outer⟩⟩ <;> rfl
      | tuple items | list address | set address | slice start stop step | view kind chain
      | method receiver m =>
          simp only [rename]
          rfl
      | _ => simp only [rename]
  | _ => simp only [rename]

@[simp] theorem methods_rename (value : Value) : (rename ρ value).methods = value.methods := by
  cases value <;> simp [methods]

@[simp] theorem integer?_rename (value : Value) : (rename ρ value).integer? = value.integer? := by
  cases value <;> simp [integer?]

@[simp] theorem isNumber_rename (value : Value) : (rename ρ value).isNumber = value.isNumber := by
  cases value <;> simp [isNumber]

/-- A number is in no cell. -/
theorem rename_of_isNumber {value : Value} (h : value.isNumber = true) :
    rename ρ value = value := by
  cases value <;> simp_all [isNumber]

theorem rename_eq_none {value : Value} : rename ρ value = .none ↔ value = .none := by
  cases value <;> simp

@[simp] theorem givenType_rename (value : Value) :
    Call.givenType (rename ρ value) = Call.givenType value := by
  have given : ∀ {value : Value}, value ≠ .none → Call.givenType value = value.typeName := by
    intro value h
    cases value with
    | none => exact absurd rfl h
    | _ => rfl
  by_cases h : value = .none
  · rw [h, rename]
  · rw [given h, given (mt rename_eq_none.1 h), typeName_rename]

/-! ### Keys -/

mutual

/-- Renaming keeps whether a value can be a key. -/
theorem notHashable?_rename : (value : Value) →
    (rename ρ value).notHashable? = value.notHashable?
  | .tuple items => by
      rw [rename, notHashable?, notHashable?]
      exact notHashableIn?_rename items
  | .view kind chain => by
      rw [rename]
      cases kind with
      | values => rfl
      | _ => exact congrArg some (typeName_rename (.view _ chain))
  | .mapping chain => congrArg some (typeName_rename (.mapping chain))
  | .list _ | .set _ | .slice _ _ _ | .method _ _ | .none | .bool _ | .int _ | .float _ | .text _
  | .bytes _ | .range _ _ _ | .builtin _ | .other _ => rfl

@[inherit_doc notHashable?_rename]
theorem notHashableIn?_rename : (items : List Value) →
    notHashableIn? (renameAll ρ items) = notHashableIn? items
  | [] => rfl
  | item :: rest => by
      rw [renameAll, notHashableIn?, notHashableIn?, notHashable?_rename item,
        notHashableIn?_rename rest]

end

attribute [simp] notHashable?_rename

mutual

/-- Renaming keeps which values are one key. -/
theorem sameKey_rename : (a b : Value) → (rename ρ a).sameKey (rename ρ b) = a.sameKey b
  | .tuple items, b => by
      cases b with
      | tuple others =>
          rw [rename, rename, sameKey, sameKey]
          exact sameKeys_rename items others
      | _ => rfl
  | .method receiver m, b => by
      cases b with
      | method receiver' m' =>
          rw [rename, rename, sameKey, sameKey, sameKey_rename receiver receiver']
      | _ => rfl
  | .slice start stop step, b => by
      cases b with
      | slice start' stop' step' =>
          rw [rename, rename, sameKey, sameKey, sameKey_rename start start',
            sameKey_rename stop stop', sameKey_rename step step']
      | _ => rfl
  -- What lives in the store is the same key by its address, and a renaming is injective.
  | .list address, b => by
      cases b with
      | list address' => simp [sameKey, Bool.beq_eq_decide_eq]
      | _ => rfl
  | .set address, b => by
      cases b with
      | set address' => simp [sameKey, Bool.beq_eq_decide_eq]
      | _ => rfl
  | .mapping chain, b => by
      cases b with
      | mapping chain' =>
          simp [sameKey, (List.map_injective_iff.2 ρ.injective).eq_iff, Bool.beq_eq_decide_eq]
      | _ => rfl
  | .view kind chain, b => by
      cases b with
      | view kind' chain' =>
          simp [sameKey, (List.map_injective_iff.2 ρ.injective).eq_iff, Bool.beq_eq_decide_eq]
      | _ => rfl
  | .none, b | .bool _, b | .int _, b | .float _, b | .text _, b | .bytes _, b | .range _ _ _, b
  | .builtin _, b | .other _, b => by
      cases b <;> rfl

@[inherit_doc sameKey_rename]
theorem sameKeys_rename : (items others : List Value) →
    sameKeys (renameAll ρ items) (renameAll ρ others) = sameKeys items others
  | [], others => by cases others <;> rfl
  | item :: rest, [] => rfl
  | item :: rest, item' :: others => by
      rw [renameAll, renameAll, sameKeys, sameKeys, sameKey_rename item item',
        sameKeys_rename rest others]

end

attribute [simp] sameKey_rename

end

/-! ### Renaming nothing -/

mutual

/-- Renaming every address to itself changes nothing. -/
theorem rename_refl : (value : Value) → rename (.refl Address) value = value
  | .tuple items => by rw [rename, renameAll_refl items]
  | .method receiver m => by rw [rename, rename_refl receiver]
  | .slice start stop step => by
      rw [rename, rename_refl start, rename_refl stop, rename_refl step]
  | .mapping chain | .view _ chain => by rw [rename, Function.Embedding.coe_refl, List.map_id]
  | .list _ | .set _ | .none | .bool _ | .int _ | .float _ | .text _ | .bytes _ | .range _ _ _
  | .builtin _ | .other _ => rfl

theorem renameAll_refl : (items : List Value) → renameAll (.refl Address) items = items
  | [] => rfl
  | item :: rest => by rw [renameAll, rename_refl item, renameAll_refl rest]

end

end Value

end Stencil.Script
