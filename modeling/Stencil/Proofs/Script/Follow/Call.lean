import Stencil.Proofs.Script.Follow.Sequence
import Stencil.Script.Call

/-!
# Calls with copies of values

Every function and every method does with copies of its arguments what it does with the arguments.
-/

namespace Stencil.Script.Call

open Eval

variable {ρ : Address ↪ Address} {base store mirror : Store}

/-! ### Arguments -/

/-- The arguments with the addresses in them renamed. -/
def Arguments.rename (ρ : Address ↪ Address) (args : Arguments) : Arguments where
  positional := args.positional.map (Value.rename ρ)
  named := args.named.map (Prod.map id (Value.rename ρ))

variable (args : Arguments)

theorem follows_refuseNames (what : String) :
    Copies ρ base (List.map (Value.rename ρ)) (refuseNames what args)
      (refuseNames what (args.rename ρ)) := by
  unfold refuseNames Arguments.rename
  dsimp only
  rw [List.isEmpty_map]
  split
  · exact follows_pure rfl
  · exact follows_throw _

theorem follows_single (what : String) :
    Copies ρ base (Value.rename ρ) (single what args) (single what (args.rename ρ)) := by
  refine (follows_refuseNames args what).bindCopy fun values => ?_
  rcases values with _ | ⟨value, _ | ⟨next, rest⟩⟩
  · exact follows_throw _
  · exact follows_pure rfl
  · simp only [List.map_cons, List.length_cons, List.length_map]
    exact follows_throw _

theorem follows_nothing (what : String) :
    Follows ρ base Eq (nothing what args) (nothing what (args.rename ρ)) := by
  refine (follows_refuseNames args what).bindCopy fun values => ?_
  cases values with
  | nil => exact follows_pure rfl
  | cons value rest =>
      simp only [List.map_cons, List.length_cons, List.length_map]
      exact follows_throw _

theorem follows_between (owner name : String) (low high : Nat) :
    Copies ρ base (List.map (Value.rename ρ)) (between owner name low high args)
      (between owner name low high (args.rename ρ)) := by
  refine (follows_refuseNames args _).bindCopy fun values => ?_
  dsimp only
  rw [List.length_map]
  split
  · exact follows_throw _
  split
  · exact follows_throw _
  · exact follows_pure rfl

theorem follows_knownNames (what : String) (known : List String) :
    Follows ρ base Eq (knownNames what known args) (knownNames what known (args.rename ρ)) := by
  unfold knownNames Arguments.rename
  dsimp only
  rw [List.length_map, List.find?_map]
  split
  · exact follows_throw _
  · dsimp only [Function.comp_def, Prod.map, id]
    cases args.named.find? fun entry => !known.any (·.toList = entry.1) with
    | none => exact follows_pure rfl
    | some entry => exact follows_throw _

theorem byName?_rename (name : String) :
    byName? (args.rename ρ) name = (byName? args name).map (Value.rename ρ) := by
  unfold byName? Arguments.rename
  dsimp only
  induction args.named with
  | nil => rfl
  | cons entry rest ih =>
      obtain ⟨given, value⟩ := entry
      rw [List.map_cons, Prod.map, List.lookup_cons, List.lookup_cons, ih]
      dsimp only [id]
      cases name.toList == given <;> rfl

theorem argument?_rename (position : Nat) (name : String) :
    argument? (args.rename ρ) position name = (argument? args position name).map (Value.rename ρ) := by
  unfold argument?
  rw [byName?_rename, Arguments.rename, List.getElem?_map]
  cases args.positional[position]? <;> rfl

/-- An argument that may be missing, with a default that is in no cell. -/
theorem getD_rename (given : Option Value) {default : Value} (h : default.rename ρ = default) :
    (given.map (Value.rename ρ)).getD default = (given.getD default).rename ρ := by
  cases given with
  | none => exact h.symm
  | some value => rfl

theorem follows_mixed (what : String) (least : Nat) (names : List String) :
    Follows ρ base Eq (mixed what least names args) (mixed what least names (args.rename ρ)) := by
  have positional : (args.rename ρ).positional.length = args.positional.length :=
    List.length_map _
  have named : (args.rename ρ).named.length = args.named.length := List.length_map _
  unfold mixed
  simp only [positional, named, byName?_rename, Option.isSome_map]
  split
  · exact follows_throw _
  split
  · exact follows_throw _
  split
  · exact follows_throw _
  · exact follows_knownNames args what _

theorem follows_toInteger (value : Value) :
    Follows ρ base Eq (toInteger value) (toInteger (value.rename ρ)) := by
  unfold toInteger
  rw [Value.integer?_rename, Value.typeName_rename]
  cases value.integer? with
  | none => exact follows_throw _
  | some n => exact follows_pure rfl

theorem follows_toCount (value : Value) :
    Follows ρ base Eq (toCount value) (toCount (value.rename ρ)) := by
  refine (follows_toInteger value).bindSame fun n => ?_
  split
  · exact follows_pure rfl
  · exact follows_throw _

/-! ### Functions -/

theorem follows_spelledInteger (radix : Nat) (text written : Text) :
    Copies ρ base (Value.rename ρ) (spelledInteger radix text written)
      (spelledInteger radix text written) := by
  unfold spelledInteger
  cases readInteger? radix text with
  | none => exact follows_throw _
  | some n =>
      dsimp only
      split
      · exact follows_throw _
      · exact follows_pure rfl

theorem follows_toInt (value : Value) :
    Copies ρ base (Value.rename ρ) (toInt value) (toInt (value.rename ρ)) := by
  have typed := Value.typeName_rename (ρ := ρ) value
  cases value with
  | float x => exact copies_ofExcept (Arithmetic.isBare_truncate x ρ)
  | text t => exact follows_spelledInteger _ _ _
  | bytes b => exact follows_spelledInteger _ _ _
  | bool _ | int _ => exact follows_pure rfl
  | _ => exact follows_throw_of_eq (congrArg (Fault.typeNamed _) typed)

theorem follows_toIntIn (radix value : Value) :
    Copies ρ base (Value.rename ρ) (toIntIn radix value)
      (toIntIn (radix.rename ρ) (value.rename ρ)) := by
  refine (follows_toInteger radix).bindSame fun n => ?_
  split
  · exact follows_throw _
  · cases value with
    | text t => exact follows_spelledInteger _ _ _
    | bytes b => exact follows_spelledInteger _ _ _
    | _ => exact follows_throw _

theorem follows_checkText (name : String) (given : Option Value) :
    Follows ρ base Eq (checkText name given) (checkText name (given.map (Value.rename ρ))) := by
  cases given with
  | none => exact follows_pure rfl
  | some value =>
      have typed := Value.givenType_rename (ρ := ρ) value
      cases value with
      | text t => exact follows_pure rfl
      | _ => exact follows_throw_of_eq (congrArg (Fault.typeBare _) typed)

/-- Text made of bytes has no address in it, so both sides end in the same value. -/
theorem follows_decode (value encoding errors : Option Value) :
    Copies ρ base (Value.rename ρ) (decode value encoding errors)
      (decode (value.map (Value.rename ρ)) (encoding.map (Value.rename ρ))
        (errors.map (Value.rename ρ))) := by
  refine (follows_checkText _ encoding).bindSame fun _ => ?_
  refine (follows_checkText _ errors).bindSame fun _ => ?_
  cases value with
  | none => exact follows_pure rfl
  | some value =>
      have typed := Value.typeName_rename (ρ := ρ) value
      cases value with
      | text t => exact follows_throw _
      | bytes b =>
          dsimp only [Option.map_some, Value.rename]
          split
          · exact follows_pure rfl
          · exact follows_throw _
      | _ => exact follows_throw_of_eq (congrArg (fun name : Text => (⟨.type,
          "decoding to str: need a bytes-like object, ".toList ++ name ++ " found".toList⟩ : Fault))
          typed)

theorem follows_len (value : Value) :
    Copies ρ base (Value.rename ρ) (len value) (len (value.rename ρ)) := by
  refine follows_get fun {store _} mirrors => ?_
  rw [mirrors.length?, Value.typeName_rename]
  cases store.length? value with
  | none => exact follows_throw _
  | some n =>
      dsimp only
      split
      · exact follows_pure rfl
      · exact follows_throw _

theorem follows_range (values : List Value) :
    Copies ρ base (Value.rename ρ) (range values) (range (values.map (Value.rename ρ))) := by
  refine (follows_mapM_same values follows_toInteger).bindSame fun bounds => ?_
  split
  · exact follows_pure rfl
  · exact follows_pure rfl
  · split
    · exact follows_throw _
    · exact follows_pure rfl
  · exact follows_pure rfl

theorem follows_sum (start : Value) (items : List Value) :
    Copies ρ base (Value.rename ρ) (sum start items)
      (sum (start.rename ρ) (items.map (Value.rename ρ))) :=
  follows_foldlM items (fun total item => Operation.follows_binary .add ['+'] total item) start

/-! ### Functions that apply others -/

section

variable {apply : Value → Value → Eval Value}
  (happly : ∀ function item, Copies ρ base (Value.rename ρ) (apply function item)
    (apply (function.rename ρ) (item.rename ρ)))
include happly

/-- The keys of a sort are found by calling a function, which is followed by hypothesis. -/
theorem follows_keyed (key : Option Value) (items : List Value) :
    Copies ρ base (List.map (Sorting.Keyed.rename ρ)) (keyed apply key items)
      (keyed apply (key.map (Value.rename ρ)) (items.map (Value.rename ρ))) := by
  have plain : Copies ρ base (List.map (Sorting.Keyed.rename ρ))
      (pure (items.map fun item => (item, item)))
      (pure ((items.map (Value.rename ρ)).map fun item => (item, item))) :=
    follows_pure (by simp [Sorting.Keyed.rename])
  cases key with
  | none => exact plain
  | some function =>
      have applied : Copies ρ base (List.map (Sorting.Keyed.rename ρ))
          (items.mapM fun item => do return (← apply function item, item))
          ((items.map (Value.rename ρ)).mapM fun item => do
            return (← apply (function.rename ρ) item, item)) :=
        follows_mapM items fun item _ => (happly function item).bindCopy fun key => follows_pure rfl
      cases function with
      | none => exact plain
      | _ => exact applied

theorem follows_sorted (items : List Value) :
    Copies ρ base (List.map (Value.rename ρ)) (sorted apply args items)
      (sorted apply (args.rename ρ) (items.map (Value.rename ρ))) := by
  refine (follows_knownNames args _ _).bindSame fun _ => ?_
  refine follows_get fun {store _} mirrors => ?_
  simp only [byName?_rename, Option.any_map, mirrors.isTrue]
  exact (follows_keyed happly _ items).bindCopy fun keyed => Sorting.follows_sort _ keyed

omit happly in
theorem follows_extreme (comparison : Comparison) (best : Sorting.Keyed)
    (items : List Sorting.Keyed) :
    Copies ρ base (Value.rename ρ) (extreme comparison best items)
      (extreme comparison (Sorting.Keyed.rename ρ best) (items.map (Sorting.Keyed.rename ρ))) := by
  induction items generalizing best with
  | nil => exact follows_pure rfl
  | cons item rest ih =>
      refine (Operation.follows_ordered comparison _ item.1 best.1).bindSame fun isBetter => ?_
      cases isBetter with
      | true => exact ih item
      | false => exact ih best

omit happly in
theorem follows_candidates (name : String) :
    Copies ρ base (List.map (Value.rename ρ)) (candidates name args)
      (candidates name (args.rename ρ)) := by
  unfold candidates
  rw [byName?_rename, Arguments.rename]
  dsimp only
  rcases args.positional with _ | ⟨collection, _ | ⟨next, rest⟩⟩
  · cases byName? args "default" with
    | none => exact follows_pure rfl
    | some _ => exact follows_throw _
  · exact Operation.follows_items collection
  · cases byName? args "default" with
    | none => exact follows_pure rfl
    | some _ => exact follows_throw _

theorem follows_choose (name : String) (comparison : Comparison) :
    Copies ρ base (Value.rename ρ) (choose apply name comparison args)
      (choose apply name comparison (args.rename ρ)) := by
  have isEmpty : (args.rename ρ).positional.isEmpty = args.positional.isEmpty := List.isEmpty_map
  unfold choose
  rw [isEmpty, byName?_rename, byName?_rename]
  split
  · exact follows_throw _
  · refine (follows_knownNames args _ _).bindSame fun _ => ?_
    refine (follows_candidates args name).bindCopy fun items => ?_
    refine (follows_keyed happly _ items).bindCopy fun keyed => ?_
    cases keyed with
    | nil =>
        cases byName? args "default" with
        | none => exact follows_throw _
        | some default => exact follows_pure rfl
    | cons first rest => exact follows_extreme comparison first rest

/-- **Every function that scripts know is followed**, one case for each. A function that calls
another one gets that call as a parameter, followed already. -/
theorem follows_function (builtin : Builtin) :
    Copies ρ base (Value.rename ρ) (function apply builtin args)
      (function apply builtin (args.rename ρ)) := by
  cases builtin with
  | abs =>
      refine (follows_single args _).bindCopy fun value => ?_
      exact copies_ofExcept (Arithmetic.absolute_rename value)
  | len => exact (follows_single args _).bindCopy fun value => follows_len value
  | repr =>
      refine (follows_single args _).bindCopy fun value => ?_
      exact (follows_ask fun mirrors => mirrors.repr value).bindSame fun text => follows_pure rfl
  | bool =>
      refine (follows_between args _ _ _ _).bindCopy fun values => ?_
      rcases values with _ | ⟨value, _ | ⟨next, rest⟩⟩
      · exact follows_pure rfl
      · exact follows_get fun mirrors => follows_pure (by rw [mirrors.isTrue, Value.rename])
      · exact follows_pure rfl
  | int =>
      refine (follows_mixed args _ _ _).bindSame fun _ => ?_
      rw [argument?_rename, argument?_rename]
      cases argument? args 0 "" with
      | none =>
          cases argument? args 1 "base" with
          | none => exact follows_pure rfl
          | some _ => exact follows_throw _
      | some value =>
          cases argument? args 1 "base" with
          | none => exact follows_toInt value
          | some radix => exact follows_toIntIn radix value
  | str =>
      refine (follows_mixed args _ _ _).bindSame fun _ => ?_
      rw [argument?_rename, argument?_rename, argument?_rename]
      cases argument? args 0 "object" with
      | none => exact follows_decode none _ _
      | some value =>
          cases argument? args 1 "encoding" with
          | some encoding => exact follows_decode (some value) (some encoding) _
          | none =>
              cases argument? args 2 "errors" with
              | some errors => exact follows_decode (some value) none (some errors)
              | none =>
                  exact (follows_ask fun mirrors => mirrors.str value).bindSame
                    fun text => follows_pure rfl
  | list =>
      refine (follows_between args _ _ _ _).bindCopy fun values => ?_
      rcases values with _ | ⟨value, _ | ⟨next, rest⟩⟩
      · exact follows_newList []
      · exact (Operation.follows_items value).bindCopy fun items => follows_newList items
      · exact follows_newList []
  | range => exact (follows_between args _ _ _ _).bindCopy fun values => follows_range values
  | max => exact follows_choose args happly _ _
  | min => exact follows_choose args happly _ _
  | sorted =>
      have positional : (args.rename ρ).positional = args.positional.map (Value.rename ρ) := rfl
      unfold function
      dsimp only
      rw [positional]
      rcases args.positional with _ | ⟨value, _ | ⟨next, rest⟩⟩
      · exact follows_throw _
      · refine (Operation.follows_items value).bindCopy fun items => ?_
        exact (follows_sorted args happly items).bindCopy fun sorted => follows_newList sorted
      · simp only [List.map_cons, List.length_cons, List.length_map]
        exact follows_throw _
  | sum =>
      refine (follows_mixed args _ _ _).bindSame fun _ => ?_
      rw [argument?_rename, argument?_rename, getD_rename _ rfl, getD_rename _ rfl]
      refine (Operation.follows_items _).bindCopy fun items => ?_
      have summed (start : Value) : Copies ρ base _ _ _ := follows_sum start items
      cases (argument? args 1 "start").getD (.int 0) with
      | text _ | bytes _ => exact follows_throw _
      | _ => exact summed _

end

end Stencil.Script.Call
