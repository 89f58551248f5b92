import Mathlib.Data.List.InsertIdx
import Stencil.Proofs.Script.Follow.Format
import Stencil.Script.Operation

/-!
# Operations on copies of values

Every operator, comparison and subscript does with copies of values what it does with the values.
-/

namespace Stencil.Script.Operation

open Eval

variable {ρ : Address ↪ Address} {base : Store}

theorem follows_items (value : Value) :
    Copies ρ base (List.map (Value.rename ρ)) (items value) (items (value.rename ρ)) := by
  refine follows_get fun {store _} mirrors => ?_
  rw [mirrors.items? value, Value.typeName_rename]
  cases store.items? value with
  | none => exact follows_throw _
  | some items => exact follows_pure rfl

/-! ### Operators -/

/-- How often something is repeated does not depend on what it is. -/
theorem follows_repeated {α β : Type} (image : α → β) (tooLong : Fault) (items : List α)
    (count : Int) :
    Copies ρ base (List.map image) (repeated tooLong items count)
      (repeated tooLong (items.map image) count) := by
  unfold repeated
  rw [List.length_map]
  split
  · exact follows_throw _
  split
  · exact follows_throw _
  split
  · exact follows_throw _
  · exact follows_pure (by rw [List.map_flatten, List.map_replicate])

theorem follows_repeated_same {α : Type} (tooLong : Fault) (items : List α) (count : Int) :
    Follows ρ base Eq (repeated tooLong items count) (repeated tooLong items count) := by
  unfold repeated
  split
  · exact follows_throw _
  split
  · exact follows_throw _
  split
  · exact follows_throw _
  · exact follows_pure rfl

theorem follows_repeatSequence (sequence count : Value) :
    Copies ρ base (Value.rename ρ) (repeatSequence sequence count)
      (repeatSequence (sequence.rename ρ) (count.rename ρ)) := by
  unfold repeatSequence
  rw [Value.integer?_rename, Value.typeName_rename]
  cases count.integer? with
  | none => exact follows_throw _
  | some n =>
      cases sequence with
      | text t => exact (follows_repeated_same _ t n).bindSame fun t => follows_pure rfl
      | bytes b => exact (follows_repeated_same _ b n).bindSame fun b => follows_pure rfl
      | tuple items =>
          rw [Value.rename, Value.renameAll_eq_map]
          refine (follows_repeated (Value.rename ρ) _ items n).bindCopy fun items => ?_
          exact follows_pure (by rw [Value.rename, Value.renameAll_eq_map])
      | list address =>
          refine follows_get fun {store _} mirrors => ?_
          rw [mirrors.list]
          exact (follows_repeated (Value.rename ρ) _ _ n).bindCopy fun items => follows_newList items
      | _ => exact follows_pure rfl

theorem follows_concatenate? (a b : Value) (unsupported : Fault) :
    Copies ρ base (Value.rename ρ) ((concatenate? a b).getD (throw unsupported))
      ((concatenate? (a.rename ρ) (b.rename ρ)).getD (throw unsupported)) := by
  have typed := Value.typeName_rename (ρ := ρ) b
  cases a with
  | text s =>
      cases b with
      | text t => exact follows_pure rfl
      | _ => exact follows_throw_of_eq (congrArg (Fault.concatenation _) typed)
  | bytes s =>
      cases b with
      | bytes t => exact follows_pure rfl
      | _ =>
          exact follows_throw_of_eq (congrArg (fun name : Text =>
            Fault.typeBare ("can't concat " ++ String.ofList name ++ " to ") "bytes".toList) typed)
  | tuple s =>
      cases b with
      | tuple t =>
          exact follows_pure (by simp)
      | _ => exact follows_throw_of_eq (congrArg (Fault.concatenation _) typed)
  | list s =>
      cases b with
      | list t =>
          refine follows_get fun {store _} mirrors => ?_
          rw [mirrors.list, mirrors.list, ← List.map_append]
          exact follows_newList _
      | _ => exact follows_throw_of_eq (congrArg (Fault.concatenation _) typed)
  | _ => exact follows_throw _

theorem isRepeatable_rename (value : Value) : isRepeatable (value.rename ρ) = isRepeatable value := by
  cases value <;> rfl

/-- **Every operator is followed.** The cases are those of the operator, and the written forms only
count in messages. -/
theorem follows_binary (operator : Operator) (sign : Text) (a b : Value) :
    Copies ρ base (Value.rename ρ) (binary operator sign a b)
      (binary operator sign (a.rename ρ) (b.rename ρ)) := by
  unfold binary
  rw [Value.isNumber_rename, Value.isNumber_rename, Value.typeName_rename, Value.typeName_rename]
  by_cases numbers : (a.isNumber && b.isNumber) = true
  · obtain ⟨ha, hb⟩ := Bool.and_eq_true_iff.1 numbers
    rw [if_pos numbers, if_pos numbers, Value.rename_of_isNumber ha, Value.rename_of_isNumber hb]
    exact copies_ofExcept (Arithmetic.isBare_onNumbers operator a b ρ)
  · rw [if_neg numbers, if_neg numbers]
    cases operator with
    | add => exact follows_concatenate? a b _
    | mul =>
        dsimp only
        rw [isRepeatable_rename, isRepeatable_rename]
        split
        · exact follows_repeatSequence a b
        split
        · exact follows_repeatSequence b a
        · exact follows_throw _
    | mod =>
        cases a with
        | text t => exact Format.follows_format t b
        | _ => exact follows_throw _
    | sub =>
        cases a with
        | set s =>
            cases b with
            | set t =>
                refine follows_get fun {store _} mirrors => ?_
                rw [mirrors.set, mirrors.set, List.filter_map]
                simp only [Function.comp_def, contains_rename]
                exact follows_newSet _
            | _ => exact follows_throw _
        | _ => exact follows_throw _
    | _ => exact follows_throw _

/-- An operator that assigns. Lists are changed where they are; all other values go as above. -/
theorem follows_update (operator : Operator) (a b : Value) :
    Copies ρ base (Value.rename ρ) (update operator a b)
      (update operator (a.rename ρ) (b.rename ρ)) := by
  have plain : Copies ρ base _ _ _ := follows_binary operator (operator.label ++ ['=']) a b
  cases operator with
  | add =>
      cases a with
      | list address =>
          refine (follows_items b).bindCopy fun more => ?_
          refine follows_get fun {store _} mirrors => ?_
          rw [mirrors.list, ← List.map_append]
          exact (follows_write address (.list _)).bindSame fun _ => follows_pure rfl
      | _ => exact plain
  | mul =>
      cases a with
      | list address =>
          have once : Copies ρ base _ _ _ := follows_repeatSequence (.list address) b
          unfold update
          dsimp only [Value.rename] at once ⊢
          rw [Value.integer?_rename]
          cases b.integer? with
          | none => exact once
          | some n =>
              refine follows_get fun {store _} mirrors => ?_
              rw [mirrors.list]
              refine (follows_repeated (Value.rename ρ) _ _ n).bindCopy fun items => ?_
              exact (follows_write address (.list items)).bindSame fun _ => follows_pure rfl
      | _ => exact plain
  | _ => exact plain

/-! ### Comparisons -/

/-- Two values are one and the same on both sides or on neither: addresses are renamed one to one.
-/
theorem isSame_rename (a b : Value) : isSame (a.rename ρ) (b.rename ρ) = isSame a b := by
  rw [isSame, isSame, Value.typeName_rename, Value.typeName_rename, Value.sameKey_rename]

theorem byElements_rename (comparison : Comparison) (xs ys : List Value) :
    byElements comparison (xs.map (Value.rename ρ)) (ys.map (Value.rename ρ))
      = byElements comparison xs ys := by
  unfold byElements
  simp only [List.all_map, Function.comp_def, contains_rename, List.length_map]

theorem follows_lexical (comparison : Comparison) {order : Value → Value → Eval Bool}
    (h : ∀ a b, Follows ρ base Eq (order a b) (order (a.rename ρ) (b.rename ρ)))
    (xs ys : List Value) :
    Follows ρ base Eq (lexical comparison order xs ys)
      (lexical comparison order (xs.map (Value.rename ρ)) (ys.map (Value.rename ρ))) := by
  have lengths (xs ys : List Value) : byLength comparison (xs.map (Value.rename ρ)).length
      (ys.map (Value.rename ρ)).length = byLength comparison xs.length ys.length := by
    rw [List.length_map, List.length_map]
  induction xs generalizing ys with
  | nil => exact follows_pure (lengths [] ys).symm
  | cons x xs ih =>
      cases ys with
      | nil => exact follows_pure (lengths (x :: xs) []).symm
      | cons y ys =>
          rw [List.map_cons, List.map_cons, lexical, lexical]
          refine Follows.bindSame (follows_ask fun mirrors => ?_) fun same => ?_
          · rw [Value.sameKey_rename, mirrors.equal]
          · cases same with
            | true => exact ih ys
            | false => exact h x y

/-- The order of two values, at most so many levels deep. The induction is on the depth, as lists
are compared item by item. -/
theorem follows_ordered (comparison : Comparison) (depth : Nat) (a b : Value) :
    Follows ρ base Eq (ordered comparison depth a b)
      (ordered comparison depth (a.rename ρ) (b.rename ρ)) := by
  induction depth generalizing a b with
  | zero => exact follows_throw _
  | succ depth ih =>
      -- Numbers, and all values that have no order, are settled without the store.
      have plain : Follows ρ base Eq
          (if a.isNumber && b.isNumber then return byNumber comparison a b
            else throw (.noOrder comparison.label a.typeName b.typeName) : Eval Bool)
          (if (a.rename ρ).isNumber && (b.rename ρ).isNumber
            then return byNumber comparison (a.rename ρ) (b.rename ρ)
            else throw (.noOrder comparison.label (a.rename ρ).typeName (b.rename ρ).typeName)) := by
        rw [Value.isNumber_rename, Value.isNumber_rename, Value.typeName_rename,
          Value.typeName_rename]
        by_cases numbers : (a.isNumber && b.isNumber) = true
        · obtain ⟨ha, hb⟩ := Bool.and_eq_true_iff.1 numbers
          rw [if_pos numbers, if_pos numbers, Value.rename_of_isNumber ha,
            Value.rename_of_isNumber hb]
          exact follows_pure rfl
        · rw [if_neg numbers, if_neg numbers]
          exact follows_throw _
      cases a with
      | text s =>
          cases b with
          | text t => exact follows_pure rfl
          | _ => exact plain
      | bytes s =>
          cases b with
          | bytes t =>
              -- Bytes are compared as the numbers they are.
              have items := follows_lexical comparison ih (s.map fun x => .int x.toNat)
                (t.map fun x => .int x.toNat)
              rw [map_rename_int, map_rename_int] at items
              exact items
          | _ => exact plain
      | tuple s =>
          cases b with
          | tuple t =>
              rw [Value.rename, Value.rename, Value.renameAll_eq_map, Value.renameAll_eq_map]
              exact follows_lexical comparison ih s t
          | _ => exact plain
      | list s =>
          cases b with
          | list t =>
              refine follows_get fun {store _} mirrors => ?_
              rw [mirrors.list, mirrors.list]
              exact follows_lexical comparison ih _ _
          | _ => exact plain
      | set s =>
          cases b with
          | set t =>
              refine follows_get fun {store _} mirrors => ?_
              rw [mirrors.set, mirrors.set, byElements_rename]
              exact follows_pure rfl
          | _ => exact plain
      | _ => exact plain

theorem follows_equal (a b : Value) :
    Follows ρ base Eq (equal a b) (equal (a.rename ρ) (b.rename ρ)) :=
  follows_ask fun mirrors => mirrors.equal a b

theorem follows_isAmong (value : Value) (items : List Value) :
    Follows ρ base Eq (isAmong value items)
      (isAmong (value.rename ρ) (items.map (Value.rename ρ))) := by
  induction items with
  | nil => exact follows_pure rfl
  | cons item rest ih =>
      rw [List.map_cons, isAmong, isAmong, Value.sameKey_rename]
      split
      · exact follows_pure rfl
      · refine (follows_equal item value).bindSame fun same => ?_
        cases same with
        | true => exact follows_pure rfl
        | false => exact ih

theorem follows_isWithin (container value : Value) :
    Follows ρ base Eq (isWithin container value)
      (isWithin (container.rename ρ) (value.rename ρ)) := by
  refine follows_get fun {store _} mirrors => ?_
  rw [mirrors.items?, Value.typeName_rename]
  cases store.items? container with
  | none => exact follows_throw _
  | some items => exact follows_isAmong value items

theorem follows_hasByte (bytes : List UInt8) (n : Int) :
    Follows ρ base Eq (hasByte bytes n) (hasByte bytes n) := by
  unfold hasByte
  split
  · exact follows_pure rfl
  · exact follows_throw _

/-- What is in what. A text looks for a part, a mapping for a key, and the rest for an equal item.
-/
theorem follows_contains (container value : Value) :
    Follows ρ base Eq (contains container value)
      (contains (container.rename ρ) (value.rename ρ)) := by
  have typed := Value.typeName_rename (ρ := ρ) value
  have within : Follows ρ base _ _ _ := follows_isWithin container value
  cases container with
  | mapping chain =>
      refine (follows_checkKey value).bindSame fun _ => ?_
      refine (follows_scope chain).bindCopy fun layers => ?_
      exact follows_pure (Scope.has_image keepsKeys_rename value).symm
  | set address =>
      refine (follows_checkKey value).bindSame fun _ => ?_
      refine follows_get fun {store _} mirrors => ?_
      rw [mirrors.set, contains_rename]
      exact follows_pure rfl
  | text t =>
      cases value with
      | text part => exact follows_pure rfl
      | _ => exact follows_throw_of_eq (congrArg (Fault.typeBare _) typed)
  | bytes b =>
      cases value with
      | bytes part => exact follows_pure rfl
      | bool v | int n => exact follows_hasByte b _
      | _ => exact follows_throw_of_eq (congrArg (Fault.typeNamed _) typed)
  | range start stop step =>
      have among : Follows ρ base _ _ _ :=
        follows_isAmong value (Value.rangeItems start stop step)
      rw [map_rename_rangeItems] at among
      cases value with
      | bool v | int n => exact follows_pure rfl
      | _ => exact among
  | _ => exact within

theorem follows_compare (comparison : Comparison) (a b : Value) :
    Follows ρ base Eq (compare comparison a b)
      (compare comparison (a.rename ρ) (b.rename ρ)) := by
  cases comparison with
  | eq => exact follows_equal a b
  | ne => exact (follows_equal a b).bindSame fun same => follows_pure rfl
  | isIn => exact follows_contains b a
  | notIn => exact (follows_contains b a).bindSame fun found => follows_pure rfl
  | is => exact follows_pure (isSame_rename a b).symm
  | isNot => exact follows_pure (congrArg (!·) (isSame_rename a b).symm)
  | _ => exact follows_ordered _ _ a b

/-! ### Subscripts -/

theorem follows_placeIn (range : String) (length : Nat) (index : Int) :
    Follows ρ base Eq (placeIn range length index) (placeIn range length index) := by
  unfold placeIn
  split
  · exact follows_throw _
  · cases place? length index with
    | none => exact follows_throw _
    | some place => exact follows_pure rfl

theorem follows_bound (length : Nat) (low high : Int) (value : Value) (default : Int) :
    Follows ρ base Eq (bound length low high value default)
      (bound length low high (value.rename ρ) default) := by
  cases value with
  | none | bool _ | int _ => exact follows_pure rfl
  | _ => exact follows_throw _

theorem follows_sliceStep (value : Value) :
    Follows ρ base Eq (sliceStep value) (sliceStep (value.rename ρ)) := by
  cases value with
  | bool b | int n =>
      unfold sliceStep
      dsimp only [Value.rename]
      split
      · exact follows_throw _
      · exact follows_pure rfl
      · exact follows_throw _
  | none => exact follows_pure rfl
  | _ => exact follows_throw _

theorem follows_sliceBounds (length : Nat) (start stop step : Value) :
    Follows ρ base Eq (sliceBounds length start stop step)
      (sliceBounds length (start.rename ρ) (stop.rename ρ) (step.rename ρ)) := by
  refine (follows_sliceStep step).bindSame fun step => ?_
  refine (follows_bound length _ _ start _).bindSame fun start => ?_
  exact (follows_bound length _ _ stop _).bindSame fun stop => follows_pure rfl

theorem follows_slicePlaces (length : Nat) (start stop step : Value) :
    Follows ρ base Eq (slicePlaces length start stop step)
      (slicePlaces length (start.rename ρ) (stop.rename ρ) (step.rename ρ)) :=
  (follows_sliceBounds length start stop step).bindSame fun _ => follows_pure rfl

theorem follows_takeSlice {α β : Type} (image : α → β) (items : List α) (start stop step : Value) :
    Copies ρ base (List.map image) (takeSlice items start stop step)
      (takeSlice (items.map image) (start.rename ρ) (stop.rename ρ) (step.rename ρ)) := by
  unfold takeSlice
  rw [List.length_map]
  refine (follows_slicePlaces items.length start stop step).bindSame fun places => ?_
  exact follows_pure (by simp only [List.getElem?_map, List.map_filterMap])

/-- Places are counted in the same way, whatever stands there. -/
theorem follows_itemAt {α β : Type} (image : α → β) (range : String) (items : List α)
    (index : Int) :
    Copies ρ base image (itemAt range items index) (itemAt range (items.map image) index) := by
  unfold itemAt
  rw [List.length_map]
  refine (follows_placeIn range items.length index).bindSame fun place => ?_
  rw [List.getElem?_map]
  cases items[place]? with
  | none => exact follows_throw _
  | some item => exact follows_pure rfl

/-- The item of a sequence, or the items at a slice, under an image of its items. -/
theorem follows_fromSequence {α β : Type} (image : α → β) (what range : String) (items : List α)
    {one : α → Value} {one' : β → Value} {many : List α → Eval Value} {many' : List β → Eval Value}
    (hone : ∀ item, one' (image item) = (one item).rename ρ)
    (hmany : ∀ items, Copies ρ base (Value.rename ρ) (many items) (many' (items.map image)))
    (index : Value) :
    Copies ρ base (Value.rename ρ) (fromSequence what range items one many index)
      (fromSequence what range (items.map image) one' many' (index.rename ρ)) := by
  have typed := Value.typeName_rename (ρ := ρ) index
  have single (n : Int) : Copies ρ base (Value.rename ρ)
      (do return one (← itemAt range items n)) (do return one' (← itemAt range (items.map image) n)) :=
    (follows_itemAt image range items n).bindCopy fun item => follows_pure (hone item)
  cases index with
  | slice start stop step =>
      exact (follows_takeSlice image items start stop step).bindCopy hmany
  | bool b | int n => exact single _
  | _ => exact follows_throw_of_eq (congrArg (Fault.typeBare _) typed)

/-- A sequence of which the items are in no cell. -/
theorem follows_fromSequence_same {α : Type} (what range : String) (items : List α)
    {one : α → Value} {many : List α → Value} (hone : ∀ item, (one item).rename ρ = one item)
    (hmany : ∀ items, (many items).rename ρ = many items) (index : Value) :
    Copies ρ base (Value.rename ρ)
      (fromSequence what range items one (fun items => return many items) index)
      (fromSequence what range items one (fun items => return many items) (index.rename ρ)) := by
  have same : ∀ items, Copies ρ base (Value.rename ρ) (pure (many items))
      (pure (many (items.map id))) := by
    intro items
    rw [List.map_id]
    exact follows_pure (hmany items).symm
  have follows : Copies ρ base (Value.rename ρ)
      (fromSequence what range items one (fun items => return many items) index)
      (fromSequence what range (items.map id) one (fun items => return many items)
        (index.rename ρ)) :=
    follows_fromSequence id what range items (fun item => (hone item).symm) same index
  rwa [List.map_id] at follows

theorem follows_subscript (object index : Value) :
    Copies ρ base (Value.rename ρ) (subscript object index)
      (subscript (object.rename ρ) (index.rename ρ)) := by
  have typed := Value.typeName_rename (ρ := ρ) index
  have objectTyped := Value.typeName_rename (ρ := ρ) object
  have itself : ∀ item : Value, id (item.rename ρ) = (id item).rename ρ := fun _ => rfl
  cases object with
  | mapping chain =>
      refine (follows_checkKey index).bindSame fun _ => ?_
      refine (follows_scope chain).bindCopy fun layers => ?_
      rw [Scope.get?_image keepsKeys_rename]
      cases layers.get? index with
      | none => exact follows_missing index
      | some value => exact follows_pure rfl
  | list address =>
      refine follows_get fun {store _} mirrors => ?_
      rw [mirrors.list]
      exact follows_fromSequence (Value.rename ρ) _ _ _ itself follows_newList index
  | tuple items =>
      rw [Value.rename, Value.renameAll_eq_map]
      refine follows_fromSequence (Value.rename ρ) _ _ items itself (fun items => ?_) index
      exact follows_pure (by rw [Value.rename, Value.renameAll_eq_map])
  | text t =>
      have characters : ∀ c : Char, (Value.text [c]).rename ρ = .text [c] := fun _ => rfl
      have texts : ∀ t : Text, (Value.text t).rename ρ = .text t := fun _ => rfl
      have item : Copies ρ base _ _ _ :=
        follows_fromSequence_same "" "string index" t characters texts index
      cases index with
      | slice _ _ _ | bool _ | int _ => exact item
      | _ => exact follows_throw_of_eq (congrArg (Fault.typeNamed _) typed)
  | bytes b =>
      have numbers : ∀ x : UInt8, (Value.int x.toNat).rename ρ = .int x.toNat := fun _ => rfl
      have bytes : ∀ b : List UInt8, (Value.bytes b).rename ρ = .bytes b := fun _ => rfl
      exact follows_fromSequence_same _ _ b numbers bytes index
  | range start stop step =>
      cases index with
      | slice first last stride =>
          exact (follows_sliceBounds _ first last stride).bindSame fun bounds => follows_pure rfl
      | bool _ | int _ =>
          unfold subscript
          dsimp only [Value.rename]
          split
          · exact follows_throw _
          · split
            · exact follows_pure rfl
            · exact follows_throw _
      | _ => exact follows_throw_of_eq (congrArg (Fault.typeBare _) typed)
  | _ => exact follows_throw_of_eq (congrArg (fun name => Fault.object name _) objectTyped)

theorem setPlaces_rename (items : List Value) (places : List Nat) (news : List Value) :
    setPlaces (items.map (Value.rename ρ)) places (news.map (Value.rename ρ))
      = (setPlaces items places news).map (Value.rename ρ) := by
  unfold setPlaces
  induction places generalizing items news with
  | nil => rfl
  | cons place places ih =>
      cases news with
      | nil => rfl
      | cons item news =>
          rw [List.map_cons, List.zip_cons_cons, List.zip_cons_cons, List.foldl_cons,
            List.foldl_cons]
          dsimp only
          rw [← List.map_set, ih]

theorem follows_replaceSlice (items : List Value) (start stop step : Value) (news : List Value) :
    Copies ρ base (List.map (Value.rename ρ)) (replaceSlice items start stop step news)
      (replaceSlice (items.map (Value.rename ρ)) (start.rename ρ) (stop.rename ρ) (step.rename ρ)
        (news.map (Value.rename ρ))) := by
  unfold replaceSlice
  rw [List.length_map, List.length_map]
  refine (follows_sliceBounds items.length start stop step).bindSame fun bounds => ?_
  obtain ⟨start, stop, step⟩ := bounds
  dsimp only
  split
  · exact follows_pure (by rw [List.map_append, List.map_append, List.map_take, List.map_drop])
  split
  · exact follows_pure (setPlaces_rename items _ news)
  · exact follows_throw _

theorem follows_assign (object index value : Value) :
    Follows ρ base Eq (assign object index value)
      (assign (object.rename ρ) (index.rename ρ) (value.rename ρ)) := by
  have typed := Value.typeName_rename (ρ := ρ) index
  have objectTyped := Value.typeName_rename (ρ := ρ) object
  cases object with
  | mapping chain =>
      refine (follows_checkKey index).bindSame fun _ => ?_
      refine (follows_scope chain).bindCopy fun layers => ?_
      rw [Scope.put_image keepsKeys_rename]
      exact follows_writeScope chain _
  | list address =>
      refine follows_get fun {store _} mirrors => ?_
      rw [mirrors.list]
      cases index with
      | slice start stop step =>
          refine follows_get fun {store' _} mirrors => ?_
          rw [mirrors.items?]
          cases store'.items? value with
          | none => exact follows_throw _
          | some news =>
              refine (follows_replaceSlice _ start stop step news).bindCopy fun items => ?_
              exact follows_write address (.list items)
      | bool _ | int _ =>
          dsimp only [Value.rename, Value.integer?]
          rw [List.length_map]
          refine (follows_placeIn _ _ _).bindSame fun place => ?_
          rw [← List.map_set]
          exact follows_write address (.list _)
      | _ => exact follows_throw_of_eq (congrArg (Fault.typeBare _) typed)
  | _ => exact follows_throw_of_eq (congrArg (fun name => Fault.object name _) objectTyped)

theorem dropPlaces_rename (items : List Value) (places : List Nat) :
    dropPlaces (items.map (Value.rename ρ)) places
      = (dropPlaces items places).map (Value.rename ρ) := by
  unfold dropPlaces
  rw [List.zipIdx_map, List.filter_map, List.map_map, List.map_map]
  rfl

theorem follows_delete (object index : Value) :
    Follows ρ base Eq (delete object index) (delete (object.rename ρ) (index.rename ρ)) := by
  have typed := Value.typeName_rename (ρ := ρ) index
  have objectTyped := Value.typeName_rename (ρ := ρ) object
  cases object with
  | mapping chain =>
      refine (follows_checkKey index).bindSame fun _ => ?_
      refine (follows_scope chain).bindCopy fun layers => ?_
      rw [Scope.erase?_image keepsKeys_rename]
      cases layers.erase? index with
      | none => exact follows_missing index
      | some layers => exact follows_writeScope chain layers
  | list address =>
      refine follows_get fun {store _} mirrors => ?_
      rw [mirrors.list]
      cases index with
      | slice start stop step =>
          dsimp only [Value.rename]
          rw [List.length_map]
          refine (follows_slicePlaces _ start stop step).bindSame fun places => ?_
          rw [dropPlaces_rename]
          exact follows_write address (.list _)
      | bool _ | int _ =>
          dsimp only [Value.rename, Value.integer?]
          rw [List.length_map]
          refine (follows_placeIn _ _ _).bindSame fun place => ?_
          rw [List.eraseIdx_map]
          exact follows_write address (.list _)
      | _ => exact follows_throw_of_eq (congrArg (Fault.typeBare _) typed)
  | text _ | bytes _ | tuple _ | range _ _ _ | set _ =>
      unfold delete
      dsimp only [Value.rename] at objectTyped ⊢
      rw [Value.integer?_rename, objectTyped]
      exact follows_throw _
  | _ => exact follows_throw_of_eq (congrArg (fun name => Fault.object name _) objectTyped)

/-- Taking a value apart compares a number of items, so both sides fail alike. -/
theorem follows_unpack (count : Nat) (value : Value) :
    Copies ρ base (List.map (Value.rename ρ)) (unpack count value)
      (unpack count (value.rename ρ)) := by
  refine follows_get fun {store _} mirrors => ?_
  rw [mirrors.items?, Value.typeName_rename]
  cases store.items? value with
  | none => exact follows_throw _
  | some items =>
      dsimp only [Option.map_some]
      rw [List.length_map]
      split
      · exact follows_throw _
      split
      · exact follows_throw _
      · exact follows_pure rfl

end Stencil.Script.Operation
