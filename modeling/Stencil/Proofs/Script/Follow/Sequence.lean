import Stencil.Proofs.Script.Follow.Operation
import Stencil.Script.Sorting
import Stencil.Script.Visit

/-!
# Sorting copies of values and going through them

Sorting puts copies into the order of the values, and a loop over a copy of a value visits the copies
of what a loop over the value visits.
-/

namespace Stencil.Script

open Eval

variable {ρ : Address ↪ Address} {base store mirror : Store}

namespace Sorting

/-- A sort key and its item with the addresses in them renamed. -/
def Keyed.rename (ρ : Address ↪ Address) : Keyed → Keyed :=
  Prod.map (Value.rename ρ) (Value.rename ρ)

theorem follows_less (a b : Keyed) :
    Follows ρ base Eq (less a b) (less (Keyed.rename ρ a) (Keyed.rename ρ b)) :=
  Operation.follows_ordered .lt _ a.1 b.1

theorem follows_run (down : Bool) (last : Keyed) (items : List Keyed) :
    Copies ρ base (Prod.map (List.map (Keyed.rename ρ)) (List.map (Keyed.rename ρ)))
      (run down last items)
      (run down (Keyed.rename ρ last) (items.map (Keyed.rename ρ))) := by
  induction items generalizing last with
  | nil => exact follows_pure rfl
  | cons item rest ih =>
      rw [List.map_cons, run, run]
      refine (follows_less item last).bindSame fun isLess => ?_
      split
      · exact (ih item).bindCopy fun split => follows_pure rfl
      · exact follows_pure rfl

theorem follows_placeOf (item : Keyed) (sorted : Array Keyed) (limit low high : Nat) :
    Follows ρ base Eq (placeOf item sorted limit low high)
      (placeOf (Keyed.rename ρ item) (sorted.map (Keyed.rename ρ)) limit low high) := by
  induction limit generalizing low high with
  | zero => exact follows_pure rfl
  | succ limit ih =>
      rw [placeOf, placeOf]
      split
      · dsimp only
        rw [Array.getElem?_map]
        cases sorted[low + (high - low) / 2]? with
        | none => exact ih _ _
        | some other =>
            refine (follows_less item other).bindSame fun isLess => ?_
            split
            · exact ih _ _
            · exact ih _ _
      · exact follows_pure rfl

theorem insertIdxIfInBounds_map {α β : Type} (f : α → β) (items : Array α) (place : Nat) (item : α) :
    (items.map f).insertIdxIfInBounds place (f item)
      = (items.insertIdxIfInBounds place item).map f := by
  unfold Array.insertIdxIfInBounds
  by_cases inside : place ≤ items.size
  · rw [dif_pos inside, dif_pos (Array.size_map.symm ▸ inside)]
    apply Array.toList_inj.1
    rw [Array.toList_insertIdx, Array.toList_map, Array.toList_map, Array.toList_insertIdx,
      List.map_insertIdx]
  · rw [dif_neg inside, dif_neg (Array.size_map.symm ▸ inside)]

theorem follows_insertAll (sorted : Array Keyed) (items : List Keyed) :
    Copies ρ base (Array.map (Keyed.rename ρ)) (insertAll sorted items)
      (insertAll (sorted.map (Keyed.rename ρ)) (items.map (Keyed.rename ρ))) := by
  induction items generalizing sorted with
  | nil => exact follows_pure rfl
  | cons item rest ih =>
      rw [List.map_cons, insertAll, insertAll, Array.size_map]
      refine (follows_placeOf item sorted _ _ _).bindSame fun place => ?_
      rw [insertIdxIfInBounds_map]
      exact ih _

/-- Items in order, or in reverse. -/
theorem map_ite_reverse {α β : Type} (f : α → β) (isReverse : Bool) (items : List α) :
    (if isReverse then (items.map f).reverse else items.map f)
      = (if isReverse then items.reverse else items).map f := by
  cases isReverse with
  | true => exact List.map_reverse.symm
  | false => rfl

theorem follows_ascending (items : List Keyed) :
    Copies ρ base (List.map (Keyed.rename ρ)) (ascending items)
      (ascending (items.map (Keyed.rename ρ))) := by
  rcases items with _ | ⟨first, _ | ⟨second, rest⟩⟩
  · exact follows_pure rfl
  · exact follows_pure rfl
  · refine (follows_less second first).bindSame fun down => ?_
    refine (follows_run down first (second :: rest)).bindCopy fun split => ?_
    dsimp only [Prod.map]
    rw [← List.map_cons, map_ite_reverse, ← List.map_toArray]
    refine (follows_insertAll _ split.2).bindCopy fun sorted => ?_
    exact follows_pure Array.toList_map

/-- A sort makes the same comparisons on both sides, so it fails at the same one or puts the items
in the same order. -/
theorem follows_sort (isReverse : Bool) (items : List Keyed) :
    Copies ρ base (List.map (Value.rename ρ)) (sort isReverse items)
      (sort isReverse (items.map (Keyed.rename ρ))) := by
  unfold sort
  rw [map_ite_reverse]
  refine (follows_ascending _).bindCopy fun sorted => ?_
  rw [map_ite_reverse]
  exact follows_pure (by rw [List.map_map, List.map_map]; rfl)

end Sorting

namespace Visit

/-- The visit with the addresses in it renamed. -/
def rename (ρ : Address ↪ Address) : Visit → Visit
  | check address size => .check (ρ address) size
  | item value => .item (value.rename ρ)
  | entry kind chain key => .entry kind (chain.map ρ) (key.rename ρ)

theorem follows_checkSize (address : Address) (size : Nat) :
    Follows ρ base Eq (checkSize address size) (checkSize (ρ address) size) := by
  refine follows_get fun {store _} mirrors => ?_
  rw [mirrors.cells]
  rcases store.cells[address]? with _ | ⟨items | entries | items⟩
  · exact follows_pure rfl
  · exact follows_pure rfl
  · dsimp only [Option.map_some, Cell.rename]
    rw [Table.length_image]
    split
    · exact follows_pure rfl
    · exact follows_throw _
  · dsimp only [Option.map_some, Cell.rename]
    rw [List.length_map]
    split
    · exact follows_pure rfl
    · exact follows_throw _

/-- What a visit takes, or the fault of a cell that has changed its size. -/
theorem follows_item? (visit : Visit) :
    Copies ρ base (Option.map (Value.rename ρ)) visit.item? (visit.rename ρ).item? := by
  cases visit with
  | check address size => exact (follows_checkSize address size).bindSame fun _ => follows_pure rfl
  | item value => exact follows_pure rfl
  | entry kind chain key =>
      refine (follows_scope chain).bindCopy fun layers => ?_
      rw [Scope.get?_image keepsKeys_rename]
      cases kind with
      | keys => exact follows_pure rfl
      | values | items =>
          cases layers.get? key with
          | none => exact follows_missing key
          | some value => exact follows_pure (by simp)

end Visit

namespace Stretch

/-- The stretch with the addresses in it renamed. -/
def rename (ρ : Address ↪ Address) : Stretch → Stretch
  | known visits => .known (visits.map (Visit.rename ρ))
  | layer kind chain inner address size? =>
      .layer kind (chain.map ρ) (Layers.rename ρ inner) (ρ address) size?

/-- A layer of a mirror has the copies of the keys, and its own keys are hidden alike. -/
theorem visits_rename (h : Store.Mirrors ρ base store mirror) (stretch : Stretch) :
    (stretch.rename ρ).visits mirror = (stretch.visits store).map (Visit.rename ρ) := by
  cases stretch with
  | known visits => rfl
  | layer kind chain inner address size? =>
      have keys : (Entries.rename ρ (store.dict address)).map (·.1)
          = ((store.dict address).map (·.1)).map (Value.rename ρ) := Table.keys_image
      have each (key : Value) (size : Nat) :
          (if (Layers.rename ρ inner).has (key.rename ρ) then [.check (ρ address) size]
            else [.check (ρ address) size, .entry kind (chain.map ρ) (key.rename ρ)])
          = (if inner.has key then [.check address size]
            else [.check address size, .entry kind chain key]).map (Visit.rename ρ) := by
        rw [Scope.has_image keepsKeys_rename]
        split <;> rfl
      rw [rename, visits, visits, h.dict, keys]
      simp only [List.length_map, List.flatMap_map, List.map_append, List.map_flatMap, each]
      rfl

theorem ofLayers_rename (h : Store.Mirrors ρ base store mirror) (kind : ViewKind)
    (chain inner outer : List Address) :
    ofLayers mirror kind (chain.map ρ) (inner.map ρ) (outer.map ρ)
      = (ofLayers store kind chain inner outer).map (rename ρ) := by
  induction outer generalizing inner with
  | nil => rfl
  | cons address outer ih =>
      rw [List.map_cons, ofLayers, ofLayers, h.scope, h.dict, Table.length_image, List.isEmpty_map]
      exact congrArg _ (ih (address :: inner))

/-- A value that can be gone through has its stretches renamed, and no other has any. -/
theorem ofValue?_rename (h : Store.Mirrors ρ base store mirror) (value : Value) :
    ofValue? mirror (value.rename ρ) = (ofValue? store value).map (List.map (rename ρ)) := by
  have plain : (mirror.items? (value.rename ρ)).map (fun items => [known (items.map .item)])
      = ((store.items? value).map fun items => [known (items.map .item)]).map
        (List.map (rename ρ)) := by
    rw [h.items?]
    cases store.items? value with
    | none => rfl
    | some items => simp [Function.comp_def, rename, Visit.rename]
  cases value with
  | mapping chain => exact congrArg some (ofLayers_rename h .keys chain [] chain)
  | view kind chain => exact congrArg some (ofLayers_rename h kind chain [] chain)
  | set address =>
      simp [ofValue?, h.set, List.flatMap_map, List.map_flatMap, rename, Visit.rename]
  | _ => exact plain

end Stretch

end Stencil.Script
