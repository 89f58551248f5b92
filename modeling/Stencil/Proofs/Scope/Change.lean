import Stencil.Proofs.Scope

/-!
# Changes to a scope

`Scope.Change` lists what can be done to a mapping, and `Scope.Edit` says where in a stack of layers
it is done: through the mapping that a layer forms with all layers around it, or to the table of one
layer alone. A change that fails leaves everything as it was.

`Scope.Keeps` is what every history preserves (`keeps_after`): no key is there twice in a layer, and
the number of layers stays the same. What writing and removing a key keep, all changes keep
(`Scope.IsKept.changed`), and the rest is induction over the history.
-/

namespace Stencil

namespace Scope

/-- What can be done to a mapping. -/
inductive Change (K V : Type)
  | put (key : K) (value : V)
  | erase (key : K)
  | pop (key : K)
  | popItem
  | clear
  | setDefault (key : K) (value : V)
  | update (entries : List (K × V))

/-- A change to a mapping in a stack of layers. -/
structure Edit (K V : Type) where
  /-- The number of layers inside of the mapping. -/
  depth : Nat
  /-- Is the mapping the table of one layer, without the layers around it? -/
  alone : Bool := false
  change : Change K V

variable {K V : Type} [BEq K]

/-- The layers after their first visible entry is taken out, or for a single table its last one. -/
def withoutItem : Scope K V → Scope K V
  | [entries] => [entries.dropLast]
  | scope => ((popFirst? scope).map (·.2)).getD scope

/-- The layers of a mapping after a change. -/
def changed (scope : Scope K V) : Change K V → Scope K V
  | .put key value => put key value scope
  | .erase key => (erase? key scope).getD scope
  | .pop key => ((pop? key scope).map (·.2)).getD scope
  | .popItem => withoutItem scope
  | .clear => clear scope
  | .setDefault key value => (getOrPut key value scope).2
  | .update entries => putAll entries scope

/-- A stack of layers after a change to a mapping in it. -/
def edited (scope : Scope K V) (edit : Edit K V) : Scope K V :=
  let outer := scope.drop edit.depth
  scope.take edit.depth ++
    if edit.alone then changed (outer.take 1) edit.change ++ outer.drop 1
    else changed outer edit.change

/-- A stack of layers after several changes, one after another. -/
def after (scope : Scope K V) (edits : List (Edit K V)) : Scope K V :=
  edits.foldl edited scope

variable {scope rest : Scope K V} {key : K} {value : V}

/-! ### What changes keep

All changes are made of two: writing a key and removing one. -/

/-- A relation between a scope and what changes make of it, which writing and removing keep. -/
structure IsKept (R : Scope K V → Scope K V → Prop) : Prop where
  refl (scope : Scope K V) : R scope scope
  trans {scope mid rest : Scope K V} : R scope mid → R mid rest → R scope rest
  put (key : K) (value : V) (scope : Scope K V) : R scope (put key value scope)
  erase {key : K} {scope rest : Scope K V} : erase? key scope = some rest → R scope rest
  /-- A single table gives its last entry away. -/
  dropLast (entries : Table K V) : R [entries] [entries.dropLast]

namespace IsKept

variable {R : Scope K V → Scope K V → Prop}

theorem pop? (kept : IsKept R) (h : Scope.pop? key scope = some (value, rest)) : R scope rest := by
  obtain ⟨found, -, h⟩ := Option.bind_eq_some_iff.1 h
  obtain ⟨left, hleft, h⟩ := Option.bind_eq_some_iff.1 h
  cases h
  exact kept.erase hleft

/-- Taking the first entry out is an erasure, of the key that comes first. -/
theorem popFirst? (kept : IsKept R) {entry : K × V} (h : Scope.popFirst? scope = some (entry, rest)) :
    R scope rest := by
  obtain ⟨first, -, h⟩ := Option.bind_eq_some_iff.1 h
  obtain ⟨⟨value, left⟩, hleft, h⟩ := Option.bind_eq_some_iff.1 h
  cases h
  exact kept.pop? hleft

theorem drain (kept : IsKept R) {limit : Nat} : R scope (Scope.drain limit scope).2 := by
  induction limit generalizing scope with
  | zero => exact kept.refl scope
  | succ limit ih =>
      rw [Scope.drain]
      split
      · exact kept.refl scope
      · rename_i entry rest hrest
        exact kept.trans (kept.popFirst? hrest) ih

theorem getOrPut (kept : IsKept R) : R scope (Scope.getOrPut key value scope).2 := by
  unfold Scope.getOrPut
  split
  · exact kept.refl scope
  · exact kept.put key value scope

theorem putAll (kept : IsKept R) {entries : List (K × V)} :
    R scope (Scope.putAll entries scope) := by
  induction entries generalizing scope with
  | nil => exact kept.refl scope
  | cons entry entries ih =>
      rw [Scope.putAll, List.foldl_cons]
      exact kept.trans (kept.put entry.1 entry.2 scope) ih

theorem getD (kept : IsKept R) {found : Option (Scope K V)}
    (h : ∀ rest, found = some rest → R scope rest) : R scope (found.getD scope) := by
  cases found with
  | none => exact kept.refl scope
  | some rest => exact h rest rfl

/-- A single table gives its last entry, several layers the first that is seen. -/
theorem withoutItem (kept : IsKept R) : R scope (Scope.withoutItem scope) := by
  unfold Scope.withoutItem
  split
  · exact kept.dropLast _
  · refine kept.getD ?_
    intro rest hrest
    obtain ⟨⟨entry, last⟩, hentry, rfl⟩ := Option.map_eq_some_iff.1 hrest
    exact kept.popFirst? hentry

/-- **One change** to a mapping. -/
theorem changed (kept : IsKept R) (change : Change K V) : R scope (Scope.changed scope change) := by
  cases change with
  | put key value => exact kept.put key value scope
  | erase key => exact kept.getD fun rest hrest => kept.erase hrest
  | pop key =>
      refine kept.getD ?_
      intro rest hrest
      obtain ⟨⟨value, last⟩, hvalue, rfl⟩ := Option.map_eq_some_iff.1 hrest
      exact kept.pop? hvalue
  | popItem => exact kept.withoutItem
  | clear => exact kept.drain
  | setDefault key value => exact kept.getOrPut
  | update entries => exact kept.putAll

end IsKept

/-- What no change to a scope breaks. -/
structure Keeps (scope rest : Scope K V) : Prop where
  areMaps : (∀ layer ∈ scope, Table.IsMap layer) → ∀ layer ∈ rest, Table.IsMap layer
  length : rest.length = scope.length

theorem Keeps.refl : Keeps scope scope where
  areMaps h := h
  length := rfl

theorem Keeps.trans {mid : Scope K V} (h : Keeps scope mid) (h' : Keeps mid rest) :
    Keeps scope rest where
  areMaps hmaps := h'.areMaps (h.areMaps hmaps)
  length := h'.length.trans h.length

theorem Keeps.append {inner outer outer' : Scope K V} (h : Keeps outer outer') :
    Keeps (inner ++ outer) (inner ++ outer') where
  areMaps hmaps := by
    rw [List.forall_mem_append] at hmaps ⊢
    exact ⟨hmaps.1, h.areMaps hmaps.2⟩
  length := by rw [List.length_append, List.length_append, h.length]

theorem Keeps.append_right {inner inner' outer : Scope K V} (h : Keeps inner inner') :
    Keeps (inner ++ outer) (inner' ++ outer) where
  areMaps hmaps := by
    rw [List.forall_mem_append] at hmaps ⊢
    exact ⟨h.areMaps hmaps.1, hmaps.2⟩
  length := by rw [List.length_append, List.length_append, h.length]

theorem keeps_put : Keeps scope (put key value scope) where
  areMaps := isMap_put
  length := length_put

/-- Erasing a key keeps the layers. The key leaves one of them, and the others stay as they are. -/
theorem keeps_erase? (h : erase? key scope = some rest) : Keeps scope rest := by
  induction scope generalizing rest with
  | nil => cases h
  | cons layer outer ih =>
      rw [erase?] at h
      split at h
      · cases h
        refine ⟨?_, rfl⟩
        intro hmaps
        obtain ⟨hlayer, houter⟩ := List.forall_mem_cons.1 hmaps
        exact List.forall_mem_cons.2 ⟨hlayer.without, houter⟩
      · obtain ⟨left, hleft, rfl⟩ := Option.map_eq_some_iff.1 h
        have hkeeps : Keeps ([layer] ++ outer) ([layer] ++ left) := (ih hleft).append
        exact hkeeps

/-- Writing and erasing keep, hence every method does. -/
theorem isKept_keeps : IsKept (Keeps (K := K) (V := V)) where
  refl _ := .refl
  trans := Keeps.trans
  put _ _ _ := keeps_put
  erase := keeps_erase?
  dropLast entries := by
    refine ⟨?_, rfl⟩
    intro hmaps
    rw [List.forall_mem_singleton] at hmaps ⊢
    exact hmaps.sublist (entries.dropLast_sublist.map _)

/-! ### Edits -/

theorem keeps_edited (edit : Edit K V) : Keeps scope (edited scope edit) := by
  -- The table of a single layer is itself a stack of one layer.
  have hinner : ∀ outer : Scope K V, Keeps outer
      (if edit.alone then changed (outer.take 1) edit.change ++ outer.drop 1
        else changed outer edit.change) := by
    intro outer
    split
    · have hkeeps : Keeps (outer.take 1 ++ outer.drop 1)
          (changed (outer.take 1) edit.change ++ outer.drop 1) :=
        (isKept_keeps.changed edit.change).append_right
      rwa [List.take_append_drop] at hkeeps
    · exact isKept_keeps.changed edit.change
  have hkeeps : Keeps (scope.take edit.depth ++ scope.drop edit.depth) (edited scope edit) :=
    (hinner _).append
  rwa [List.take_append_drop] at hkeeps

/-- **A whole history** of changes. -/
theorem keeps_after (edits : List (Edit K V)) : Keeps scope (after scope edits) := by
  induction edits generalizing scope with
  | nil => exact .refl
  | cons edit edits ih => exact (keeps_edited edit).trans ih

end Scope

end Stencil
