import Stencil.Proofs.Render.Refinement
import Stencil.Proofs.Script.Mirror

/-!
# Computations that follow one another

`Eval.Follows` relates two computations of scripts: from a store and a copy of it they end alike,
with related results or with the same fault, and in a store and a copy of it again. It is shown for
the ways in which computations are put together, and for those that change a cell or make a new one.

Most results of a copied computation are the copy of a result (`Eval.Copies`), or the very same.
-/

namespace Stencil.Script

variable {ρ : Address ↪ Address} {base store mirror : Store}

/-! ### Changes of a copied store -/

namespace Store.Mirrors

variable (h : Store.Mirrors ρ base store mirror)
include h

theorem size : mirror.cells.size = ρ store.cells.size := by
  simpa using (h.fresh 0).symm

theorem lt_size_iff (address : Address) :
    ρ address < mirror.cells.size ↔ address < store.cells.size := by
  rw [← Nat.not_le, ← Array.getElem?_eq_none_iff, h.cells, Option.map_eq_none_iff,
    Array.getElem?_eq_none_iff, Nat.not_le]

/-- A new cell and a new copy of it. -/
theorem push (cell : Cell) :
    Store.Mirrors ρ base ⟨store.cells.push cell⟩ ⟨mirror.cells.push (cell.rename ρ)⟩ where
  cells address := by
    rw [Array.getElem?_push, Array.getElem?_push, h.cells, h.size]
    by_cases same : address = store.cells.size
    · rw [if_pos (congrArg ρ same), if_pos same, Option.map_some]
    · rw [if_neg (ρ.injective.ne same), if_neg same]
  fresh count := by
    have next := h.fresh (1 + count)
    rw [Array.size_push, Array.size_push, Nat.add_assoc, next, Nat.add_assoc]
  beside address copied := by
    rw [Array.getElem?_push, if_neg fun same => copied store.cells.size (h.size ▸ same.symm)]
    exact h.beside address copied

/-- Writing a cell and its image keeps one store the image of the other. Cells in front of the image
are not reached. -/
theorem write (address : Address) (cell : Cell) :
    Store.Mirrors ρ base (store.write address cell)
      (mirror.write (ρ address) (cell.rename ρ)) where
  cells a := by
    rw [Store.write, Store.write, Array.getElem?_setIfInBounds, Array.getElem?_setIfInBounds,
      h.cells]
    by_cases same : address = a
    · rw [if_pos (congrArg ρ same), if_pos same]
      by_cases inside : address < store.cells.size
      · rw [if_pos ((h.lt_size_iff address).2 inside), if_pos inside, Option.map_some]
      · rw [if_neg (mt (h.lt_size_iff address).1 inside), if_neg inside, Option.map_none]
    · rw [if_neg (ρ.injective.ne same), if_neg same]
  fresh count := by
    rw [Store.write, Store.write, Array.size_setIfInBounds, Array.size_setIfInBounds]
    exact h.fresh count
  beside a copied := by
    rw [Store.write, Array.getElem?_setIfInBounds, if_neg (copied address)]
    exact h.beside a copied

theorem writeScope (chain : List Address) (layers : Scope Value Value) :
    Store.Mirrors ρ base (store.writeScope chain layers)
      (mirror.writeScope (chain.map ρ) (Layers.rename ρ layers)) := by
  unfold Store.writeScope
  induction chain generalizing store mirror layers with
  | nil => exact h
  | cons address outer ih =>
      cases layers with
      | nil => exact h
      | cons layer layers => exact ih (h.write address (.dict layer)) layers

end Store.Mirrors

namespace Eval

variable {α α' β β' γ γ' : Type}

/-! ### Following -/

/-- The second computation does on a copy of a store what the first one does on the store. -/
def Follows (ρ : Address ↪ Address) (base : Store) (Same : α → β → Prop) (run : Eval α)
    (copy : Eval β) : Prop :=
  ∀ store mirror, Store.Mirrors ρ base store mirror →
    Alike Same (Store.Mirrors ρ base) (run store) (copy mirror)

/-- The second computation follows the first one, and its result is an image of the result. -/
abbrev Copies (ρ : Address ↪ Address) (base : Store) (image : α → β) (run : Eval α)
    (copy : Eval β) : Prop :=
  Follows ρ base (fun result copied => copied = image result) run copy

section

variable {Same : α → α' → Prop} {Then : β → β' → Prop}

theorem follows_pure {a : α} {b : α'} (h : Same a b) : Follows ρ base Same (pure a) (pure b) :=
  fun _ _ mirrors => .ok h mirrors

theorem follows_throw (fault : Fault) :
    Follows ρ base Same (throw fault : Eval α) (throw fault : Eval α') :=
  fun _ _ mirrors => .error mirrors

theorem follows_throw_of_eq {fault fault' : Fault} (h : fault' = fault) :
    Follows ρ base Same (throw fault : Eval α) (throw fault' : Eval α') := by
  subst h
  exact follows_throw fault'

/-- **Two steps, one after another.** The second may depend on the first only through the relation
that the first ends in. -/
theorem Follows.bind {run : Eval α} {copy : Eval α'} {next : α → Eval β} {next' : α' → Eval β'}
    (hrun : Follows ρ base Same run copy)
    (hnext : ∀ a b, Same a b → Follows ρ base Then (next a) (next' b)) :
    Follows ρ base Then (run >>= next) (copy >>= next') := by
  intro store mirror mirrors
  have ends := hrun store mirror mirrors
  -- Two runs that follow each other both go on or both fail; the mixed cases are empty.
  cases hresult : run store with
  | ok a rest =>
      rw [hresult] at ends
      rw [Render.bind_ok hresult]
      cases hcopied : copy mirror with
      | ok b rest' =>
          rw [hcopied] at ends
          rw [Render.bind_ok hcopied]
          cases ends with
          | ok same sim => exact hnext a b same _ _ sim
      | error fault rest' =>
          rw [hcopied] at ends
          cases ends
  | error fault rest =>
      rw [hresult] at ends
      rw [Render.bind_error hresult]
      cases hcopied : copy mirror with
      | ok b rest' =>
          rw [hcopied] at ends
          cases ends
      | error fault' rest' =>
          rw [hcopied] at ends
          rw [Render.bind_error hcopied]
          cases ends with
          | error sim => exact .error sim

/-- What comes after a copied result. -/
theorem Follows.bindCopy {image : α → α'} {run : Eval α} {copy : Eval α'} {next : α → Eval β}
    {next' : α' → Eval β'} (hrun : Copies ρ base image run copy)
    (hnext : ∀ a, Follows ρ base Then (next a) (next' (image a))) :
    Follows ρ base Then (run >>= next) (copy >>= next') :=
  hrun.bind fun a _ same => same ▸ hnext a

/-- What comes after the same result. -/
theorem Follows.bindSame {run copy : Eval α} {next : α → Eval β} {next' : α → Eval β'}
    (hrun : Follows ρ base Eq run copy) (hnext : ∀ a, Follows ρ base Then (next a) (next' a)) :
    Follows ρ base Then (run >>= next) (copy >>= next') :=
  hrun.bind fun a _ same => same ▸ hnext a

/-- A computation that looks at the store first. -/
theorem follows_get {next : Store → Eval β} {next' : Store → Eval β'}
    (hnext : ∀ {store mirror}, Store.Mirrors ρ base store mirror →
      Follows ρ base Then (next store) (next' mirror)) :
    Follows ρ base Then (get >>= next) (get >>= next') :=
  fun _ _ mirrors => hnext mirrors _ _ mirrors

/-- A question may be asked of the copy if it has the same answer there. -/
theorem follows_ask {question question' : Store → Except Fault α}
    (h : ∀ {store mirror}, Store.Mirrors ρ base store mirror → question' mirror = question store) :
    Follows ρ base Eq (ask question) (ask question') := by
  intro store mirror mirrors
  rw [ask, ask, h mirrors]
  cases question store with
  | ok answer => exact .ok rfl mirrors
  | error fault => exact .error mirrors

theorem follows_ofExcept (result : Except Fault α) :
    Follows ρ base Eq (ofExcept result) (ofExcept result) :=
  follows_ask fun _ => rfl

theorem copies_ofExcept {result : Except Fault α} {result' : Except Fault α'} {image : α → α'}
    (h : result' = result.map image) :
    Copies ρ base image (ofExcept result) (ofExcept result') := by
  intro store mirror mirrors
  rw [h]
  cases result with
  | ok answer => exact .ok rfl mirrors
  | error fault => exact .error mirrors

/-! ### Several items -/

theorem follows_forIn {image : γ → γ'} {round : γ → PUnit → Eval (ForInStep PUnit)}
    {round' : γ' → PUnit → Eval (ForInStep PUnit)} (items : List γ)
    (h : ∀ item, Follows ρ base Eq (round item ⟨⟩) (round' (image item) ⟨⟩)) :
    Follows ρ base Eq (forIn items ⟨⟩ round) (forIn (items.map image) ⟨⟩ round') := by
  induction items with
  | nil => exact follows_pure rfl
  | cons item rest ih =>
      rw [List.map_cons, List.forIn_cons, List.forIn_cons]
      refine (h item).bindSame fun step => ?_
      cases step with
      | done _ => exact follows_pure rfl
      | yield _ => exact ih

theorem follows_mapM {image : γ → γ'} {result : α → α'} {run : γ → Eval α} {copy : γ' → Eval α'}
    (items : List γ) (h : ∀ item ∈ items, Copies ρ base result (run item) (copy (image item))) :
    Copies ρ base (List.map result) (items.mapM run) ((items.map image).mapM copy) := by
  induction items with
  | nil => exact follows_pure rfl
  | cons item rest ih =>
      rw [List.map_cons, List.mapM_cons, List.mapM_cons]
      refine (h item List.mem_cons_self).bindCopy fun a => ?_
      refine Follows.bindCopy (ih fun item hmem => h item (List.mem_cons_of_mem _ hmem)) fun more => ?_
      exact follows_pure rfl

theorem follows_mapM_same {image : γ → γ'} {run : γ → Eval α} {copy : γ' → Eval α}
    (items : List γ) (h : ∀ item, Follows ρ base Eq (run item) (copy (image item))) :
    Follows ρ base Eq (items.mapM run) ((items.map image).mapM copy) := by
  induction items with
  | nil => exact follows_pure rfl
  | cons item rest ih =>
      rw [List.map_cons, List.mapM_cons, List.mapM_cons]
      exact (h item).bindSame fun a => ih.bindSame fun more => follows_pure rfl

theorem follows_filterM {image : γ → γ'} {run : γ → Eval Bool} {copy : γ' → Eval Bool}
    (items : List γ) (h : ∀ item, Follows ρ base Eq (run item) (copy (image item))) :
    Copies ρ base (List.map image) (items.filterM run) ((items.map image).filterM copy) := by
  have kept : ∀ seen : List γ, Copies ρ base (List.map image) (items.filterAuxM run seen)
      ((items.map image).filterAuxM copy (seen.map image)) := by
    induction items with
    | nil => exact fun seen => follows_pure rfl
    | cons item rest ih =>
        intro seen
        rw [List.map_cons, List.filterAuxM, List.filterAuxM]
        refine (h item).bindSame fun keeps => ?_
        cases keeps with
        | true => exact ih (item :: seen)
        | false => exact ih seen
  exact (kept []).bindCopy fun found => follows_pure List.map_reverse.symm

theorem follows_foldlM {image : γ → γ'} {result : α → α'} {step : α → γ → Eval α}
    {step' : α' → γ' → Eval α'} (items : List γ)
    (h : ∀ a item, Copies ρ base result (step a item) (step' (result a) (image item))) (start : α) :
    Copies ρ base result (items.foldlM step start) ((items.map image).foldlM step' (result start)) := by
  induction items generalizing start with
  | nil => exact follows_pure rfl
  | cons item rest ih =>
      rw [List.map_cons, List.foldlM_cons, List.foldlM_cons]
      exact (h start item).bindCopy fun a => ih a

theorem follows_anyM {image : γ → γ'} {run : γ → Eval Bool} {copy : γ' → Eval Bool}
    (items : List γ) (h : ∀ item, Follows ρ base Eq (run item) (copy (image item))) :
    Follows ρ base Eq (items.anyM run) ((items.map image).anyM copy) := by
  induction items with
  | nil => exact follows_pure rfl
  | cons item rest ih =>
      rw [List.map_cons, List.anyM, List.anyM]
      refine (h item).bindSame fun found => ?_
      cases found with
      | true => exact follows_pure rfl
      | false => exact ih

end

/-! ### The store -/

theorem follows_newList (items : List Value) :
    Copies ρ base (Value.rename ρ) (newList items) (newList (items.map (Value.rename ρ))) :=
  fun _ _ mirrors => .ok (congrArg Value.list mirrors.size) (mirrors.push (.list items))

theorem follows_newDict (entries : Table Value Value) :
    Copies ρ base (Value.rename ρ) (modifyGet (Store.newDict entries))
      (modifyGet (Store.newDict (Entries.rename ρ entries))) :=
  fun _ _ mirrors => .ok (congrArg (fun address => Value.mapping [address]) mirrors.size)
    (mirrors.push (.dict entries))

/-- A new set has the same items on both sides, because renaming makes no two values one. -/
theorem follows_newSet (items : List Value) :
    Copies ρ base (Value.rename ρ) (modifyGet (Store.newSet items))
      (modifyGet (Store.newSet (items.map (Value.rename ρ)))) := by
  have once : ∀ seen : List Value,
      (items.map (Value.rename ρ)).foldl
          (fun seen item => if seen.contains item then seen else seen ++ [item])
          (seen.map (Value.rename ρ))
        = (items.foldl (fun seen item => if seen.contains item then seen else seen ++ [item])
          seen).map (Value.rename ρ) := by
    induction items with
    | nil => exact fun _ => rfl
    | cons item rest ih =>
        intro seen
        rw [List.map_cons, List.foldl_cons, List.foldl_cons, contains_rename, ← ih]
        split
        · rfl
        · rw [List.map_append, List.map_singleton]
  intro store mirror mirrors
  refine .ok (congrArg Value.set mirrors.size) ?_
  have pushed := mirrors.push (.set (items.foldl
    (fun seen item => if seen.contains item then seen else seen ++ [item]) []))
  rw [Cell.rename, ← once []] at pushed
  exact pushed

theorem follows_write (address : Address) (cell : Cell) :
    Follows ρ base Eq (write address cell) (write (ρ address) (cell.rename ρ)) :=
  fun _ _ mirrors => .ok rfl (mirrors.write address cell)

theorem follows_scope (chain : List Address) :
    Copies ρ base (Layers.rename ρ) (scope chain) (scope (chain.map ρ)) :=
  fun _ _ mirrors => .ok (mirrors.scope chain) mirrors

theorem follows_writeScope (chain : List Address) (layers : Scope Value Value) :
    Follows ρ base Eq (writeScope chain layers)
      (writeScope (chain.map ρ) (Layers.rename ρ layers)) :=
  fun _ _ mirrors => .ok rfl (mirrors.writeScope chain layers)

/-! ### Keys -/

theorem follows_checkKey (value : Value) :
    Follows ρ base Eq (checkKey value) (checkKey (value.rename ρ)) := by
  rw [checkKey, checkKey, Value.notHashable?_rename]
  cases value.notHashable? with
  | none => exact follows_pure rfl
  | some typeName => exact follows_throw _

/-- The message about a missing key shows the key, which is written alike on both sides. -/
theorem follows_missing {Same : α → α' → Prop} (key : Value) :
    Follows ρ base Same (missing key : Eval α) (missing (key.rename ρ)) := by
  exact (follows_ask fun mirrors => mirrors.repr key).bindSame fun written => follows_throw _

end Eval

end Stencil.Script
