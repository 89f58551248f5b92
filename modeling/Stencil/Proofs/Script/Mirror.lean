import Stencil.Proofs.Script.Rename
import Stencil.Proofs.Sequence

/-!
# Stores that hold a copy

`Store.Mirrors` says that one store holds a copy of another: every cell has its copy under another
address, and what the two stores will give away next corresponds as well. All that can be asked
about a value in its store has the same answer for the copy.

Cells that are copies of nothing lie beside the copy. They hold what they held in a third store,
which is the one that a computation started from.
-/

namespace Stencil.Script

variable {ρ : Address ↪ Address} {base store mirror : Store}

/-- Renaming keeps keys apart. -/
theorem keepsKeys_rename : KeepsKeys (Value.rename ρ) :=
  Value.sameKey_rename

/-- The entries with the addresses in them renamed. -/
abbrev Entries.rename (ρ : Address ↪ Address) (entries : Table Value Value) : Table Value Value :=
  Table.image (Value.rename ρ) (Value.rename ρ) entries

/-- The layers with the addresses in them renamed. -/
abbrev Layers.rename (ρ : Address ↪ Address) (layers : Scope Value Value) : Scope Value Value :=
  Scope.image (Value.rename ρ) (Value.rename ρ) layers

/-- The cell with the addresses in it renamed. -/
def Cell.rename (ρ : Address ↪ Address) : Cell → Cell
  | .list items => .list (items.map (Value.rename ρ))
  | .dict entries => .dict (Entries.rename ρ entries)
  | .set items => .set (items.map (Value.rename ρ))

/-- The mirror holds a copy of the store, beside what the base holds. -/
structure Store.Mirrors (ρ : Address ↪ Address) (base store mirror : Store) : Prop where
  cells : ∀ address, mirror.cells[ρ address]? = store.cells[address]?.map (Cell.rename ρ)
  fresh : ∀ count, ρ (store.cells.size + count) = mirror.cells.size + count
  beside : ∀ address, (∀ copied, ρ copied ≠ address) →
    mirror.cells[address]? = base.cells[address]?

/-! ### Lists of values -/

theorem contains_rename (items : List Value) (value : Value) :
    (items.map (Value.rename ρ)).contains (value.rename ρ) = items.contains value := by
  induction items with
  | nil => rfl
  | cons item rest ih =>
      rw [List.map_cons, List.contains_cons, List.contains_cons, ih]
      exact congrArg (· || _) (Value.sameKey_rename value item)

theorem contains_renamed (seen : List Address) (address : Address) :
    (seen.map ρ).contains (ρ address) = seen.contains address := by
  induction seen with
  | nil => rfl
  | cons a rest ih =>
      rw [List.map_cons, List.contains_cons, List.contains_cons, ih]
      simp [Bool.beq_eq_decide_eq]

/-- Values that are in no cell. -/
theorem map_rename_text {α : Type} (f : α → Text) (items : List α) :
    (items.map fun item => Value.text (f item)).map (Value.rename ρ)
      = items.map fun item => Value.text (f item) := by
  simp [Function.comp_def]

theorem map_rename_int {α : Type} (f : α → Int) (items : List α) :
    (items.map fun item => Value.int (f item)).map (Value.rename ρ)
      = items.map fun item => Value.int (f item) := by
  simp [Function.comp_def]

@[simp] theorem map_rename_rangeItems (start stop step : Int) :
    (Value.rangeItems start stop step).map (Value.rename ρ) = Value.rangeItems start stop step :=
  map_rename_int _ _

/-! ### Comparing several values -/

section

variable {same same' : Value → Value → Option Bool}
  (hsame : ∀ a b, same' (a.rename ρ) (b.rename ρ) = same a b)
include hsame

/-- Lists are equal item by item, so equality is kept if it is for the items. -/
theorem sameItems_rename (xs ys : List Value) :
    Store.sameItems same' (xs.map (Value.rename ρ)) (ys.map (Value.rename ρ))
      = Store.sameItems same xs ys := by
  induction xs generalizing ys with
  | nil => cases ys <;> rfl
  | cons x xs ih =>
      cases ys with
      | nil => rfl
      | cons y ys => simp only [List.map_cons, Store.sameItems, hsame, ih]

theorem sameEntries_rename (layers : Scope Value Value) (entries : List (Value × Value)) :
    Store.sameEntries same' (Layers.rename ρ layers) (Entries.rename ρ entries)
      = Store.sameEntries same layers entries := by
  induction entries with
  | nil => rfl
  | cons entry rest ih =>
      simp only [Table.image_cons, Store.sameEntries, Scope.get?_image keepsKeys_rename, ih]
      cases layers.get? entry.1 with
      | none => rfl
      | some found => simp only [Option.map_some, hsame]

end

namespace Store.Mirrors

variable (h : Store.Mirrors ρ base store mirror)
include h

/-! ### Reading -/

theorem list (address : Address) :
    mirror.list (ρ address) = (store.list address).map (Value.rename ρ) := by
  unfold Store.list
  rw [h.cells]
  rcases store.cells[address]? with _ | ⟨_ | _ | _⟩ <;> rfl

theorem set (address : Address) :
    mirror.set (ρ address) = (store.set address).map (Value.rename ρ) := by
  unfold Store.set
  rw [h.cells]
  rcases store.cells[address]? with _ | ⟨_ | _ | _⟩ <;> rfl

theorem dict (address : Address) :
    mirror.dict (ρ address) = Entries.rename ρ (store.dict address) := by
  unfold Store.dict
  rw [h.cells]
  rcases store.cells[address]? with _ | ⟨_ | _ | _⟩ <;> rfl

theorem scope (chain : List Address) :
    mirror.scope (chain.map ρ) = Layers.rename ρ (store.scope chain) := by
  simp only [Store.scope, Layers.rename, Scope.image, List.map_map]
  exact List.map_congr_left fun address _ => h.dict address

theorem keys (chain : List Address) :
    (mirror.scope (chain.map ρ)).keys = (store.scope chain).keys.map (Value.rename ρ) := by
  rw [h.scope, Scope.keys_image keepsKeys_rename]

theorem entries (chain : List Address) :
    (mirror.scope (chain.map ρ)).items = Entries.rename ρ (store.scope chain).items := by
  rw [h.scope, Scope.items_image keepsKeys_rename]

theorem items? (value : Value) :
    mirror.items? (value.rename ρ) = (store.items? value).map (List.map (Value.rename ρ)) := by
  cases value with
  | text value => simp [Store.items?, Function.comp_def]
  | bytes value => simp [Store.items?, Function.comp_def]
  | tuple items => simp [Store.items?]
  | range start stop step => simp [Store.items?]
  | list address => simp [Store.items?, h.list]
  | set address => simp [Store.items?, h.set]
  | mapping chain => simp [Store.items?, h.keys]
  | view kind chain =>
      cases kind <;> simp [Store.items?, h.keys, h.entries, Table.image, Function.comp_def]
  | _ => simp [Store.items?]

theorem length? (value : Value) : mirror.length? (value.rename ρ) = store.length? value := by
  have sized : ((mirror.items? (value.rename ρ)).map List.length)
      = (store.items? value).map List.length := by
    rw [h.items?, Option.map_map]
    simp only [Function.comp_def, List.length_map]
  cases value with
  | range start stop step => rfl
  | _ => exact sized

theorem isTrue (value : Value) : mirror.isTrue (value.rename ρ) = store.isTrue value := by
  have sized := h.length? value
  cases value with
  | none | bool _ | int _ | float _ | range _ _ _ | builtin _ | method _ _ | slice _ _ _ | other _ =>
      rfl
  | _ => exact congrArg (fun length : Option Nat => length.any (· != 0)) sized

/-! ### Equality -/

/-- Equality of values, at most so many levels deep. The induction is on the depth, and the cases
are the kinds of values that live in the store. -/
theorem equal? (depth : Nat) (a b : Value) :
    mirror.equal? depth (a.rename ρ) (b.rename ρ) = store.equal? depth a b := by
  induction depth generalizing a b with
  | zero => rfl
  | succ depth ih =>
      -- Items are compared as keys first, and by what they hold only if they differ.
      have same : ∀ a b : Value,
          (if (a.rename ρ).sameKey (b.rename ρ) then some true
            else mirror.equal? depth (a.rename ρ) (b.rename ρ))
          = if a.sameKey b then some true else store.equal? depth a b := by
        intro a b
        rw [Value.sameKey_rename, ih]
      have keys := Value.sameKey_rename (ρ := ρ) a b
      cases a with
      | list s =>
          cases b with
          | list t =>
              simp only [Value.rename, Store.equal?, h.list, List.length_map]
              rw [sameItems_rename same]
          | _ => exact congrArg some keys
      | tuple xs =>
          cases b with
          | tuple ys =>
              simp only [Value.rename, Value.renameAll_eq_map, Store.equal?, List.length_map]
              rw [sameItems_rename same]
          | _ => exact congrArg some keys
      | mapping s =>
          cases b with
          | mapping t =>
              simp only [Value.rename, Store.equal?, h.scope, Scope.items_image keepsKeys_rename,
                Table.length_image, Scope.size_image keepsKeys_rename]
              rw [sameEntries_rename same]
          | _ => exact congrArg some keys
      | set s =>
          cases b with
          | set t =>
              simp only [Value.rename, Store.equal?, h.set, List.length_map, List.all_map,
                Function.comp_def, contains_rename]
          | _ => exact congrArg some keys
      | float x =>
          cases b with
          | float y => rfl
          | _ => exact congrArg some keys
      | _ => exact congrArg some keys

theorem equal (a b : Value) : mirror.equal (a.rename ρ) (b.rename ρ) = store.equal a b := by
  rw [Store.equal, Store.equal, h.equal?]

/-! ### Written values -/

omit h in
theorem reprAll {depth : Nat} {seen : List Address} (items : List Value)
    (value : ∀ depth' < depth, ∀ value,
      mirror.reprIn (seen.map ρ) depth' (value.rename ρ) = store.reprIn seen depth' value) :
    mirror.reprAll (seen.map ρ) depth (items.map (Value.rename ρ))
      = store.reprAll seen depth items := by
  cases depth with
  | zero => rfl
  | succ depth =>
      rw [Store.reprAll, Store.reprAll, List.mapM_map]
      exact mapM_congr fun item _ => value depth (Nat.lt_succ_self depth) item

section

-- What is one deeper than lists of values and mappings that are written alike.
variable {depth : Nat} {seen : List Address}
  (all : ∀ seen items, mirror.reprAll (seen.map ρ) depth (items.map (Value.rename ρ))
    = store.reprAll seen depth items)
  (written : ∀ seen chain, mirror.reprChain (seen.map ρ) depth (chain.map ρ)
    = store.reprChain seen depth chain)
include all written

/-- The written form of a mapping, with one level less for what it holds. -/
theorem reprChain_succ (chain : List Address) :
    mirror.reprChain (seen.map ρ) (depth + 1) (chain.map ρ)
      = store.reprChain seen (depth + 1) chain := by
  rcases chain with _ | ⟨address, _ | ⟨next, outer⟩⟩
  · rfl
  · have keys : (Entries.rename ρ (store.dict address)).map (·.1)
        = ((store.dict address).map (·.1)).map (Value.rename ρ) := by
      simp [Table.image, Function.comp_def]
    have values : (Entries.rename ρ (store.dict address)).map (·.2)
        = ((store.dict address).map (·.2)).map (Value.rename ρ) := by
      simp [Table.image, Function.comp_def]
    rw [List.map_cons, List.map_nil]
    unfold Store.reprChain
    rw [contains_renamed, h.dict]
    dsimp only
    rw [keys, values, ← List.map_cons, all, all]
  · have inner := written seen [address]
    have around := written seen (next :: outer)
    rw [List.map_cons] at inner around ⊢
    rw [List.map_cons]
    unfold Store.reprChain
    rw [around, ← inner]
    rfl

/-- A view: of a dictionary its items are written, of a scope the mapping. -/
theorem reprIn_view (kind : ViewKind) (chain : List Address) :
    mirror.reprIn (seen.map ρ) (depth + 1) (.view kind (chain.map ρ))
      = store.reprIn seen (depth + 1) (.view kind chain) := by
  rcases chain with _ | ⟨address, _ | ⟨next, outer⟩⟩
  · unfold Store.reprIn
    exact congrArg (· >>= _) (written seen [])
  · rw [List.map_cons, List.map_nil]
    have shown : (mirror.items? (.view kind [ρ address])).getD []
        = ((store.items? (.view kind [address])).getD []).map (Value.rename ρ) := by
      have copied := h.items? (.view kind [address])
      rw [Value.rename] at copied
      rw [show [ρ address] = [address].map ρ from rfl, copied]
      cases store.items? (.view kind [address]) <;> rfl
    unfold Store.reprIn
    dsimp only
    rw [shown, all]
  · have around := written seen (address :: next :: outer)
    have typed := Value.typeName_rename (ρ := ρ) (.view kind (address :: next :: outer))
    rw [Value.rename] at typed
    rw [List.map_cons, List.map_cons] at around typed ⊢
    unfold Store.reprIn
    dsimp only
    rw [around, typed]

omit h all in
/-- A method: of a scope the mapping is written, of anything else its type. -/
theorem reprIn_method (receiver : Value) (m : Method) :
    mirror.reprIn (seen.map ρ) (depth + 1) (.method (receiver.rename ρ) m)
      = store.reprIn seen (depth + 1) (.method receiver m) := by
  have typed := Value.typeName_rename (ρ := ρ) receiver
  cases receiver with
  | mapping chain =>
      rw [Value.rename]
      rcases chain with _ | ⟨address, _ | ⟨next, outer⟩⟩
      · rfl
      · rfl
      · unfold Store.reprIn
        exact congrArg (· >>= _) (written seen (address :: next :: outer))
  | _ =>
      exact congrArg (fun name : Text => (Except.ok ("<built-in method ".toList ++ m.label
        ++ " of ".toList ++ name ++ " object>".toList) : Except Fault Text)) typed

/-- The written form of a value, with one level less for its parts. Addresses are only asked whether
they were seen before. -/
theorem reprIn_succ (value : ∀ value,
      mirror.reprIn (seen.map ρ) depth (value.rename ρ) = store.reprIn seen depth value)
    (outer : Value) :
    mirror.reprIn (seen.map ρ) (depth + 1) (outer.rename ρ)
      = store.reprIn seen (depth + 1) outer := by
  cases outer with
  | tuple items =>
      rw [Value.rename, Value.renameAll_eq_map]
      have many := all seen items
      -- A tuple of one item is written with a comma of its own.
      rcases items with _ | ⟨item, _ | ⟨next, rest⟩⟩
      · unfold Store.reprIn
        exact congrArg (· >>= _) many
      · unfold Store.reprIn
        exact congrArg (· >>= _) (value item)
      · unfold Store.reprIn
        exact congrArg (· >>= _) many
  | list address =>
      rw [Value.rename]
      unfold Store.reprIn
      dsimp only
      rw [contains_renamed, h.list, ← List.map_cons, all]
  | set address =>
      rw [Value.rename]
      unfold Store.reprIn
      dsimp only
      rw [h.set]
      cases hitems : store.set address with
      | nil => rfl
      | cons item rest =>
          rw [← List.map_cons, List.map_cons]
          dsimp only
          rw [← List.map_cons, all]
  | mapping chain =>
      rw [Value.rename]
      unfold Store.reprIn
      exact written seen chain
  | view kind chain => exact h.reprIn_view all written kind chain
  | method receiver m => exact reprIn_method written receiver m
  | slice start stop step =>
      rw [Value.rename]
      unfold Store.reprIn
      exact congrArg (· >>= _) (all seen [start, stop, step])
  | bool value => cases value <;> rfl
  | _ => rfl

end

/-- The copy is written as the original is. Values and mappings are written with the help of one
another, less deep by one. -/
theorem reprIn_and_reprChain (depth : Nat) (seen : List Address) :
    (∀ value, mirror.reprIn (seen.map ρ) depth (value.rename ρ) = store.reprIn seen depth value)
      ∧ ∀ chain, mirror.reprChain (seen.map ρ) depth (chain.map ρ)
        = store.reprChain seen depth chain := by
  induction depth using Nat.strongRecOn generalizing seen with
  | ind depth ih =>
    cases depth with
    | zero => exact ⟨fun _ => rfl, fun _ => rfl⟩
    | succ depth =>
      have all : ∀ seen items, mirror.reprAll (seen.map ρ) depth (items.map (Value.rename ρ))
          = store.reprAll seen depth items := fun seen items =>
        reprAll items fun depth' hlt => (ih depth' (Nat.lt_succ_of_lt hlt) seen).1
      have written := fun seen => (ih depth (Nat.lt_succ_self depth) seen).2
      exact ⟨h.reprIn_succ all written (ih depth (Nat.lt_succ_self depth) seen).1,
        h.reprChain_succ all written⟩

theorem repr (value : Value) : mirror.repr (value.rename ρ) = store.repr value :=
  (h.reprIn_and_reprChain _ []).1 value

theorem str (value : Value) : mirror.str (value.rename ρ) = store.str value := by
  have written := h.repr value
  cases value with
  | text value => rfl
  | _ => exact written

end Store.Mirrors

/-! ### Copies in place -/

theorem Entries.rename_refl (entries : Table Value Value) :
    Entries.rename (.refl Address) entries = entries := by
  simp [Table.image, funext Value.rename_refl]

theorem Cell.rename_refl (cell : Cell) : cell.rename (.refl Address) = cell := by
  cases cell <;> simp [Cell.rename, funext Value.rename_refl, Entries.rename_refl]

/-- A store is a copy of itself. -/
theorem Store.mirrors_refl : Store.Mirrors (.refl Address) base store store where
  cells address := by simp [funext Cell.rename_refl]
  fresh count := rfl
  beside address copied := absurd rfl (copied address)

/-- A copy in place is the store itself. -/
theorem Store.Mirrors.eq (h : Store.Mirrors (.refl Address) base store mirror) :
    mirror = store := by
  have same : mirror.cells = store.cells := Array.ext_getElem? fun address => by
    simpa [funext Cell.rename_refl] using h.cells address
  cases mirror
  cases store
  exact congrArg Store.mk same

end Stencil.Script
