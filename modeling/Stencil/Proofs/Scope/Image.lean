import Stencil.Proofs.Scope

/-!
# Tables and scopes in other forms

The image of a table gives every key and every value another form. As long as keys are told apart
as before, every operation on a table or on a scope does to the image what it does to the original.
-/

namespace Stencil

variable {K V K' V' : Type} {φ : K → K'} {ψ : V → V'}

namespace Table

/-- The table with other forms of its keys and values. -/
def image (φ : K → K') (ψ : V → V') (table : Table K V) : Table K' V' :=
  table.map (Prod.map φ ψ)

@[simp] theorem image_nil : image φ ψ ([] : Table K V) = [] := rfl

@[simp] theorem image_cons {entry : K × V} {rest : Table K V} :
    image φ ψ (entry :: rest) = (φ entry.1, ψ entry.2) :: image φ ψ rest := rfl

theorem keys_image {table : Table K V} : keys (image φ ψ table) = (keys table).map φ := by
  simp [keys, image, Function.comp_def]

@[simp] theorem length_image {table : Table K V} : (image φ ψ table).length = table.length := by
  simp [image]

end Table

variable [BEq K] [BEq K']

/-- The form of a key tells keys apart as the key does. -/
def KeepsKeys (φ : K → K') : Prop :=
  ∀ a b, (φ a == φ b) = (a == b)

namespace Table

variable {table : Table K V}

/-- Looking up the image of a key finds the image of its value. `KeepsKeys` is what it takes: the
map of keys neither joins two keys nor parts one. -/
theorem get?_image (h : KeepsKeys φ) (key : K) :
    get? (image φ ψ table) (φ key) = (get? table key).map ψ := by
  simp only [get?, image, List.find?_map, Function.comp_def, Prod.map_fst, h _ key, Option.map_map]
  rfl

theorem has_image (h : KeepsKeys φ) (key : K) : has (image φ ψ table) (φ key) = has table key := by
  simp only [has, image, List.any_map, Function.comp_def, Prod.map_fst, h _ key]

theorem put_image (h : KeepsKeys φ) (key : K) (value : V) :
    put (φ key) (ψ value) (image φ ψ table) = image φ ψ (put key value table) := by
  induction table with
  | nil => rfl
  | cons entry rest ih =>
      rw [image_cons, put, put, h entry.1 key, ih]
      cases entry.1 == key <;> rfl

theorem without_image (h : KeepsKeys φ) (key : K) :
    without (image φ ψ table) (φ key) = image φ ψ (without table key) := by
  simp only [without, image, List.filter_map, Function.comp_def, Prod.map_fst, h _ key]

/-- A table made of images is the image of the table. Entries of one key overwrite each other on
both sides. -/
theorem ofEntries_image (h : KeepsKeys φ) (entries : List (K × V)) :
    ofEntries (image φ ψ entries) = image φ ψ (ofEntries entries) := by
  unfold ofEntries
  suffices ∀ start : Table K V,
      (image φ ψ entries).foldl (fun table entry => put entry.1 entry.2 table) (image φ ψ start)
        = image φ ψ (entries.foldl (fun table entry => put entry.1 entry.2 table) start) from this []
  induction entries with
  | nil => exact fun _ => rfl
  | cons entry rest ih =>
      intro start
      rw [image_cons, List.foldl_cons, List.foldl_cons]
      dsimp only
      rw [put_image h, ih]

end Table

namespace Scope

/-- The scope with other forms of its keys and values. -/
def image (φ : K → K') (ψ : V → V') (scope : Scope K V) : Scope K' V' :=
  scope.map (Table.image φ ψ)

variable {scope : Scope K V}

omit [BEq K] [BEq K'] in
@[simp] theorem image_nil : image φ ψ ([] : Scope K V) = [] := rfl

omit [BEq K] [BEq K'] in
@[simp] theorem image_cons {layer : Table K V} {outer : Scope K V} :
    image φ ψ (layer :: outer) = Table.image φ ψ layer :: image φ ψ outer := rfl

/-! ### Looking up -/

/-- Lookup through the layers commutes with taking the image, since each layer has the key or does
not have it on both sides. -/
theorem get?_image (h : KeepsKeys φ) (key : K) :
    get? (image φ ψ scope) (φ key) = (get? scope key).map ψ := by
  induction scope with
  | nil => rfl
  | cons layer outer ih =>
      rw [image_cons, get?_cons, get?_cons, ih, Table.get?_image h]
      cases Table.get? layer key <;> rfl

theorem has_image (h : KeepsKeys φ) (key : K) : has (image φ ψ scope) (φ key) = has scope key := by
  rw [has_eq_isSome_get?, get?_image h, Option.isSome_map, ← has_eq_isSome_get?]

/-- Iteration comes by the images in the same order, and skips the same hidden keys. -/
theorem keys_image (h : KeepsKeys φ) : keys (image φ ψ scope) = (keys scope).map φ := by
  induction scope with
  | nil => rfl
  | cons layer outer ih =>
      rw [image_cons, keys, keys, ih, Table.keys_image, List.map_append, List.filter_map]
      simp only [Function.comp_def, Table.has_image h]

theorem items_image (h : KeepsKeys φ) :
    items (image φ ψ scope) = Table.image φ ψ (items scope) := by
  unfold items Table.image
  rw [keys_image h, List.filterMap_map, List.map_filterMap]
  congr 1
  funext key
  simp only [Function.comp_def, get?_image h, Option.map_map]
  rfl

theorem size_image (h : KeepsKeys φ) : size (image φ ψ scope) = size scope := by
  rw [size, keys_image h, List.length_map, size]

omit [BEq K] [BEq K'] in
theorem entryCount_image : entryCount (image φ ψ scope) = entryCount scope := by
  induction scope with
  | nil => rfl
  | cons layer outer ih =>
      rw [image_cons, entryCount, entryCount, ih, Table.length_image]

/-! ### Writing and removing -/

/-- A write goes to the same layer on both sides. -/
theorem put_image (h : KeepsKeys φ) (key : K) (value : V) :
    put (φ key) (ψ value) (image φ ψ scope) = image φ ψ (put key value scope) := by
  induction scope with
  | nil => rfl
  | cons layer outer ih =>
      cases outer with
      | nil =>
          rw [image_cons, image_nil, put, put, Table.put_image h]
          rfl
      | cons next outer =>
          rw [image_cons] at ih
          rw [image_cons, image_cons, put, put, Table.has_image h, Table.put_image h, ih]
          cases Table.has layer key <;> rfl

theorem erase?_image (h : KeepsKeys φ) (key : K) :
    erase? (φ key) (image φ ψ scope) = (erase? key scope).map (image φ ψ) := by
  induction scope with
  | nil => rfl
  | cons layer outer ih =>
      rw [image_cons, erase?, erase?, Table.has_image h, Table.without_image h, ih]
      cases Table.has layer key with
      | true => rfl
      | false => cases erase? key outer <;> rfl

theorem pop?_image (h : KeepsKeys φ) (key : K) :
    pop? (φ key) (image φ ψ scope) = (pop? key scope).map (Prod.map ψ (image φ ψ)) := by
  unfold pop?
  rw [get?_image h, erase?_image h]
  cases get? scope key with
  | none => rfl
  | some value => cases erase? key scope <;> rfl

/-- The first entry of the image is the image of the first entry. -/
theorem popFirst?_image (h : KeepsKeys φ) :
    popFirst? (image φ ψ scope)
      = (popFirst? scope).map (Prod.map (Prod.map φ ψ) (image φ ψ)) := by
  unfold popFirst?
  rw [keys_image h, List.head?_map]
  cases (keys scope).head? with
  | none => rfl
  | some key =>
      simp only [Option.map_some, Option.bind_eq_bind, Option.bind_some, pop?_image h]
      cases pop? key scope <;> rfl

theorem getOrPut_image (h : KeepsKeys φ) (key : K) (value : V) :
    getOrPut (φ key) (ψ value) (image φ ψ scope)
      = Prod.map ψ (image φ ψ) (getOrPut key value scope) := by
  unfold getOrPut
  rw [get?_image h, put_image h]
  cases get? scope key <;> rfl

theorem putAll_image (h : KeepsKeys φ) (entries : List (K × V)) :
    putAll (Table.image φ ψ entries) (image φ ψ scope) = image φ ψ (putAll entries scope) := by
  unfold putAll
  induction entries generalizing scope with
  | nil => rfl
  | cons entry rest ih =>
      rw [Table.image_cons, List.foldl_cons, List.foldl_cons]
      dsimp only
      rw [put_image h, ih]

/-- Draining takes the same entries on both sides. The induction is on the number of steps. -/
theorem drain_image (h : KeepsKeys φ) (limit : Nat) :
    drain limit (image φ ψ scope)
      = Prod.map (Table.image φ ψ) (image φ ψ) (drain limit scope) := by
  induction limit generalizing scope with
  | zero => rfl
  | succ limit ih =>
      rw [drain, drain, popFirst?_image h]
      cases popFirst? scope with
      | none => rfl
      | some popped =>
          simp only [Option.map_some, Prod.map_fst, Prod.map_snd, ih]
          rfl

theorem clear_image (h : KeepsKeys φ) : clear (image φ ψ scope) = image φ ψ (clear scope) := by
  rw [clear, clear, entryCount_image, drain_image h, Prod.map_snd]

end Scope

end Stencil
