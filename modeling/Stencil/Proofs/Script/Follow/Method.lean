import Stencil.Proofs.Script.Follow.Call

/-!
# Methods of copies of values

Every method does with the copy of a value and with copies of its arguments what it does with the
value and the arguments.
-/

namespace Stencil.Script.Call

open Eval

variable {ρ : Address ↪ Address} {base store mirror : Store} (args : Arguments)

/-! ### Texts -/

theorem follows_searchStart (length : Nat) (value : Option Value) :
    Follows ρ base Eq (searchStart length value)
      (searchStart length (value.map (Value.rename ρ))) := by
  cases value with
  | none => exact follows_pure rfl
  | some value =>
      have bounded : Follows ρ base _ _ _ := Operation.follows_bound length 0 length value 0
      cases value with
      | int n => exact follows_pure rfl
      | _ => exact bounded

theorem follows_searchBounds (length : Nat) (values : List Value) :
    Follows ρ base Eq (searchBounds length values)
      (searchBounds length (values.map (Value.rename ρ))) := by
  unfold searchBounds
  rw [List.head?_map, List.getElem?_map, getD_rename _ rfl]
  refine (follows_searchStart length values.head?).bindSame fun start => ?_
  exact (Operation.follows_bound length _ _ _ _).bindSame fun stop => follows_pure rfl

theorem follows_atEnd (isEnd : Bool) (name : String) (text : Text) (values : List Value) :
    Copies ρ base (Value.rename ρ) (atEnd isEnd name text values)
      (atEnd isEnd name text (values.map (Value.rename ρ))) := by
  cases values with
  | nil => exact follows_throw _
  | cons wanted bounds =>
      refine (follows_searchBounds _ bounds).bindSame fun bounds => ?_
      have typed := Value.typeName_rename (ρ := ρ) wanted
      cases wanted with
      | text t => exact follows_pure rfl
      | tuple options =>
          dsimp only
          rw [Value.rename, Value.renameAll_eq_map]
          refine (follows_anyM options fun option => ?_).bindSame fun found => follows_pure rfl
          have typed := Value.typeName_rename (ρ := ρ) option
          cases option with
          | text t => exact follows_pure rfl
          | _ => exact follows_throw_of_eq (congrArg (Fault.typeBare _) typed)
      | _ => exact follows_throw_of_eq (congrArg (Fault.typeBare _) typed)

theorem follows_cutLimit (length : Nat) (value : Option Value) :
    Follows ρ base Eq (cutLimit length value) (cutLimit length (value.map (Value.rename ρ))) := by
  cases value with
  | none => exact follows_pure rfl
  | some value => exact (follows_toCount value).bindSame fun n => follows_pure rfl

theorem follows_search (name : String) (text : Text) :
    Follows ρ base Eq (search name text args) (search name text (args.rename ρ)) := by
  refine (follows_refuseNames args _).bindCopy fun values => ?_
  cases values with
  | nil => exact follows_throw _
  | cons value bounds =>
      have typed := Value.typeName_rename (ρ := ρ) value
      cases value with
      | text part =>
          refine (follows_searchBounds _ bounds).bindSame fun bounds => ?_
          dsimp only
          split
          · exact follows_pure rfl
          · exact follows_pure rfl
      | _ => exact follows_throw_of_eq (congrArg (Fault.typeBare _) typed)

theorem follows_joinable (items : List Value) :
    Follows ρ base Eq (joinable items) (joinable (items.map (Value.rename ρ))) := by
  unfold joinable
  rw [List.zipIdx_map]
  refine follows_mapM_same items.zipIdx fun placed => ?_
  obtain ⟨item, place⟩ := placed
  have typed := Value.typeName_rename (ρ := ρ) item
  cases item with
  | text t => exact follows_pure rfl
  | _ => exact follows_throw_of_eq (congrArg (fun name : Text => (⟨.type,
      s!"sequence item {place}: expected str instance, ".toList ++ name ++ " found".toList⟩ : Fault))
      typed)

/-- **Every method of texts is followed**, one case for each. -/
theorem follows_ofText (text : Text) (method : Method) :
    Copies ρ base (Value.rename ρ) (ofText text method args)
      (ofText text method (args.rename ρ)) := by
  have newTexts (texts : List Text) : Copies ρ base (Value.rename ρ)
      (Eval.newList (texts.map .text)) (Eval.newList (texts.map .text)) := by
    have made : Copies ρ base _ _ _ := follows_newList (texts.map .text)
    rwa [map_rename_text] at made
  cases method with
  | upper => exact (follows_nothing args _).bindSame fun _ => follows_pure rfl
  | lower => exact (follows_nothing args _).bindSame fun _ => follows_pure rfl
  | split =>
      refine (follows_mixed args _ _ _).bindSame fun _ => ?_
      dsimp only
      rw [argument?_rename, argument?_rename]
      refine (follows_cutLimit _ _).bindSame fun limit => ?_
      cases argument? args 0 "sep" with
      | none => exact newTexts _
      | some value =>
          have typed := Value.typeName_rename (ρ := ρ) value
          cases value with
          | none => exact newTexts _
          | text mark =>
              cases mark with
              | nil => exact follows_throw _
              | cons c mark => exact newTexts _
          | _ => exact follows_throw_of_eq (congrArg (Fault.typeBare _) typed)
  | join =>
      refine (follows_single args _).bindCopy fun value => ?_
      refine follows_get fun {store _} mirrors => ?_
      rw [mirrors.items?]
      cases store.items? value with
      | none => exact follows_throw _
      | some items => exact (follows_joinable items).bindSame fun texts => follows_pure rfl
  | replace =>
      refine (follows_between args _ _ _ _).bindCopy fun values => ?_
      rcases values with _ | ⟨old, rest⟩
      · exact follows_pure rfl
      have typed := Value.givenType_rename (ρ := ρ) old
      cases old with
      | text old =>
          rcases rest with _ | ⟨new, limit⟩
          · exact follows_throw _
          have typed := Value.givenType_rename (ρ := ρ) new
          cases new with
          | text new =>
              rw [List.map_cons, List.map_cons, Value.rename, Value.rename]
              dsimp only
              rw [List.head?_map]
              exact (follows_cutLimit _ limit.head?).bindSame fun limit => follows_pure rfl
          | _ => exact follows_throw_of_eq (congrArg (Fault.typeBare _) typed)
      | _ => exact follows_throw_of_eq (congrArg (Fault.typeBare _) typed)
  | startswith =>
      exact (follows_refuseNames args _).bindCopy fun values => follows_atEnd _ _ _ values
  | endswith =>
      exact (follows_refuseNames args _).bindCopy fun values => follows_atEnd _ _ _ values
  | find =>
      refine (follows_search args _ text).bindSame fun place => ?_
      cases place with
      | none => exact follows_pure rfl
      | some place => exact follows_pure rfl
  | index =>
      refine (follows_search args _ text).bindSame fun place => ?_
      cases place with
      | none => exact follows_throw _
      | some place => exact follows_pure rfl
  | count =>
      refine (follows_refuseNames args _).bindCopy fun values => ?_
      cases values with
      | nil => exact follows_throw _
      | cons value bounds =>
          have typed := Value.typeName_rename (ρ := ρ) value
          cases value with
          | text part =>
              exact (follows_searchBounds _ bounds).bindSame fun bounds => follows_pure rfl
          | _ => exact follows_throw_of_eq (congrArg (Fault.typeBare _) typed)
  | strip =>
      refine (follows_between args _ _ _ _).bindCopy fun values => ?_
      rcases values with _ | ⟨value, _ | ⟨next, rest⟩⟩
      · exact follows_pure rfl
      · cases value with
        | none | text _ => exact follows_pure rfl
        | _ => exact follows_throw _
      · cases value with
        | text _ => exact follows_pure rfl
        | _ => exact follows_throw _
  | _ => exact follows_pure rfl

/-! ### Lists and tuples -/

theorem follows_indexBounds (length : Nat) (values : List Value) :
    Follows ρ base Eq (indexBounds length values)
      (indexBounds length (values.map (Value.rename ρ))) := by
  unfold indexBounds
  rw [List.all_map]
  simp only [Function.comp_def, Value.integer?_rename]
  split
  · exact follows_searchBounds length values
  · exact follows_throw _

theorem follows_placeOf (value : Value) (place : Nat) (items : List Value) :
    Follows ρ base Eq (placeOf value place items)
      (placeOf (value.rename ρ) place (items.map (Value.rename ρ))) := by
  induction items generalizing place with
  | nil => exact follows_pure rfl
  | cons item rest ih =>
      refine (Operation.follows_isAmong value [item]).bindSame fun found => ?_
      cases found with
      | true => exact follows_pure rfl
      | false => exact ih _

theorem follows_countOf (value : Value) (items : List Value) :
    Copies ρ base (Value.rename ρ) (countOf value items)
      (countOf (value.rename ρ) (items.map (Value.rename ρ))) := by
  have filtered : Copies ρ base (List.map (Value.rename ρ))
      (items.filterM fun item => Operation.isAmong value [item])
      ((items.map (Value.rename ρ)).filterM fun item =>
        Operation.isAmong (value.rename ρ) [item]) :=
    follows_filterM items fun item => Operation.follows_isAmong value [item]
  exact filtered.bindCopy fun found => follows_pure (by rw [List.length_map, Value.rename])

theorem follows_ofTuple (items : List Value) (method : Method) :
    Copies ρ base (Value.rename ρ) (ofTuple items method args)
      (ofTuple (items.map (Value.rename ρ)) method (args.rename ρ)) := by
  have counted : Copies ρ base (Value.rename ρ)
      (do countOf (← single "tuple.count()" args) items)
      (do countOf (← single "tuple.count()" (args.rename ρ)) (items.map (Value.rename ρ))) :=
    (follows_single args _).bindCopy fun value => follows_countOf value items
  cases method with
  | index =>
      refine (follows_between args _ _ _ _).bindCopy fun values => ?_
      cases values with
      | nil => exact follows_pure rfl
      | cons value bounds =>
          dsimp only [List.map_cons]
          rw [List.length_map]
          refine (follows_indexBounds _ bounds).bindSame fun bounds => ?_
          rw [← List.map_take, ← List.map_drop]
          refine (follows_placeOf value _ _).bindSame fun place => ?_
          cases place with
          | none => exact follows_throw _
          | some place => exact follows_pure rfl
  | _ => exact counted

theorem follows_popIndex (values : List Value) :
    Follows ρ base Eq (popIndex values) (popIndex (values.map (Value.rename ρ))) := by
  rcases values with _ | ⟨value, _ | ⟨next, rest⟩⟩
  · exact follows_pure rfl
  · exact follows_toCount value
  · exact follows_pure rfl

/-- The methods of lists, which live in the store: each reads a cell, and may write it. -/
theorem follows_ofList {apply : Value → Value → Eval Value}
    (happly : ∀ function item, Copies ρ base (Value.rename ρ) (apply function item)
      (apply (function.rename ρ) (item.rename ρ)))
    (address : Address) (method : Method) :
    Copies ρ base (Value.rename ρ) (ofList apply address method args)
      (ofList apply (ρ address) method (args.rename ρ)) := by
  refine follows_get fun {store _} mirrors => ?_
  rw [mirrors.list]
  generalize store.list address = items
  have written (items : List Value) (result : Value) : Copies ρ base (Value.rename ρ)
      (do Eval.write address (.list items); return result)
      (do Eval.write (ρ address) (.list (items.map (Value.rename ρ))); return result.rename ρ) :=
    (follows_write address (.list items)).bindSame fun _ => follows_pure rfl
  cases method with
  | append =>
      refine (follows_single args _).bindCopy fun value => ?_
      rw [← List.map_singleton, ← List.map_append]
      exact written _ .none
  | pop =>
      refine (follows_between args _ _ _ _).bindCopy fun values => ?_
      refine (follows_popIndex values).bindSame fun index => ?_
      rw [List.isEmpty_map, List.length_map]
      split
      · exact follows_throw _
      cases Operation.place? items.length index with
      | none => exact follows_throw _
      | some place =>
          dsimp only
          rw [List.eraseIdx_map, List.getElem?_map, getD_rename _ rfl]
          exact written _ _
  | sort =>
      have positional : (args.rename ρ).positional = args.positional.map (Value.rename ρ) := rfl
      dsimp only
      rw [positional]
      cases args.positional with
      | nil => exact (follows_sorted args happly items).bindCopy fun sorted => written sorted .none
      | cons _ _ => exact follows_throw _
  | reverse =>
      refine (follows_nothing args _).bindSame fun _ => ?_
      rw [← List.map_reverse]
      exact written _ .none
  | clear => exact (follows_nothing args _).bindSame fun _ => written [] .none
  | index =>
      refine (follows_between args _ _ _ _).bindCopy fun values => ?_
      cases values with
      | nil => exact follows_pure rfl
      | cons value bounds =>
          dsimp only [List.map_cons]
          rw [List.length_map]
          refine (follows_indexBounds _ bounds).bindSame fun bounds => ?_
          rw [← List.map_take, ← List.map_drop]
          refine (follows_placeOf value _ _).bindSame fun place => ?_
          cases place with
          | none =>
              refine (follows_ask fun mirrors => mirrors.repr value).bindSame fun written => ?_
              exact follows_throw _
          | some place => exact follows_pure rfl
  | count => exact (follows_single args _).bindCopy fun value => follows_countOf value items
  | _ => exact follows_pure rfl

/-! ### Mappings -/

theorem find?_isNone_rename (names : List String) (values : List (Option Value)) :
    ((names.zip (values.map (Option.map (Value.rename ρ)))).find? fun given => given.2.isNone)
      = ((names.zip values).find? fun given => given.2.isNone).map
        (Prod.map id (Option.map (Value.rename ρ))) := by
  rw [List.zip_map_right, List.find?_map]
  simp only [Function.comp_def, Prod.map, Option.isNone_map]

/-- Sorting out the arguments of a method that is written in scripts. The message about missing ones
lists names only. -/
theorem follows_parameters (what : String) (required optional : List String) :
    Copies ρ base (List.map (Option.map (Value.rename ρ))) (parameters what required optional args)
      (parameters what required optional (args.rename ρ)) := by
  have positional : (args.rename ρ).positional.length = args.positional.length :=
    List.length_map _
  have values (names : List String) :
      names.zipIdx.map (fun placed => argument? (args.rename ρ) placed.2 placed.1)
        = (names.zipIdx.map fun placed => argument? args placed.2 placed.1).map
          (Option.map (Value.rename ρ)) := by
    rw [List.map_map]
    exact List.map_congr_left fun placed _ => argument?_rename args placed.2 placed.1
  unfold parameters
  dsimp only
  rw [positional, values]
  refine (follows_forIn args.named fun named => ?_).bindSame fun _ => ?_
  · dsimp only [Prod.map, id]
    split
    · exact follows_throw _
    split
    · exact follows_throw _
    · exact follows_pure rfl
  · split
    · exact follows_throw _
    · generalize (required ++ optional).zipIdx.map
        (fun placed => argument? args placed.2 placed.1) = values
      rw [find?_isNone_rename]
      cases (required.zip values).find? fun given => given.2.isNone with
      | none => exact follows_pure rfl
      | some given => exact follows_throw _

theorem follows_keyArguments (chain : List Address) (method : Method) :
    Copies ρ base (Prod.map (Value.rename ρ) (Option.map (Value.rename ρ)))
      (keyArguments chain method args) (keyArguments (chain.map ρ) method (args.rename ρ)) := by
  rcases chain with _ | ⟨address, _ | ⟨next, outer⟩⟩
  case cons.nil =>
    refine (follows_between args _ _ _ _).bindCopy fun values => ?_
    rcases values with _ | ⟨key, _ | ⟨value, rest⟩⟩
    · exact follows_pure rfl
    · exact (follows_checkKey key).bindSame fun _ => follows_pure rfl
    · exact (follows_checkKey key).bindSame fun _ => follows_pure rfl
  all_goals
    refine (follows_parameters args _ _ _).bindCopy fun values => ?_
    rcases values with _ | ⟨_ | key, default⟩
    · exact follows_pure rfl
    · exact follows_pure rfl
    · refine (follows_checkKey key).bindSame fun _ => ?_
      rcases default with _ | ⟨_ | value, rest⟩ <;> exact follows_pure rfl

theorem follows_noArguments (chain : List Address) (method : Method) :
    Follows ρ base Eq (noArguments chain method args)
      (noArguments (chain.map ρ) method (args.rename ρ)) := by
  have parameters : Follows ρ base Eq
      (do let _ ← parameters (String.ofList method.nameInScope) [] [] args; return ())
      (do let _ ← parameters (String.ofList method.nameInScope) [] [] (args.rename ρ); return ()) :=
    (follows_parameters args _ _ _).bindCopy fun _ => follows_pure rfl
  rcases chain with _ | ⟨address, _ | ⟨next, outer⟩⟩
  · exact parameters
  · exact follows_nothing args _
  · exact parameters

theorem follows_entryOf (chain : List Address) (item : Value) (place : Nat) :
    Copies ρ base (Prod.map (Value.rename ρ) (Value.rename ρ)) (entryOf chain item place)
      (entryOf (chain.map ρ) (item.rename ρ) place) := by
  refine follows_get fun {store _} mirrors => ?_
  rw [mirrors.items?]
  rcases chain with _ | ⟨address, _ | ⟨next, outer⟩⟩
  case cons.nil =>
    cases store.items? item with
    | none => exact follows_throw _
    | some parts =>
        dsimp only [List.map_cons, List.map_nil, Option.map_some]
        rcases parts with _ | ⟨key, _ | ⟨value, _ | ⟨more, rest⟩⟩⟩
        · exact follows_throw _
        · exact follows_throw _
        · exact follows_pure rfl
        · have counted : ((key :: value :: more :: rest).map (Value.rename ρ)).length
              = (key :: value :: more :: rest).length := List.length_map _
          rw [List.map_cons, List.map_cons, List.map_cons] at counted ⊢
          rw [List.map_cons, List.map_nil]
          dsimp only
          rw [counted]
          exact follows_throw _
  all_goals
    refine (Operation.follows_unpack 2 item).bindCopy fun values => ?_
    rcases values with _ | ⟨key, _ | ⟨value, _ | ⟨more, rest⟩⟩⟩ <;> exact follows_pure rfl

theorem follows_putVisited (chain : List Address) (place : Nat) (visits : List Visit) :
    Follows ρ base Eq (putVisited chain place visits)
      (putVisited (chain.map ρ) place (visits.map (Visit.rename ρ))) := by
  induction visits generalizing place with
  | nil => exact follows_pure rfl
  | cons visit rest ih =>
      rw [List.map_cons, putVisited, putVisited]
      refine (Visit.follows_item? visit).bindCopy fun item => ?_
      cases item with
      | none => exact ih place
      | some item =>
          refine (follows_entryOf chain item place).bindCopy fun entry => ?_
          refine (follows_checkKey entry.1).bindSame fun _ => ?_
          refine (follows_scope chain).bindCopy fun layers => ?_
          rw [Scope.put_image keepsKeys_rename]
          exact (follows_writeScope chain _).bindSame fun _ => ih (place + 1)

/-- Stretches are followed one by one: the visits of the next one are found in stores that still
mirror each other. -/
theorem follows_putStretches (chain : List Address) (stretches : List Stretch) :
    Follows ρ base Eq (putStretches chain stretches)
      (putStretches (chain.map ρ) (stretches.map (Stretch.rename ρ))) := by
  induction stretches with
  | nil => exact follows_pure rfl
  | cons stretch rest ih =>
      refine follows_get fun {store _} mirrors => ?_
      rw [Stretch.visits_rename mirrors]
      exact (follows_putVisited chain 0 _).bindSame fun _ => ih

theorem pairsOf_rename (value : Value) : pairsOf (value.rename ρ) = (pairsOf value).rename ρ := by
  cases value <;> rfl

theorem exists_of_rename_eq_mapping {value : Value} {chain : List Address}
    (h : value.rename ρ = .mapping chain) : ∃ copied, value = .mapping copied := by
  cases value with
  | mapping copied => exact ⟨copied, rfl⟩
  | _ => simp at h

/-- The values given to `update` are a mapping, a list or something else to go through, alike on
both sides. -/
theorem follows_putEntries (chain : List Address) (value : Value) :
    Follows ρ base Eq (putEntries chain value) (putEntries (chain.map ρ) (value.rename ρ)) := by
  unfold putEntries
  split
  · refine (follows_scope _).bindCopy fun given => ?_
    refine (follows_scope _).bindCopy fun layers => ?_
    rw [Scope.items_image keepsKeys_rename, Scope.putAll_image keepsKeys_rename]
    exact follows_writeScope _ _
  · next apart =>
    split
    · next single mapped =>
        obtain ⟨address, rfl, -⟩ := List.map_eq_singleton_iff.1 single
        obtain ⟨copied, rfl⟩ := exists_of_rename_eq_mapping mapped
        exact absurd rfl (apart address copied rfl)
    · refine follows_get fun {store _} mirrors => ?_
      rw [pairsOf_rename, Stretch.ofValue?_rename mirrors, Value.typeName_rename]
      cases Stretch.ofValue? store (pairsOf value) with
      | none => exact follows_throw _
      | some stretches => exact follows_putStretches chain stretches

/-- A mapping is written, and a value is the result. -/
theorem follows_written (chain : List Address) (layers : Scope Value Value) (result : Value) :
    Copies ρ base (Value.rename ρ) (do Eval.writeScope chain layers; return result)
      (do Eval.writeScope (chain.map ρ) (Layers.rename ρ layers); return result.rename ρ) :=
  (follows_writeScope chain layers).bindSame fun _ => follows_pure rfl

/-- What is given by position is put first, then what is given by name. -/
theorem follows_update (chain : List Address) :
    Copies ρ base (Value.rename ρ) (ofMapping chain .update args)
      (ofMapping (chain.map ρ) .update (args.rename ρ)) := by
  have positional : (args.rename ρ).positional = args.positional.map (Value.rename ρ) := rfl
  have named : (args.rename ρ).named.map (fun given => (Value.text given.1, given.2))
      = Entries.rename ρ (args.named.map fun given => (Value.text given.1, given.2)) := by
    simp [Arguments.rename, Table.image, Function.comp_def]
  have finished : Copies ρ base (Value.rename ρ)
      (do
        let layers ← Eval.scope chain
        Eval.writeScope chain
          (layers.putAll (args.named.map fun given => (Value.text given.1, given.2)))
        return .none)
      (do
        let layers ← Eval.scope (chain.map ρ)
        Eval.writeScope (chain.map ρ)
          (layers.putAll ((args.rename ρ).named.map fun given => (Value.text given.1, given.2)))
        return .none) := by
    refine (follows_scope chain).bindCopy fun layers => ?_
    rw [named, Scope.putAll_image keepsKeys_rename]
    exact follows_written chain _ .none
  refine (follows_scope chain).bindCopy fun layers => ?_
  dsimp only
  rw [positional]
  rcases args.positional with _ | ⟨value, _ | ⟨next, rest⟩⟩
  · exact finished
  · exact (follows_putEntries chain value).bindSame fun _ => finished
  · rcases chain with _ | ⟨address, _ | ⟨inner, outer⟩⟩ <;>
      simp only [List.map_cons, List.map_nil, List.length_cons, List.length_map] <;>
      exact follows_throw _

/-- A dictionary loses its last entry, a scope its first one. -/
theorem follows_popitem (chain : List Address) :
    Copies ρ base (Value.rename ρ) (ofMapping chain .popitem args)
      (ofMapping (chain.map ρ) .popitem (args.rename ρ)) := by
  refine (follows_scope chain).bindCopy fun layers => ?_
  refine (follows_noArguments args chain _).bindSame fun _ => ?_
  have popFirst (layers : Scope Value Value) : (Layers.rename ρ layers).popFirst?
      = layers.popFirst?.map (Prod.map (Prod.map (Value.rename ρ) (Value.rename ρ))
        (Layers.rename ρ)) :=
    Scope.popFirst?_image keepsKeys_rename
  rcases chain with _ | ⟨address, _ | ⟨inner, outer⟩⟩
  case cons.nil =>
    rcases layers with _ | ⟨entries, _ | ⟨next, more⟩⟩
    case cons.nil =>
      have last : (Entries.rename ρ entries).getLast?
          = entries.getLast?.map (Prod.map (Value.rename ρ) (Value.rename ρ)) :=
        List.getLast?_map
      have rest : (Entries.rename ρ entries).dropLast = Entries.rename ρ entries.dropLast :=
        List.map_dropLast.symm
      rw [Layers.rename, Scope.image_cons, Scope.image_nil, List.map_cons, List.map_nil]
      dsimp only
      rw [last, rest]
      cases entries.getLast? with
      | none => exact follows_throw _
      | some entry =>
          exact follows_written [address] [entries.dropLast] (.tuple [entry.1, entry.2])
    case nil => exact follows_throw _
    case cons.cons =>
      have first := popFirst (entries :: next :: more)
      simp only [Layers.rename, Scope.image_cons, List.map_cons, List.map_nil] at first ⊢
      rw [first]
      cases Scope.popFirst? (entries :: next :: more) with
      | none => exact follows_throw _
      | some popped =>
          exact follows_written [address] popped.2 (.tuple [popped.1.1, popped.1.2])
  all_goals
    simp only [List.map_cons, List.map_nil]
    rw [popFirst]
    cases layers.popFirst? with
    | none => exact follows_throw _
    | some popped => exact follows_written _ popped.2 (.tuple [popped.1.1, popped.1.2])

/-- **Every method of mappings is followed**, one case for each. -/
theorem follows_ofMapping (chain : List Address) (method : Method) :
    Copies ρ base (Value.rename ρ) (ofMapping chain method args)
      (ofMapping (chain.map ρ) method (args.rename ρ)) := by
  have read : Copies ρ base (Layers.rename ρ) (Eval.scope chain) (Eval.scope (chain.map ρ)) :=
    follows_scope chain
  cases method with
  | get =>
      refine read.bindCopy fun layers => ?_
      refine (follows_keyArguments args chain _).bindCopy fun given => ?_
      have default : ((given.2.map (Value.rename ρ)).getD .none)
          = (given.2.getD .none).rename ρ := getD_rename _ rfl
      dsimp only [Prod.map]
      rw [Scope.get?_image keepsKeys_rename, default]
      exact follows_pure (Option.getD_map _ _ _)
  | pop =>
      refine read.bindCopy fun layers => ?_
      refine (follows_keyArguments args chain _).bindCopy fun given => ?_
      obtain ⟨key, default⟩ := given
      dsimp only [Prod.map]
      rw [Scope.pop?_image keepsKeys_rename]
      cases layers.pop? key with
      | some popped => exact follows_written chain popped.2 popped.1
      | none =>
          cases default with
          | none => exact follows_missing key
          | some value => exact follows_pure rfl
  | keys | values | items =>
      refine read.bindCopy fun layers => ?_
      exact (follows_noArguments args chain _).bindSame fun _ => follows_pure rfl
  | setdefault =>
      refine read.bindCopy fun layers => ?_
      refine (follows_keyArguments args chain _).bindCopy fun given => ?_
      have default : ((given.2.map (Value.rename ρ)).getD .none)
          = (given.2.getD .none).rename ρ := getD_rename _ rfl
      dsimp only [Prod.map]
      rw [default, Scope.getOrPut_image keepsKeys_rename]
      exact follows_written chain _ _
  | update => exact follows_update args chain
  | clear =>
      refine read.bindCopy fun layers => ?_
      refine (follows_noArguments args chain _).bindSame fun _ => ?_
      rw [Scope.clear_image keepsKeys_rename]
      exact follows_written chain _ .none
  | popitem => exact follows_popitem args chain
  | _ => exact read.bindCopy fun layers => follows_pure rfl

/-! ### Values as functions -/

/-- A call goes by what is called. What a function may call in turn is followed by hypothesis. -/
theorem follows_callWith {apply : Value → Value → Eval Value}
    (happly : ∀ function item, Copies ρ base (Value.rename ρ) (apply function item)
      (apply (function.rename ρ) (item.rename ρ)))
    (value : Value) :
    Copies ρ base (Value.rename ρ) (callWith apply value args)
      (callWith apply (value.rename ρ) (args.rename ρ)) := by
  have typed := Value.typeName_rename (ρ := ρ) value
  cases value with
  | builtin builtin => exact follows_function args happly builtin
  | method receiver method =>
      cases receiver with
      | text text => exact follows_ofText args text method
      | list address => exact follows_ofList args happly address method
      | tuple items =>
          rw [Value.rename, Value.rename, Value.renameAll_eq_map]
          exact follows_ofTuple args items method
      | mapping chain => exact follows_ofMapping args chain method
      | _ => exact follows_throw_of_eq (congrArg (fun name => Fault.object name _) typed)
  | _ => exact follows_throw_of_eq (congrArg (fun name => Fault.object name _) typed)

theorem follows_call (value : Value) :
    Copies ρ base (Value.rename ρ) (call value args) (call (value.rename ρ) (args.rename ρ)) := by
  refine follows_callWith args (fun function item => ?_) value
  refine follows_callWith ⟨[item], []⟩ (fun function item => ?_) function
  rw [Value.typeName_rename]
  exact follows_throw _

/-- Which members a value has goes by its type. -/
theorem follows_member (object : Value) (name : Text) :
    Copies ρ base (Value.rename ρ) (member object name) (member (object.rename ρ) name) := by
  unfold member
  rw [Value.methods_rename]
  cases object.methods.find? fun method => method.label = name with
  | some method => exact follows_pure (by rw [Value.rename])
  | none =>
      have unknown : Copies ρ base (Value.rename ρ) (throw (.noAttribute object.typeName name))
          (throw (.noAttribute (object.rename ρ).typeName name)) :=
        follows_throw_of_eq (congrArg (fun typeName => Fault.noAttribute typeName name)
          (Value.typeName_rename object))
      cases object with
      | mapping chain =>
          rcases chain with _ | ⟨inner, _ | ⟨next, outer⟩⟩
          · exact unknown
          · exact unknown
          · rw [Value.rename, List.map_cons, List.map_cons] at unknown ⊢
            dsimp only
            split
            · exact follows_pure rfl
            split
            · exact follows_pure rfl
            · exact unknown
      | _ => exact unknown

end Stencil.Script.Call
