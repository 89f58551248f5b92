import Stencil.Proofs.Render.Refinement

/-!
# Loops over layers refine loops over a flat map

Between two rounds the flat map may hold the item and the index of the last round, which no layer
shows any more: what is simulated there is the map with the names of the loop put back, and this is
the invariant of `alike_eachItem`. Within a round it is the map itself.
-/

namespace Stencil

/-! ### One round -/

namespace Render

variable {State Scope Value Failure : Type} {e : Evaluator State Scope Value Failure}
  {header : LoopHeader} {body : Body State Scope Value Failure} {collection item : Value}
  {scope inner : Scope} {index : Nat} {before text : Text} {state entered last : State}

theorem eachItem_none (h : e.item? state collection index = none) :
    eachItem e header body collection scope index before state = .ok before state := by
  rw [eachItem_eq]
  simp only [round, h]

theorem eachItem_error {error : RenderError Failure Value}
    (h : e.item? state collection index = some item)
    (henter : e.enter scope header.item item header.index index state = (inner, entered))
    (hbody : body inner entered = .error error last) :
    eachItem e header body collection scope index before state = .error error last := by
  rw [eachItem_eq]
  simp only [round, h, henter, hbody]

theorem eachItem_ok (h : e.item? state collection index = some item)
    (henter : e.enter scope header.item item header.index index state = (inner, entered))
    (hbody : body inner entered = .ok text last) :
    eachItem e header body collection scope index before state =
      eachItem e header body collection scope (index + 1) (before ++ text) last := by
  rw [eachItem_eq]
  simp only [round, h, henter, hbody]

theorem after_map {Error α β : Type} {x : EStateM Error State α} {f : α → β} :
    after ((x >>= fun a => pure (f a)) state) = after (x state) := by
  cases h : x state with
  | ok a last =>
      rw [bind_ok h]
      rfl
  | error error last =>
      rw [bind_error h]
      rfl

end Render

/-- The text of a round stands before the texts of the rounds after it. -/
theorem alike_append {Error State State' : Type} {Sim : State → State' → Prop}
    {result : EStateM.Result Error State Text} {reference : EStateM Error State' Text}
    {state' : State'} {before text : Text}
    (h : Alike (fun whole rest => whole = before ++ text ++ rest) Sim result (reference state')) :
    Alike (fun whole rest => whole = before ++ rest) Sim result
      ((reference >>= fun rest => pure (text ++ rest)) state') := by
  cases hreference : reference state' with
  | ok rest last =>
      rw [Render.bind_ok hreference]
      rw [hreference] at h
      obtain ⟨whole, state, rfl, rfl, sim⟩ := h.exists_of_ok
      exact .ok (List.append_assoc ..) sim
  | error error last =>
      rw [Render.bind_error hreference]
      rw [hreference] at h
      obtain ⟨state, rfl, sim⟩ := h.exists_of_error
      exact .error sim

/-! ### Between rounds -/

section

variable {K V World Failure : Type} [BEq K] {e : MapEvaluator K V World Failure}
  {header : LoopHeader} {chain : List Nat} {loops : List (Running K V)} {old : Table K V}

/-- What holds between two rounds of a loop that began with the map `old`. -/
structure BetweenRounds (e : MapEvaluator K V World Failure) (header : LoopHeader) (old : Table K V)
    (chain : List Nat) (loops : List (Running K V)) (state : (World × Tables K V) × List Text)
    (flat : Flat K V World) : Prop where
  simulates : Simulates chain loops state (flat.restore (e.loopNames header) old)
  isMap : Table.IsMap flat.context

variable [EquivBEq K] {state : (World × Tables K V) × List Text} {flat : Flat K V World}

theorem BetweenRounds.start (h : Simulates chain loops state flat) :
    BetweenRounds e header flat.context chain loops state flat where
  simulates := ⟨h.world, h.sources, h.shows.restore_self⟩
  isMap := h.shows.isMap

omit [EquivBEq K] in
theorem any_loopNames {key : K} :
    (e.loopNames header).any (· == key)
      = (e.name header.item == key || e.name header.index == key) := by
  rw [MapEvaluator.loopNames, List.any_cons, List.any_cons, List.any_nil, Bool.or_false]

/-- A table in which a loop has bound its names. -/
theorem get?_bound {table : Table K V} {item : V} {index : Nat} {key : K} :
    Table.get? (Table.put (e.name header.index) (e.count index)
        (Table.put (e.name header.item) item table)) key
      = if e.name header.index == key then some (e.count index)
        else if e.name header.item == key then some item
        else Table.get? table key := by
  rw [Table.get?_put, Table.get?_put]

/-- The new layer and the flat map get the item and the index under the same names, and the flat map
keeps what it has under all others. -/
theorem BetweenRounds.enter {world : World} {tables : Tables K V} {sources : List Text}
    (h : BetweenRounds e header old chain loops ((world, tables), sources) flat) (item : V)
    (index : Nat) :
    Simulates (tables.length :: chain) (⟨e.loopNames header, Table.get? old⟩ :: loops)
      ((world, tables ++ [Table.ofEntries [(e.name header.item, item),
        (e.name header.index, e.count index)]]), sources)
      (e.bind header item index flat) := by
  obtain ⟨⟨hworld, hsources, hshows⟩, hmap⟩ := h
  have hbindings :
      Table.ofEntries [(e.name header.item, item), (e.name header.index, e.count index)]
        = Table.put (e.name header.index) (e.count index)
            (Table.put (e.name header.item) item []) := rfl
  rw [hbindings]
  refine ⟨hworld, hsources, hshows.enter hmap.put.put Table.IsMap.nil.put.put ?_ ?_ ?_⟩
  · intro key
    rw [Table.has_eq_isSome_get?, get?_bound, any_loopNames]
    cases e.name header.index == key <;> cases e.name header.item == key <;> rfl
  · intro key hkey
    rw [any_loopNames, Bool.or_eq_true] at hkey
    rw [MapEvaluator.bind, get?_bound, get?_bound]
    by_cases hindex : e.name header.index == key
    · rw [if_pos hindex, if_pos hindex]
    · have hitem : e.name header.item == key := hkey.resolve_right hindex
      rw [if_neg hindex, if_neg hindex, if_pos hitem, if_pos hitem]
  · intro key hkey
    rw [any_loopNames, Bool.or_eq_true, not_or] at hkey
    rw [MapEvaluator.bind, get?_bound, if_neg hkey.2, if_neg hkey.1]

theorem BetweenRounds.leave {address : Nat}
    (h : Simulates (address :: chain) (⟨e.loopNames header, Table.get? old⟩ :: loops) state flat) :
    BetweenRounds e header old chain loops state flat :=
  ⟨⟨h.world, h.sources, h.shows.leave⟩, h.shows.isMap⟩

omit [EquivBEq K] in
/-- A note in the record changes nothing else. -/
theorem BetweenRounds.note (h : BetweenRounds e header old chain loops state flat) (collection : V)
    (items : List V) :
    BetweenRounds e header old chain loops state (Flat.note collection items flat) :=
  ⟨⟨h.simulates.world, h.simulates.sources, h.simulates.shows⟩, h.isMap⟩

/-! ### All rounds -/

variable {body : Body ((World × Tables K V) × List Text) (List Nat) V Failure}
  {body' : Body (Flat K V World) Unit V Failure} {collection : V} {items : List V}

omit [EquivBEq K] in
/-- Both loops come to the same item. -/
theorem item?_eq_getElem? (hbody : Grows (body' ())) {rest : List V} {index : Nat}
    (hrest : items.drop index = rest) (h : BetweenRounds e header old chain loops state flat)
    (hsteady : (Render.after
      (e.eachRound header collection items (body' ()) rest index flat)).IsSteady e) :
    e.layered.recorded.item? state collection index = rest[0]? := by
  have hworld : state.1.1 = flat.world := h.simulates.world
  have hitems : e.items state.1.1 collection = items := by
    rw [hworld]
    exact items_of_isSteady hbody hsteady
  rw [← hrest, List.getElem?_drop, Nat.add_zero, ← hitems]
  rfl

/-- The rounds from one on: the induction is on the items that are left. -/
theorem alike_eachItem (hbody : RefinesBody e body body') {rest : List V} {index : Nat}
    (hrest : items.drop index = rest) (before : Text)
    (h : BetweenRounds e header old chain loops state flat)
    (hsteady : (Render.after
      (e.eachRound header collection items (body' ()) rest index flat)).IsSteady e) :
    Alike (fun whole rest => whole = before ++ rest) (BetweenRounds e header old chain loops)
      (Render.eachItem e.layered.recorded header body collection chain index before state)
      (e.eachRound header collection items (body' ()) rest index flat) := by
  induction rest generalizing index before state flat with
  | nil =>
      have hitem := item?_eq_getElem? (hbody chain loops).grows hrest h hsteady
      rw [Render.eachItem_none hitem]
      exact .ok (List.append_nil before).symm (h.note collection items)
  | cons item rest ih =>
      have hitem := item?_eq_getElem? (hbody chain loops).grows hrest h hsteady
      have hrest' : items.drop (index + 1) = rest := by
        rw [← List.tail_drop, hrest, List.tail_cons]
      obtain ⟨⟨world, tables⟩, sources⟩ := state
      have hround := (hbody _ _).alike _ _ ((h.note collection items).enter item index)
      have heach : e.eachRound header collection items (body' ()) (item :: rest) index flat
          = (body' () >>= fun text =>
              e.eachRound header collection items (body' ()) rest (index + 1) >>= fun more =>
              pure (text ++ more))
            (e.bind header item index (Flat.note collection items flat)) := rfl
      rw [heach] at hsteady ⊢
      cases hreference :
        body' () (e.bind header item index (Flat.note collection items flat)) with
      | error error last =>
          rw [Render.bind_error hreference] at hsteady ⊢
          rw [hreference] at hround
          obtain ⟨last, hrun, hlast⟩ := (hround hsteady).exists_of_error
          rw [Render.eachItem_error hitem rfl hrun]
          exact .error (.leave hlast)
      | ok text middle =>
          rw [Render.bind_ok hreference] at hsteady ⊢
          rw [Render.after_map] at hsteady
          rw [hreference] at hround
          -- The rounds up to here are among those of the whole loop.
          have hmiddle : middle.IsSteady e := fun round hmem =>
            hsteady round (grows_eachRound (hbody chain loops).grows rest (index + 1) middle hmem)
          obtain ⟨text, last, hrun, rfl, hlast⟩ := (hround hmiddle).exists_of_ok
          rw [Render.eachItem_ok hitem rfl hrun]
          exact alike_append (ih hrest' (before ++ text) (.leave hlast) hsteady)

/-! ### Loops -/

omit [EquivBEq K] in
/-- A steady run is steady before its end is restored, and the states between rounds simulate each
other once the names of the loop are put back. -/
theorem refines_restoring {α : Type} {run : Render ((World × Tables K V) × List Text) V Failure α}
    {reference : Render (Flat K V World) V Failure α} (hgrows : Grows reference)
    (h : ∀ state flat, Simulates chain loops state flat →
      (Render.after (reference flat)).IsSteady e →
      Alike Eq (BetweenRounds e header flat.context chain loops) (run state) (reference flat)) :
    Refines e chain loops Eq run (Flat.restoring (e.loopNames header) reference) where
  grows := grows_restoring hgrows
  returns := fun _ b _ _ => ⟨b, rfl⟩
  alike := by
    intro state flat hsim hsteady
    have hrun := h state flat hsim
    rw [Flat.restoring] at hsteady ⊢
    cases hreference : reference flat with
    | ok b last =>
        rw [hreference] at hsteady hrun
        obtain ⟨b, state, hresult, rfl, hlast⟩ := (hrun hsteady).exists_of_ok
        rw [hresult]
        exact .ok rfl hlast.simulates
    | error error last =>
        rw [hreference] at hsteady hrun
        obtain ⟨state, hresult, hlast⟩ := (hrun hsteady).exists_of_error
        rw [hresult]
        exact .error hlast.simulates

theorem refinesBody_repeatOver (hbody : RefinesBody e body body') :
    RefinesBody e (Render.repeatOver e.layered.recorded header body)
      (fun scope => e.forEach header (body' scope)) := by
  intro chain loops
  refine refines_bind (refines_value header.collection) ?_
  intro collection _ rfl
  have hsequence : e.layered.recorded.isSequence collection = e.isSequence collection := rfl
  rw [hsequence]
  refine refines_ite (fun _ => refines_restoring ?_ ?_) (fun _ => refines_throw _)
  · intro flat
    exact grows_eachRound (hbody chain loops).grows _ 0 flat
  · intro state flat hsim hsteady
    exact alike_eachItem hbody List.drop_zero [] (.start hsim) hsteady

end

end Stencil
