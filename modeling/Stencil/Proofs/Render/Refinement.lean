import Stencil.Proofs.Render.Layers

/-!
# Rendering over layers refines rendering over a flat map

`Refines` relates a computation of the renderer to one of the reference: from states that simulate
each other they end alike, with related results or with the same error, and in states that simulate
each other again. It is proved for every way in which computations are put together, and for loops
in the next module.

The reference keeps a record of the rounds of its loops, and the record only grows (`Grows`). So if
no collection was changed in the whole run, none was changed in any part of it.
-/

namespace Stencil

variable {K V World Failure : Type}

/-! ### Ends of computations -/

namespace Render

variable {Error State α β : Type}

/-- The state in which a computation ends. -/
def after : EStateM.Result Error State α → State
  | .ok _ state => state
  | .error _ state => state

/-- The end of a computation that gets an answer of the evaluator. -/
def settle (answer : Except Failure α) (state : State) :
    EStateM.Result (RenderError Failure V) State α :=
  match answer with
  | .ok answer => .ok answer state
  | .error failure => .error (.failed failure) state

@[simp] theorem after_settle (answer : Except Failure α) (state : State) :
    after (settle (V := V) answer state) = state := by
  cases answer <;> rfl

theorem ask_eq (question : State → Except Failure α) (state : State) :
    (ask question : Render State V Failure α) state = settle (question state) state := by
  rw [ask]
  cases question state <;> rfl

theorem bind_ok {x : EStateM Error State α} {f : α → EStateM Error State β} {state last : State}
    {a : α} (h : x state = .ok a last) : (x >>= f) state = f a last := by
  show EStateM.bind x f state = f a last
  rw [EStateM.bind, h]

theorem bind_error {x : EStateM Error State α} {f : α → EStateM Error State β}
    {state last : State} {error : Error} (h : x state = .error error last) :
    (x >>= f) state = .error error last := by
  show EStateM.bind x f state = .error error last
  rw [EStateM.bind, h]

end Render

/-- Two computations end alike: with related results or with the same error, in related states. -/
inductive Alike {Error State State' α β : Type} (Same : α → β → Prop) (Sim : State → State' → Prop) :
    EStateM.Result Error State α → EStateM.Result Error State' β → Prop
  | ok {a : α} {b : β} {state : State} {state' : State'} (same : Same a b) (sim : Sim state state') :
      Alike Same Sim (.ok a state) (.ok b state')
  | error {error : Error} {state : State} {state' : State'} (sim : Sim state state') :
      Alike Same Sim (.error error state) (.error error state')

section

variable {Error State State' α β : Type} {Same : α → β → Prop} {Sim : State → State' → Prop}
  {result : EStateM.Result Error State α} {result' : EStateM.Result Error State' β} {state' : State'}

theorem Alike.exists_of_ok {b : β} (h : Alike Same Sim result (.ok b state')) :
    ∃ a state, result = .ok a state ∧ Same a b ∧ Sim state state' := by
  cases h with
  | ok same sim => exact ⟨_, _, rfl, same, sim⟩

theorem Alike.exists_of_error {error : Error} (h : Alike Same Sim result (.error error state')) :
    ∃ state, result = .error error state ∧ Sim state state' := by
  cases h with
  | error sim => exact ⟨_, rfl, sim⟩

theorem Alike.sim_after (h : Alike Same Sim result result') :
    Sim (Render.after result) (Render.after result') := by
  cases h with
  | ok _ sim => exact sim
  | error sim => exact sim

theorem Alike.imp {Sim' : State → State' → Prop} (h : Alike Same Sim result result')
    (himp : ∀ {state state'}, Sim state state' → Sim' state state') :
    Alike Same Sim' result result' := by
  cases h with
  | ok same sim => exact .ok same (himp sim)
  | error sim => exact .error (himp sim)

end

theorem alike_settle {State State' α : Type} {Sim : State → State' → Prop} {state : State}
    {state' : State'} (answer : Except Failure α) (sim : Sim state state') :
    Alike Eq Sim (Render.settle (V := V) answer state) (Render.settle answer state') := by
  cases answer with
  | ok answer => exact .ok rfl sim
  | error failure => exact .error sim

/-! ### Growth -/

/-- The record of rounds only grows. -/
def Grows {α : Type} (reference : Render (Flat K V World) V Failure α) : Prop :=
  ∀ flat, flat.rounds ⊆ (Render.after (reference flat)).rounds

section

variable {α β : Type}

theorem grows_pure (a : α) : Grows (pure a : Render (Flat K V World) V Failure α) :=
  fun _ => List.Subset.refl _

theorem grows_throw (error : RenderError Failure V) :
    Grows (throw error : Render (Flat K V World) V Failure α) :=
  fun _ => List.Subset.refl _

/-- What two steps record is what the first records, and then the second. -/
theorem grows_bind {x : Render (Flat K V World) V Failure α}
    {f : α → Render (Flat K V World) V Failure β} (hx : Grows x)
    (hf : ∀ flat a last, x flat = .ok a last → Grows (f a)) : Grows (x >>= f) := by
  intro flat
  have hfirst := hx flat
  cases hresult : x flat with
  | error error last =>
      rw [hresult] at hfirst
      rw [Render.bind_error hresult]
      exact hfirst
  | ok a last =>
      rw [hresult] at hfirst
      rw [Render.bind_ok hresult]
      exact List.Subset.trans hfirst (hf flat a last hresult last)

theorem grows_ask (question : Flat K V World → Except Failure α) :
    Grows (Render.ask question : Render (Flat K V World) V Failure α) := by
  intro flat
  rw [Render.ask_eq, Render.after_settle]
  exact List.Subset.refl _

end

variable [BEq K] {e : MapEvaluator K V World Failure}

/-- Whether a run ends well or fails, the old values of the names come back behind it. -/
theorem after_restoring {α : Type} {names : List K} {run : Render (Flat K V World) V Failure α}
    {flat : Flat K V World} :
    Render.after (Flat.restoring names run flat)
      = (Render.after (run flat)).restore names flat.context := by
  rw [Flat.restoring]
  cases run flat <;> rfl

theorem grows_restoring {α : Type} {names : List K} {run : Render (Flat K V World) V Failure α}
    (h : Grows run) : Grows (Flat.restoring names run) := by
  intro flat
  rw [after_restoring]
  exact h flat

section

variable {header : LoopHeader} {collection : V} {items : List V}
  {body : Render (Flat K V World) V Failure Text}

/-- A round begins with a note of it. -/
theorem noted_eachRound (hbody : Grows body) (rest : List V) (index : Nat) (flat : Flat K V World) :
    (Flat.note collection items flat).rounds
      ⊆ (Render.after (e.eachRound header collection items body rest index flat)).rounds := by
  induction rest generalizing index flat with
  | nil => exact List.Subset.refl _
  | cons item rest ih =>
      have hrest : Grows (e.eachRound header collection items body rest (index + 1)) :=
        fun flat => List.Subset.trans (List.subset_append_left _ _) (ih (index + 1) flat)
      exact grows_bind hbody
        (fun _ _ _ _ => grows_bind hrest fun _ _ _ _ => grows_pure _)
        (e.bind header item index (Flat.note collection items flat))

theorem grows_eachRound (hbody : Grows body) (rest : List V) (index : Nat) :
    Grows (e.eachRound header collection items body rest index) :=
  fun flat => List.Subset.trans (List.subset_append_left _ _) (noted_eachRound hbody rest index flat)

/-- The collection of a steady loop has its first items at the beginning of every round. -/
theorem items_of_isSteady (hbody : Grows body) {rest : List V} {index : Nat} {flat : Flat K V World}
    (h : (Render.after (e.eachRound header collection items body rest index flat)).IsSteady e) :
    e.items flat.world collection = items := by
  refine h ⟨flat.world, collection, items⟩ (noted_eachRound hbody rest index flat ?_)
  exact List.mem_append_right _ (List.mem_singleton_self _)

end

/-! ### Evaluations -/

theorem value_layered (e : MapEvaluator K V World Failure) (source : Text) (chain : List Nat)
    (world : World) (tables : Tables K V) (sources : List Text) :
    let out := (e.evaluate source world).run (Tables.map chain) tables
    Render.value e.layered.recorded source chain ((world, tables), sources)
      = Render.settle out.1.1 ((out.1.2, out.2), sources ++ [source]) := by
  rw [Render.value]
  simp only [Evaluator.recorded, Evaluator.noting, MapEvaluator.layered]
  rcases (e.evaluate source world).run (Tables.map chain) tables with ⟨⟨_ | _, _⟩, _⟩ <;> rfl

theorem value_flat (e : MapEvaluator K V World Failure) (source : Text) (flat : Flat K V World) :
    let out := (e.evaluate source flat.world).run Flat.map flat.context
    Render.value e.flat source () flat
      = Render.settle out.1.1
          { flat with world := out.1.2, context := out.2, sources := flat.sources ++ [source] } := by
  rw [Render.value]
  simp only [MapEvaluator.flat]
  rcases (e.evaluate source flat.world).run Flat.map flat.context with ⟨⟨_ | _, _⟩, _⟩ <;> rfl

/-! ### Simulation -/

/-- A state of the renderer inside some loops simulates a state of the reference. -/
structure Simulates (chain : List Nat) (loops : List (Running K V))
    (state : (World × Tables K V) × List Text) (flat : Flat K V World) : Prop where
  world : state.1.1 = flat.world
  sources : state.2 = flat.sources
  shows : Tables.Shows chain loops state.1.2 flat.context

/-- A computation of the renderer refines one of the reference, unless a collection is changed. Every
result of the reference is related to some result, so that its growth can be followed through a
sequence of computations. -/
structure Refines (e : MapEvaluator K V World Failure) (chain : List Nat)
    (loops : List (Running K V)) {α β : Type} (Same : α → β → Prop)
    (run : Render ((World × Tables K V) × List Text) V Failure α)
    (reference : Render (Flat K V World) V Failure β) : Prop where
  grows : Grows reference
  returns : ∀ flat b last, reference flat = .ok b last → ∃ a, Same a b
  alike : ∀ state flat, Simulates chain loops state flat →
    (Render.after (reference flat)).IsSteady e →
    Alike Same (Simulates chain loops) (run state) (reference flat)

/-- A body refines a body of the reference, inside whatever loops. -/
def RefinesBody (e : MapEvaluator K V World Failure)
    (body : Body ((World × Tables K V) × List Text) (List Nat) V Failure)
    (reference : Body (Flat K V World) Unit V Failure) : Prop :=
  ∀ chain loops, Refines e chain loops Eq (body chain) (reference ())

section

variable {α β γ δ : Type} {Same : α → β → Prop} {Same' : γ → δ → Prop} {chain : List Nat}
  {loops : List (Running K V)}

theorem refines_pure {a : α} {b : β} (h : Same a b) :
    Refines e chain loops Same (pure a) (pure b) where
  grows := grows_pure b
  returns := fun _ _ _ heq => by
    cases heq
    exact ⟨a, h⟩
  alike := fun _ _ hsim _ => .ok h hsim

theorem refines_throw (error : RenderError Failure V) :
    Refines e chain loops Same (throw error) (throw error) where
  grows := grows_throw error
  returns := fun _ _ _ heq => nomatch heq
  alike := fun _ _ hsim _ => .error hsim

/-- Two steps refine two steps. Both conditions, on the ends and on the growth of the record, go
through the state in between. -/
theorem refines_bind {x : Render ((World × Tables K V) × List Text) V Failure α}
    {y : Render (Flat K V World) V Failure β}
    {f : α → Render ((World × Tables K V) × List Text) V Failure γ}
    {g : β → Render (Flat K V World) V Failure δ} (hx : Refines e chain loops Same x y)
    (hf : ∀ a b, Same a b → Refines e chain loops Same' (f a) (g b)) :
    Refines e chain loops Same' (x >>= f) (y >>= g) where
  grows := by
    refine grows_bind hx.grows fun flat b last hresult => ?_
    obtain ⟨a, hsame⟩ := hx.returns flat b last hresult
    exact (hf a b hsame).grows
  returns := by
    intro flat d last heq
    cases hresult : y flat with
    | error error after =>
        rw [Render.bind_error hresult] at heq
        cases heq
    | ok b after =>
        rw [Render.bind_ok hresult] at heq
        obtain ⟨a, hsame⟩ := hx.returns flat b after hresult
        exact (hf a b hsame).returns after d last heq
  alike := by
    intro state flat hsim hsteady
    have hfirst := hx.alike state flat hsim
    cases hresult : y flat with
    | error error after =>
        rw [Render.bind_error hresult] at hsteady ⊢
        rw [hresult] at hfirst
        obtain ⟨last, hrun, hlast⟩ := (hfirst hsteady).exists_of_error
        rw [Render.bind_error hrun]
        exact .error hlast
    | ok b after =>
        obtain ⟨a', hsame'⟩ := hx.returns flat b after hresult
        rw [Render.bind_ok hresult] at hsteady ⊢
        rw [hresult] at hfirst
        -- The record after the first computation is part of the record after both.
        have hmiddle : after.IsSteady e := fun round hround =>
          hsteady round ((hf a' b hsame').grows after hround)
        obtain ⟨a, last, hrun, hsame, hlast⟩ := (hfirst hmiddle).exists_of_ok
        rw [Render.bind_ok hrun]
        exact (hf a b hsame).alike last after hlast hsteady

theorem refines_ite {c : Prop} [Decidable c]
    {run run' : Render ((World × Tables K V) × List Text) V Failure α}
    {reference reference' : Render (Flat K V World) V Failure β}
    (holds : c → Refines e chain loops Same run reference)
    (fails : ¬c → Refines e chain loops Same run' reference') :
    Refines e chain loops Same (if c then run else run') (if c then reference else reference') := by
  by_cases h : c
  · rw [if_pos h, if_pos h]
    exact holds h
  · rw [if_neg h, if_neg h]
    exact fails h

/-- Evaluating refines evaluating: an evaluator of maps sees a scope as one map, whichever way that
is stored (`Shows.run`). -/
theorem refines_value [EquivBEq K] (source : Text) :
    Refines e chain loops Eq (Render.value e.layered.recorded source chain)
      (Render.value e.flat source ()) where
  grows := by
    intro flat
    rw [value_flat, Render.after_settle]
    exact List.Subset.refl _
  returns := fun _ b _ _ => ⟨b, rfl⟩
  alike := by
    rintro ⟨⟨world, tables⟩, sources⟩ flat ⟨hworld, hsources, hshows⟩ -
    cases hworld
    cases hsources
    obtain ⟨hanswer, hafter⟩ := hshows.run (e.evaluate source flat.world)
    rw [value_layered, value_flat, hanswer]
    exact alike_settle _ ⟨rfl, rfl, hafter⟩

/-- An answer that depends on the world alone. -/
theorem refines_ask (question : World → Except Failure α) :
    Refines e chain loops Eq (Render.ask fun state => question state.1.1)
      (Render.ask fun flat => question flat.world) where
  grows := grows_ask _
  returns := fun _ b _ _ => ⟨b, rfl⟩
  alike := by
    intro state flat hsim _
    rw [Render.ask_eq, Render.ask_eq, hsim.world]
    exact alike_settle _ hsim

end

/-! ### Bodies -/

variable [EquivBEq K]
  {otherwise : Body ((World × Tables K V) × List Text) (List Nat) V Failure}
  {otherwise' : Body (Flat K V World) Unit V Failure}
  {branches : List (Text × Body ((World × Tables K V) × List Text) (List Nat) V Failure)}
  {branches' : List (Text × Body (Flat K V World) Unit V Failure)}

/-- Bodies that refine each other one by one, each with the same thing beside it. -/
abbrev RefinesBranches {A : Type} (e : MapEvaluator K V World Failure) :
    List (A × Body ((World × Tables K V) × List Text) (List Nat) V Failure) →
      List (A × Body (Flat K V World) Unit V Failure) → Prop :=
  List.Forall₂ fun branch branch' => branch.1 = branch'.1 ∧ RefinesBody e branch.2 branch'.2

theorem refinesBody_shown (source : Text) :
    RefinesBody e (Render.shown e.layered.recorded source) (Render.shown e.flat source) := by
  intro chain loops
  refine refines_bind (refines_value source) ?_
  intro value _ rfl
  exact refines_ask fun world => e.display world value

theorem refinesBody_choose (hotherwise : RefinesBody e otherwise otherwise')
    (hbranches : RefinesBranches e branches branches') :
    RefinesBody e (Render.choose e.layered.recorded otherwise branches)
      (Render.choose e.flat otherwise' branches') := by
  intro chain loops
  induction hbranches with
  | nil => exact hotherwise chain loops
  | @cons branch branch' rest rest' hbranch _ ih =>
      obtain ⟨condition, body⟩ := branch
      obtain ⟨_, body'⟩ := branch'
      obtain ⟨rfl, hbody⟩ := hbranch
      refine refines_bind (refines_value condition) ?_
      intro value _ rfl
      refine refines_bind (refines_ask fun world => e.isTrue world value) ?_
      intro holds _ rfl
      exact refines_ite (fun _ => hbody chain loops) (fun _ => ih)

theorem refines_caseValues {chain : List Nat} {loops : List (Running K V)}
    (hbranches : RefinesBranches e branches branches') :
    Refines e chain loops (RefinesBranches e)
      (Render.caseValues e.layered.recorded branches chain)
      (Render.caseValues e.flat branches' ()) := by
  induction hbranches with
  | nil => exact refines_pure .nil
  | @cons branch branch' rest rest' hbranch _ ih =>
      obtain ⟨source, body⟩ := branch
      obtain ⟨_, body'⟩ := branch'
      obtain ⟨rfl, hbody⟩ := hbranch
      refine refines_bind (refines_value source) ?_
      intro value _ rfl
      refine refines_bind ih ?_
      intro more more' hmore
      exact refines_pure (.cons ⟨rfl, hbody⟩ hmore)

omit [EquivBEq K] in
theorem refines_lastEqual {chain : List Nat} {loops : List (Running K V)} (subject : V)
    {values : List (V × Body ((World × Tables K V) × List Text) (List Nat) V Failure)}
    {values' : List (V × Body (Flat K V World) Unit V Failure)}
    (hotherwise : RefinesBody e otherwise otherwise')
    (hvalues : RefinesBranches e values values') :
    Refines e chain loops (RefinesBody e)
      (Render.lastEqual e.layered.recorded subject otherwise values)
      (Render.lastEqual e.flat subject otherwise' values') := by
  -- The body that was chosen so far stands in the place of `otherwise`.
  induction hvalues generalizing otherwise otherwise' with
  | nil => exact refines_pure hotherwise
  | @cons branch branch' rest rest' hbranch _ ih =>
      obtain ⟨value, body⟩ := branch
      obtain ⟨_, body'⟩ := branch'
      obtain ⟨rfl, hbody⟩ := hbranch
      refine refines_bind (refines_ask fun world => e.areEqual world value subject) ?_
      intro isEqual _ rfl
      refine ih ?_
      by_cases h : isEqual
      · rw [if_pos h, if_pos h]
        exact hbody
      · rw [if_neg h, if_neg h]
        exact hotherwise

theorem refinesBody_select (subject : Text) (hotherwise : RefinesBody e otherwise otherwise')
    (hbranches : RefinesBranches e branches branches') :
    RefinesBody e (Render.select e.layered.recorded subject otherwise branches)
      (Render.select e.flat subject otherwise' branches') := by
  intro chain loops
  refine refines_bind (refines_caseValues hbranches) ?_
  intro values values' hvalues
  refine refines_bind (refines_value subject) ?_
  intro subject _ rfl
  refine refines_bind (refines_lastEqual subject hotherwise hvalues) ?_
  intro body body' hbody
  exact hbody chain loops

end Stencil
