import Stencil.Proofs.Render.Refinement
import Stencil.Script.Call

/-!
# What computations of scripts may do

`Eval.Obeys Step MayFail run` bounds a computation from above: whatever it comes to, the store before
and the store after it are in the relation `Step`, and it fails only with the faults of `MayFail`. It
is shown for the ways in which computations are put together, so that a function is looked into once
for each bound. Reading the arguments of a method is the first such function: it leaves the store
alone, and a missing key is never what it complains about.
-/

namespace Stencil.Script

open Render (after)

namespace Eval

variable {α β : Type} {Step : Store → Store → Prop} {MayFail : Fault → Prop}

/-- A computation that starts on a store changes it only as `Step` allows, and fails only as
`MayFail` allows. -/
def ObeysAt (Step : Store → Store → Prop) (MayFail : Fault → Prop) (store : Store) (run : Eval α) :
    Prop :=
  Step store (after (run store)) ∧ ∀ fault rest, run store = .error fault rest → MayFail fault

/-- A computation obeys wherever it starts. -/
def Obeys (Step : Store → Store → Prop) (MayFail : Fault → Prop) (run : Eval α) : Prop :=
  ∀ store, ObeysAt Step MayFail store run

theorem Obeys.mono {Step' : Store → Store → Prop} {MayFail' : Fault → Prop} {run : Eval α}
    (h : Obeys Step MayFail run) (step : ∀ store rest, Step store rest → Step' store rest)
    (mayFail : ∀ fault, MayFail fault → MayFail' fault) : Obeys Step' MayFail' run := by
  intro store
  obtain ⟨hstep, hfail⟩ := h store
  exact ⟨step _ _ hstep, fun fault rest herror => mayFail fault (hfail fault rest herror)⟩

section

variable [Std.Refl Step]

theorem obeys_pure (a : α) : Obeys Step MayFail (pure a : Eval α) := by
  intro store
  exact ⟨Std.Refl.refl store, fun _ _ h => by cases h⟩

theorem obeys_throw {fault : Fault} (h : MayFail fault) :
    Obeys Step MayFail (throw fault : Eval α) := by
  intro store
  refine ⟨Std.Refl.refl store, ?_⟩
  intro found rest hfound
  cases hfound
  exact h

theorem obeys_get : Obeys Step MayFail (get : Eval Store) := by
  intro store
  exact ⟨Std.Refl.refl store, fun _ _ h => by cases h⟩

theorem obeys_ask {question : Store → Except Fault α}
    (h : ∀ store fault, question store = .error fault → MayFail fault) :
    Obeys Step MayFail (ask question) := by
  intro store
  rw [ObeysAt, ask]
  cases hanswer : question store with
  | ok answer => exact ⟨Std.Refl.refl store, fun _ _ h => by cases h⟩
  | error fault =>
      refine ⟨Std.Refl.refl store, ?_⟩
      intro found rest hfound
      cases hfound
      exact h store fault hanswer

end

theorem obeys_bind [Trans Step Step Step] {run : Eval α} {next : α → Eval β}
    (hrun : Obeys Step MayFail run) (hnext : ∀ a, Obeys Step MayFail (next a)) :
    Obeys Step MayFail (run >>= next) := by
  intro store
  obtain ⟨hstep, hfail⟩ := hrun store
  cases hresult : run store with
  | error fault mid =>
      rw [hresult] at hstep
      rw [ObeysAt, Render.bind_error hresult]
      refine ⟨hstep, ?_⟩
      intro found rest hfound
      cases hfound
      exact hfail fault mid hresult
  | ok a mid =>
      rw [hresult] at hstep
      rw [ObeysAt, Render.bind_ok hresult]
      exact ⟨Trans.trans hstep (hnext a mid).1, (hnext a mid).2⟩

/-- A loop over a list keeps to what its rounds keep to. -/
theorem obeys_forIn [Std.Refl Step] [Trans Step Step Step] {items : List β} {start : α}
    {round : β → α → Eval (ForInStep α)} (h : ∀ item a, Obeys Step MayFail (round item a)) :
    Obeys Step MayFail (forIn items start round) := by
  induction items generalizing start with
  | nil => exact obeys_pure start
  | cons item rest ih =>
      rw [List.forIn_cons]
      refine obeys_bind (h item start) ?_
      intro next
      cases next with
      | done a => exact obeys_pure a
      | yield a => exact ih

/-- A computation that leaves the store as it is, and never fails because a key is missing. -/
abbrev Inspects (run : Eval α) : Prop :=
  Obeys Eq (fun fault => fault.kind ≠ .key) run

theorem inspects_throw {fault : Fault} (h : (fault.kind == .key) = false) :
    Inspects (throw fault : Eval α) :=
  obeys_throw (by simpa using h)

/-- What comes of looking at something first. -/
theorem ObeysAt.bind_cases {run : Eval α} {next : α → Eval β} {store : Store}
    {P : EStateM.Result Fault Store β → Prop} (h : ObeysAt Eq MayFail store run)
    (returns : ∀ a, run store = .ok a store → P (next a store))
    (fails : ∀ fault, MayFail fault → P (.error fault store)) : P ((run >>= next) store) := by
  obtain ⟨hsame, hfault⟩ := h
  cases hrun : run store with
  | ok a rest =>
      rw [hrun] at hsame
      have hrest : store = rest := hsame
      rw [Render.bind_ok hrun, ← hrest]
      exact returns a (hrun.trans (by rw [← hrest]))
  | error fault rest =>
      rw [hrun] at hsame
      have hrest : store = rest := hsame
      rw [Render.bind_error hrun, ← hrest]
      exact fails fault (hfault fault rest hrun)

theorem get_eq {store : Store} : (get : Eval Store) store = .ok store store := rfl

theorem scope_eq {store : Store} {chain : List Address} :
    scope chain store = .ok (store.scope chain) store := rfl

theorem inspects_scope (chain : List Address) : Inspects (scope chain) :=
  obeys_bind obeys_get fun _ => obeys_pure _

/-! ### Checks of arguments -/

theorem inspects_checkKey (value : Value) : Inspects (checkKey value) := by
  rw [checkKey]
  cases value.notHashable? with
  | none => exact obeys_pure ()
  | some typeName => exact inspects_throw rfl

end Eval

open Eval

namespace Operation

/-- Taking a value apart into a number of parts only looks at it, and a wrong number is no missing
key. -/
theorem inspects_unpack (count : Nat) (value : Value) : Inspects (unpack count value) := by
  refine obeys_bind obeys_get ?_
  intro store
  cases store.items? value with
  | none => exact inspects_throw rfl
  | some items =>
      show Inspects (if items.length < count then _ else _)
      split
      · exact inspects_throw rfl
      · split
        · exact inspects_throw rfl
        · exact obeys_pure items

end Operation

namespace Call

variable {args : Arguments}

theorem inspects_refuseNames (what : String) : Inspects (refuseNames what args) := by
  rw [refuseNames]
  split
  · exact obeys_pure _
  · exact inspects_throw rfl

theorem inspects_nothing (what : String) : Inspects (nothing what args) := by
  refine obeys_bind (inspects_refuseNames what) ?_
  intro values
  cases values with
  | nil => exact obeys_pure ()
  | cons value rest => exact inspects_throw rfl

theorem inspects_between (owner name : String) (low high : Nat) :
    Inspects (between owner name low high args) := by
  refine obeys_bind (inspects_refuseNames _) ?_
  intro values
  split
  · exact inspects_throw rfl
  · split
    · exact inspects_throw rfl
    · exact obeys_pure values

/-- Sorting out the arguments of a call changes nothing, and none of its faults is a missing key. -/
theorem inspects_parameters (what : String) (required optional : List String) :
    Inspects (parameters what required optional args) := by
  unfold parameters
  refine obeys_bind (obeys_forIn ?_) ?_
  · intro item a
    dsimp only
    split
    · exact obeys_bind (inspects_throw rfl) fun _ => obeys_pure _
    · split
      · exact obeys_bind (inspects_throw rfl) fun _ => obeys_pure _
      · exact obeys_pure _
  · intro _
    dsimp only
    split
    · exact obeys_bind (inspects_throw rfl) fun _ => by
        split
        · exact inspects_throw rfl
        · exact obeys_pure _
    · split
      · exact inspects_throw rfl
      · exact obeys_pure _

theorem inspects_keyArguments (chain : List Address) (method : Method) :
    Inspects (keyArguments chain method args) := by
  unfold keyArguments
  split
  · refine obeys_bind (inspects_between _ _ _ _) fun _ => obeys_bind (obeys_pure _) fun values => ?_
    dsimp only
    split
    · exact obeys_bind (inspects_checkKey _) fun _ => obeys_pure _
    · exact obeys_pure _
  · refine obeys_bind (inspects_parameters _ _ _) fun values => ?_
    dsimp only
    split
    · exact obeys_bind (inspects_checkKey _) fun _ => obeys_pure _
    · exact obeys_pure _

theorem inspects_noArguments (chain : List Address) (method : Method) :
    Inspects (noArguments chain method args) := by
  unfold noArguments
  split
  · exact inspects_nothing _
  · exact obeys_bind (inspects_parameters _ _ _) fun _ => obeys_pure ()

/-- An item of `update` is taken apart without touching the store. -/
theorem inspects_entryOf (chain : List Address) (item : Value) (place : Nat) :
    Inspects (entryOf chain item place) := by
  refine obeys_bind obeys_get ?_
  intro store
  split
  · exact inspects_throw rfl
  · exact obeys_pure _
  · exact inspects_throw rfl
  · refine obeys_bind (Operation.inspects_unpack 2 item) ?_
    intro values
    split
    · exact obeys_pure _
    · exact obeys_pure _

end Call

end Stencil.Script
