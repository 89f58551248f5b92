import Stencil.Proofs.Script.Layers

/-!
# What the operations of mappings do

An operation of a mapping writes its layers back once, at its end, if it does not fail before
(`edits_ofMapping`). `update` alone writes more than once: it puts in one entry after another.
-/

namespace Stencil.Script

open Render (after)
open Eval Call

variable {α β : Type} {store : Store} {chain : Chain} {key value : Value}

/-- The fault of a key that a mapping does not have, or of its written form. -/
def Store.noKey (store : Store) (key : Value) : Fault :=
  match store.repr key with
  | .ok written => .noKey written
  | .error fault => fault

/-- A missing key changes nothing and is named in the message, if it can be written. -/
theorem Eval.missing_eq : (missing key : Eval α) store = .error (store.noKey key) store := by
  unfold missing Store.noKey
  cases hwritten : store.repr key with
  | ok written =>
      have hask : Eval.ask (fun store => store.repr key) store = .ok written store := by
        rw [Eval.ask, hwritten]
      rw [Render.bind_ok hask]
      rfl
  | error fault =>
      have hask : Eval.ask (fun store => store.repr key) store = .error fault store := by
        rw [Eval.ask, hwritten]
      rw [Render.bind_error hask]

/-! ### One write -/

/-- How an operation of a mapping ends: it changed the layers as `R` says, or it failed and changed
nothing. -/
def Edits (R : Scope Value Value → Scope Value Value → Prop) (chain : Chain) (store : Store) :
    EStateM.Result Fault Store α → Prop
  | .ok _ rest => ∃ layers, R (store.scope chain) layers ∧ rest = store.writeScope chain layers
  | .error _ rest => rest = store

section

variable {R : Scope Value Value → Scope Value Value → Prop}

theorem edits_error {fault : Fault} :
    Edits R chain store (.error fault store : EStateM.Result Fault Store α) := rfl

theorem edits_missing : Edits R chain store ((missing key : Eval α) store) := by
  rw [missing_eq]
  exact edits_error

theorem edits_write {layers : Scope Value Value} {a : α} (h : R (store.scope chain) layers) :
    Edits R chain store ((do Eval.writeScope chain layers; return a : Eval α) store) :=
  ⟨layers, h, rfl⟩

theorem Edits.andReturn {run : Eval α} {b : β} (h : Edits R chain store (run store)) :
    Edits R chain store ((do let _ ← run; return b : Eval β) store) := by
  cases hrun : run store with
  | ok a rest =>
      rw [hrun] at h
      rw [Render.bind_ok hrun]
      exact h
  | error fault rest =>
      rw [hrun] at h
      rw [Render.bind_error hrun]
      exact h

/-- Nothing is written. -/
theorem edits_nothing (kept : Scope.IsKept R) (h : store.Holds chain) {a : α} :
    Edits R chain store ((return a : Eval α) store) :=
  ⟨store.scope chain, kept.refl _, (Store.writeScope_scope h).symm⟩

theorem edits_assign (kept : Scope.IsKept R) :
    Edits R chain store (Operation.assign (.mapping chain) key value store) := by
  refine (inspects_checkKey key store).bind_cases ?_ fun _ _ => edits_error
  intro _ _
  exact ⟨_, kept.put key value _, rfl⟩

theorem edits_delete (kept : Scope.IsKept R) :
    Edits R chain store (Operation.delete (.mapping chain) key store) := by
  refine (inspects_checkKey key store).bind_cases ?_ fun _ _ => edits_error
  intro _ _
  rw [Render.bind_ok scope_eq]
  cases herase : (store.scope chain).erase? key with
  | none => exact edits_missing
  | some layers => exact ⟨layers, kept.erase herase, rfl⟩

/-- **One method**, but for `update`. -/
theorem edits_ofMapping (kept : Scope.IsKept R) (h : store.Holds chain) {method : Method}
    (hmethod : method ≠ .update) {args : Arguments} :
    Edits R chain store (ofMapping chain method args store) := by
  cases method with
  | get =>
      refine (inspects_keyArguments chain .get store).bind_cases ?_ fun _ _ => edits_error
      intro _ _
      exact edits_nothing kept h
  | pop =>
      refine (inspects_keyArguments chain .pop store).bind_cases ?_ fun _ _ => edits_error
      rintro ⟨key, default⟩ -
      dsimp only
      cases hpop : (store.scope chain).pop? key with
      | some found => exact edits_write (kept.pop? hpop)
      | none =>
          cases default with
          | none => exact edits_missing
          | some value => exact edits_nothing kept h
  | setdefault =>
      refine (inspects_keyArguments chain .setdefault store).bind_cases ?_ fun _ _ => edits_error
      intro _ _
      exact edits_write kept.getOrPut
  | keys | values | items =>
      refine (inspects_noArguments chain _ store).bind_cases ?_ fun _ _ => edits_error
      intro _ _
      exact edits_nothing kept h
  | clear =>
      refine (inspects_noArguments chain .clear store).bind_cases ?_ fun _ _ => edits_error
      intro _ _
      exact edits_write kept.drain
  | popitem =>
      refine (inspects_noArguments chain .popitem store).bind_cases ?_ fun _ _ => edits_error
      intro _ _
      -- A dictionary gives up its last entry, and a scope its first.
      cases chain with
      | nil => exact edits_error
      | cons address outer =>
          cases outer with
          | nil =>
              have hscope : store.scope [address] = [store.dict address] := rfl
              rw [hscope]
              dsimp only
              cases (store.dict address).getLast? with
              | none => exact edits_error
              | some entry => exact edits_write (kept.dropLast _)
          | cons next outer =>
              have hscope : store.scope (address :: next :: outer)
                  = store.dict address :: store.dict next :: store.scope outer := rfl
              rw [hscope]
              dsimp only
              rw [← hscope]
              cases hfirst : (store.scope (address :: next :: outer)).popFirst? with
              | none => exact edits_error
              | some found => exact edits_write (kept.popFirst? hfirst)
  | update => exact absurd rfl hmethod
  | _ => exact edits_nothing kept h

end

/-- Arguments with names as entries. -/
def namedEntries (named : List (Text × Value)) : List (Value × Value) :=
  named.map fun (name, value) => (Value.text name, value)

/-! ### What may have changed -/

/-- What an operation of a mapping does to a store: only dictionaries of the chain have changed, and
only the last of them may have got new keys. -/
structure Moves (chain : Chain) (store rest : Store) : Prop where
  holds : rest.Holds chain
  frame {address : Address} (h : address ∉ chain) : rest.cells[address]? = store.cells[address]?
  confined : Scope.Confines (store.scope chain) (rest.scope chain)

theorem Moves.refl (h : store.Holds chain) : Moves chain store store where
  holds := h
  frame _ := rfl
  confined := .refl

theorem Moves.trans {mid rest : Store} (h : Moves chain store mid) (h' : Moves chain mid rest) :
    Moves chain store rest where
  holds := h'.holds
  frame hout := (h'.frame hout).trans (h.frame hout)
  confined := h.confined.trans h'.confined

/-- `Moves` where it can be said: from a store that holds the chain. -/
def MovesOnly (chain : Chain) (store rest : Store) : Prop :=
  store.Holds chain → Moves chain store rest

instance : Std.Refl (MovesOnly chain) where
  refl _ := Moves.refl

instance : Trans (MovesOnly chain) (MovesOnly chain) (MovesOnly chain) where
  trans h h' holds := (h holds).trans (h' (h holds).holds)

theorem movesOnly_writeScope {layers : Scope Value Value}
    (h : Scope.Confines (store.scope chain) layers) :
    MovesOnly chain store (store.writeScope chain layers) := by
  intro holds
  have hlength : layers.length = chain.length := h.length.trans (List.length_map _)
  refine ⟨holds.writeScope hlength, fun hout => Store.cells_writeScope_of_not_mem hout, ?_⟩
  rwa [Store.scope_writeScope holds hlength]

/-- An edit that is confined to the layers of a scope moves only those. -/
theorem movesOnly_of_edits {result : EStateM.Result Fault Store α}
    (h : Edits Scope.Confines chain store result) : MovesOnly chain store (after result) := by
  cases result with
  | ok a rest =>
      obtain ⟨layers, hlayers, rfl⟩ := h
      exact movesOnly_writeScope hlayers
  | error fault rest =>
      intro holds
      rw [after, show rest = store from h]
      exact .refl holds

theorem movesOnly_of_reads {run : Eval α} {MayFail : Fault → Prop} (h : Obeys Eq MayFail run) :
    Obeys (MovesOnly chain) (fun _ => True) run :=
  h.mono (fun store _ heq => heq ▸ Std.Refl.refl store) fun _ _ => trivial

/-- A check finds that a size has changed, or nothing. -/
theorem obeys_checkSize (address : Address) (size : Nat) :
    Obeys Eq (fun fault => fault.kind = .changed) (Visit.checkSize address size) := by
  refine obeys_bind obeys_get ?_
  intro store
  split
  · split
    · exact obeys_pure ()
    · exact obeys_throw rfl
  · split
    · exact obeys_pure ()
    · exact obeys_throw rfl
  · exact obeys_pure ()

/-- What a visit shows is looked up, and nothing is changed. -/
theorem reads_item? (visit : Visit) : Obeys Eq (fun _ => True) visit.item? := by
  cases visit with
  | check address size =>
      refine obeys_bind ?_ fun _ => obeys_pure _
      exact (obeys_checkSize address size).mono (fun _ _ => id) fun _ _ => trivial
  | item value => exact obeys_pure (some value)
  | entry kind chain key =>
      refine obeys_bind (obeys_bind obeys_get fun _ => obeys_pure _) ?_
      intro layers
      split
      · exact obeys_pure _
      · exact obeys_pure _
      · exact obeys_pure _
      · exact obeys_bind (obeys_ask fun _ _ _ => trivial) fun _ => obeys_throw trivial

/-- An edit of the whole scope, followed by something that moves only its layers. -/
theorem movesOnly_edit {f : Scope Value Value → Scope Value Value} {next : Eval α}
    (h : ∀ scope, Scope.Confines scope (f scope))
    (hnext : Obeys (MovesOnly chain) (fun _ => True) next) :
    Obeys (MovesOnly chain) (fun _ => True)
      (do Eval.writeScope chain (f (← Eval.scope chain)); next) := by
  intro store
  have first : MovesOnly chain store (store.writeScope chain (f (store.scope chain))) :=
    movesOnly_writeScope (h _)
  have then_ := hnext (store.writeScope chain (f (store.scope chain)))
  exact ⟨Trans.trans first then_.1, then_.2⟩

theorem movesOnly_putVisited {place : Nat} {visits : List Visit} :
    Obeys (MovesOnly chain) (fun _ => True) (putVisited chain place visits) := by
  induction visits generalizing place with
  | nil => exact obeys_pure ()
  | cons visit rest ih =>
      refine obeys_bind (movesOnly_of_reads (reads_item? visit)) ?_
      intro item
      cases item with
      | none => exact ih
      | some item =>
          refine obeys_bind (movesOnly_of_reads (inspects_entryOf chain item place)) ?_
          rintro ⟨key, value⟩
          refine obeys_bind (movesOnly_of_reads (inspects_checkKey key)) fun _ => ?_
          exact movesOnly_edit (fun _ => Scope.confines_put) ih

/-- Writing the stretches of a loop moves only the layers of the scope written to, even when the
scope gone through is another one. -/
theorem movesOnly_putStretches {stretches : List Stretch} :
    Obeys (MovesOnly chain) (fun _ => True) (putStretches chain stretches) := by
  induction stretches with
  | nil => exact obeys_pure ()
  | cons stretch rest ih =>
      refine obeys_bind obeys_get fun store => ?_
      exact obeys_bind movesOnly_putVisited fun _ => ih

theorem movesOnly_putEntries {given : Value} :
    Obeys (MovesOnly chain) (fun _ => True) (putEntries chain given) := by
  unfold putEntries
  split
  · refine obeys_bind (movesOnly_of_reads (inspects_scope _)) ?_
    intro layers store
    exact ⟨movesOnly_writeScope Scope.isKept_confines.putAll, fun _ _ _ => trivial⟩
  · refine obeys_bind obeys_get ?_
    intro store
    split
    · exact movesOnly_putStretches
    · exact obeys_throw trivial

theorem movesOnly_update {args : Arguments} :
    Obeys (MovesOnly chain) (fun _ => True) (ofMapping chain .update args) := by
  refine obeys_bind (movesOnly_of_reads (inspects_scope _)) ?_
  intro layers
  have named : Obeys (MovesOnly chain) (fun _ => True) (do
      Eval.writeScope chain ((← Eval.scope chain).putAll (namedEntries args.named))
      return Value.none) :=
    movesOnly_edit (fun _ => Scope.isKept_confines.putAll) (obeys_pure _)
  dsimp only
  split
  · exact named
  · exact obeys_bind movesOnly_putEntries fun _ => named
  · exact obeys_bind (obeys_throw trivial) fun _ => named
  · exact obeys_bind (obeys_throw trivial) fun _ => named

end Stencil.Script
