import Stencil.Proofs.Render.Append

/-!
# Equivalent trees

Two trees are equivalent when no evaluator can tell them apart. A tree may be replaced by an
equivalent one wherever it stands: among other nodes (`Equivalent.append`), and as a body of a block
(`equivalent_conditional`, `equivalent_iteration`, `equivalent_switch`), because a block is rendered
from the renders of its bodies.
-/

namespace Stencil.Node

/-- Every evaluator renders the trees alike, in every scope and from every state: to the same text or
with the same error, and the state at the end is the same. The evaluator may keep a record in its
state (`Evaluator.recorded`), so the same sources are evaluated in the same order. -/
structure Equivalent (nodes others : List Node) : Prop where
  renderList_eq {State Scope Value Failure : Type} (e : Evaluator State Scope Value Failure) :
    renderList e nodes = renderList e others

variable {nodes others more rest : List Node} {node other : Node}
variable {branches branches' : List (Text × List Node)} {otherwise otherwise' : Option (List Node)}

theorem Equivalent.refl (nodes : List Node) : Equivalent nodes nodes :=
  ⟨fun _ => rfl⟩

theorem Equivalent.trans (h : Equivalent nodes others) (h' : Equivalent others more) :
    Equivalent nodes more :=
  ⟨fun e => (h.renderList_eq e).trans (h'.renderList_eq e)⟩

theorem Equivalent.append (h : Equivalent nodes others) (h' : Equivalent more rest) :
    Equivalent (nodes ++ more) (others ++ rest) := by
  refine ⟨fun e => ?_⟩
  funext scope state
  rw [renderList_append, renderList_append, renderBoth, renderBoth, h.renderList_eq,
    h'.renderList_eq]

/-- Nodes that every evaluator renders alike are equivalent. -/
theorem equivalent_of_render
    (h : ∀ {State Scope Value Failure : Type} (e : Evaluator State Scope Value Failure),
      render e node = render e other) : Equivalent [node] [other] :=
  ⟨fun e => by rw [renderList_singleton, renderList_singleton, h e]⟩

/-! ### Blocks with equivalent bodies -/

/-- The branches have the same sources and equivalent bodies. -/
def AreEquivalent (branches branches' : List (Text × List Node)) : Prop :=
  List.Forall₂ (fun branch branch' => branch.1 = branch'.1 ∧ Equivalent branch.2 branch'.2)
    branches branches'

section

variable {State Scope Value Failure : Type} (e : Evaluator State Scope Value Failure)

theorem renderBranches_congr (h : AreEquivalent branches branches') :
    renderBranches e branches = renderBranches e branches' := by
  induction h with
  | nil => rfl
  | @cons branch branch' _ _ head _ ih =>
      obtain ⟨source, body⟩ := branch
      obtain ⟨source', body'⟩ := branch'
      obtain ⟨rfl, hbody⟩ := head
      rw [renderBranches, renderBranches, hbody.renderList_eq, ih]

theorem renderOption_congr (h : Option.Rel Equivalent otherwise otherwise') :
    renderOption e otherwise = renderOption e otherwise' := by
  cases h with
  | none => rfl
  | some hbody => exact hbody.renderList_eq e

end

/-- Bodies inside of a conditional may be replaced, one by one. The sources of its branches stay. -/
theorem equivalent_conditional (h : AreEquivalent branches branches')
    (h' : Option.Rel Equivalent otherwise otherwise') :
    Equivalent [conditional branches otherwise] [conditional branches' otherwise'] :=
  equivalent_of_render fun e => by
    rw [render, render, renderBranches_congr e h, renderOption_congr e h']

theorem equivalent_switch (subject : Text) (h : AreEquivalent branches branches')
    (h' : Option.Rel Equivalent otherwise otherwise') :
    Equivalent [switch subject branches otherwise] [switch subject branches' otherwise'] :=
  equivalent_of_render fun e => by
    rw [render, render, renderBranches_congr e h, renderOption_congr e h']

theorem equivalent_iteration (header : LoopHeader) (h : Equivalent nodes others) :
    Equivalent [iteration header nodes] [iteration header others] :=
  equivalent_of_render fun e => by rw [render, render, h.renderList_eq]

end Stencil.Node
