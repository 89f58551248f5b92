import Stencil.Proofs.Render.Equivalent

/-!
# Two-way conditionals

A conditional with several branches may be split behind any of them: the others become a conditional
of their own, which is the other body of what is left (`equivalent_split`). Split behind every
branch it is a nest of conditionals with one branch each (`equivalent_nest`).

`Node.twoWay` splits all conditionals of a tree in this way, those in the bodies of loops, switches
and other conditionals included, and the tree it makes is equivalent (`equivalent_twoWayList`).
-/

namespace Stencil.Node

/-- Branches as the other body of a conditional. Each is the only branch of a conditional whose
other body holds the branches behind it. -/
def nest (otherwise : Option (List Node)) : List (Text × List Node) → Option (List Node)
  | [] => otherwise
  | branch :: rest => some [conditional [branch] (nest otherwise rest)]

/-- Branches and another body as a nest of conditionals. -/
def nested (otherwise : Option (List Node)) : List (Text × List Node) → Node
  | [] => conditional [] otherwise
  | first :: rest => conditional [first] (nest otherwise rest)

variable {branches : List (Text × List Node)} {otherwise : Option (List Node)}

section

variable {State Scope Value Failure : Type} (e : Evaluator State Scope Value Failure)

/-- The branches are tried in the order in which they are nested. -/
theorem renderOption_nest (otherwise : Option (List Node)) (branches : List (Text × List Node)) :
    renderOption e (nest otherwise branches)
      = Render.choose e (renderOption e otherwise) (renderBranches e branches) := by
  induction branches with
  | nil => rfl
  | cons branch rest ih =>
      obtain ⟨condition, body⟩ := branch
      have hnest : renderOption e (nest otherwise ((condition, body) :: rest))
          = Render.choose e (renderOption e (nest otherwise rest))
              (renderBranches e [(condition, body)]) :=
        renderList_singleton _
      rw [hnest, ih]
      rfl

end

/-- **A conditional is a nest of conditionals** with one branch each. -/
theorem equivalent_nest (otherwise : Option (List Node)) (branches : List (Text × List Node)) :
    Equivalent [conditional branches otherwise] [nested otherwise branches] := by
  cases branches with
  | nil => exact .refl _
  | cons first rest =>
      refine equivalent_of_render fun e => ?_
      rw [nested, render, render, renderOption_nest]
      rfl

/-- **A conditional may be split behind its first branch.** -/
theorem equivalent_split (first : Text × List Node) (otherwise : Option (List Node))
    (branches : List (Text × List Node)) :
    Equivalent [conditional (first :: branches) otherwise]
      [conditional [first] (some [conditional branches otherwise])] := by
  refine equivalent_of_render fun e => ?_
  have hsplit : renderOption e (some [conditional branches otherwise])
      = Render.choose e (renderOption e otherwise) (renderBranches e branches) :=
    renderList_singleton _
  rw [render, render, hsplit]
  rfl

/-! ### All conditionals of a tree -/

mutual

/-- The node with all conditionals nested that it is made of. -/
def twoWay : Node → Node
  | text content => text content
  | expression source => expression source
  | conditional branches otherwise => nested (twoWayOption otherwise) (twoWayBranches branches)
  | iteration header body => iteration header (twoWayList body)
  | switch subject cases otherwise =>
      switch subject (twoWayBranches cases) (twoWayOption otherwise)
  | foreign typeName => foreign typeName

/-- A tree with all its conditionals nested. -/
def twoWayList : List Node → List Node
  | [] => []
  | node :: rest => twoWay node :: twoWayList rest

/-- Branches with all conditionals in their bodies nested. -/
def twoWayBranches : List (Text × List Node) → List (Text × List Node)
  | [] => []
  | (source, body) :: rest => (source, twoWayList body) :: twoWayBranches rest

/-- A body that may be missing, with all its conditionals nested. -/
def twoWayOption : Option (List Node) → Option (List Node)
  | none => none
  | some body => some (twoWayList body)

end

mutual

theorem equivalent_twoWay : ∀ node, Equivalent [node] [twoWay node]
  | text _ | expression _ | foreign _ => .refl _
  | conditional branches otherwise =>
      have bodies := equivalent_conditional (areEquivalent_twoWay branches)
        (equivalent_twoWayOption otherwise)
      bodies.trans (equivalent_nest _ _)
  | iteration header body => equivalent_iteration header (equivalent_twoWayList body)
  | switch subject cases otherwise =>
      equivalent_switch subject (areEquivalent_twoWay cases) (equivalent_twoWayOption otherwise)

/-- **Every tree is equivalent to one with two-way conditionals.** -/
theorem equivalent_twoWayList : ∀ nodes, Equivalent nodes (twoWayList nodes)
  | [] => .refl _
  | node :: rest => (equivalent_twoWay node).append (equivalent_twoWayList rest)

theorem areEquivalent_twoWay : ∀ branches, AreEquivalent branches (twoWayBranches branches)
  | [] => .nil
  | (_, body) :: rest => .cons ⟨rfl, equivalent_twoWayList body⟩ (areEquivalent_twoWay rest)

theorem equivalent_twoWayOption :
    ∀ otherwise, Option.Rel Equivalent otherwise (twoWayOption otherwise)
  | none => .none
  | some body => .some (equivalent_twoWayList body)

end

end Stencil.Node
