import Stencil.Node.Basic

/-!
# Trees read in order

`Node.preorder` lists a node and all nodes under it as they stand in the template: the branches of
a block in order, and then its other body. `Node.leaves` are those among them without bodies. The
literal text of a tree is that of its leaves (`literalsOfList_eq`).
-/

namespace Stencil.Node

mutual

/-- A node and all nodes under it, in the order of the template. -/
def preorder : Node → List Node
  | text content => [text content]
  | expression source => [expression source]
  | conditional branches otherwise =>
      conditional branches otherwise :: (preorderOfBranches branches ++ preorderOfOption otherwise)
  | iteration header body => iteration header body :: preorderOfList body
  | switch subject cases otherwise =>
      switch subject cases otherwise :: (preorderOfBranches cases ++ preorderOfOption otherwise)
  | foreign typeName => [foreign typeName]

/-- All nodes of a tree, in the order of the template. -/
def preorderOfList : List Node → List Node
  | [] => []
  | node :: rest => preorder node ++ preorderOfList rest

/-- All nodes in the bodies of branches. -/
def preorderOfBranches : List (Text × List Node) → List Node
  | [] => []
  | (_, body) :: rest => preorderOfList body ++ preorderOfBranches rest

/-- All nodes of a body that may be missing. -/
def preorderOfOption : Option (List Node) → List Node
  | none => []
  | some body => preorderOfList body

end

/-- A node that has no bodies. -/
def isLeaf : Node → Bool
  | text _ | expression _ | foreign _ => true
  | conditional .. | iteration .. | switch .. => false

/-- The leaves of a tree, read depth first. -/
def leaves (nodes : List Node) : List Node :=
  (preorderOfList nodes).filter isLeaf

variable {nodes others : List Node} {branches : List (Text × List Node)}
variable {otherwise : Option (List Node)} {node : Node}

/-! ### All nodes -/

theorem preorderOfList_append :
    preorderOfList (nodes ++ others) = preorderOfList nodes ++ preorderOfList others := by
  induction nodes with
  | nil => rfl
  | cons node rest ih => simp only [List.cons_append, preorderOfList, ih, List.append_assoc]

theorem preorderOfList_singleton : preorderOfList [node] = preorder node := by
  simp only [preorderOfList, List.append_nil]

/-- The preorder of branches is that of their bodies, one after another. -/
theorem preorderOfBranches_eq :
    preorderOfBranches branches = branches.flatMap fun branch => preorderOfList branch.2 := by
  induction branches with
  | nil => rfl
  | cons branch rest ih => rw [List.flatMap_cons, ← ih, preorderOfBranches]

theorem preorderOfOption_eq :
    preorderOfOption otherwise = otherwise.toList.flatMap preorderOfList := by
  cases otherwise with
  | none => rfl
  | some body => rw [Option.toList_some, List.flatMap_singleton, preorderOfOption]

/-! ### Leaves -/

theorem leaves_append : leaves (nodes ++ others) = leaves nodes ++ leaves others := by
  rw [leaves, preorderOfList_append, List.filter_append, leaves, leaves]

/-- The leaves of a node with these branches and this other body. -/
theorem filter_isLeaf_bodies :
    (preorderOfBranches branches ++ preorderOfOption otherwise).filter isLeaf
      = (branches.flatMap fun branch => leaves branch.2) ++ otherwise.toList.flatMap leaves := by
  rw [preorderOfBranches_eq, preorderOfOption_eq, List.filter_append, List.filter_flatMap,
    List.filter_flatMap]
  rfl

/-- The leaves of a conditional are those of its branches and then of its last one, in the order in
which they were written. -/
theorem leaves_conditional :
    leaves [conditional branches otherwise]
      = (branches.flatMap fun branch => leaves branch.2) ++ otherwise.toList.flatMap leaves := by
  rw [leaves, preorderOfList_singleton, preorder, List.filter_cons_of_neg (by simp [isLeaf]),
    filter_isLeaf_bodies]

theorem leaves_switch {subject : Text} :
    leaves [switch subject branches otherwise]
      = (branches.flatMap fun branch => leaves branch.2) ++ otherwise.toList.flatMap leaves := by
  rw [leaves, preorderOfList_singleton, preorder, List.filter_cons_of_neg (by simp [isLeaf]),
    filter_isLeaf_bodies]

/-- A loop has no leaf of its own. -/
theorem leaves_iteration {header : LoopHeader} : leaves [iteration header nodes] = leaves nodes := by
  rw [leaves, preorderOfList_singleton, preorder, List.filter_cons_of_neg (by simp [isLeaf]),
    leaves]

/-! ### Literal text -/

mutual

/-- The texts of a tree are those of its leaves. The induction is on the tree, and the three lemmas
below go along with it. -/
theorem literals_eq (node : Node) :
    literals node = ((preorder node).filter isLeaf).flatMap literals := by
  cases node with
  | text content => simp [literals, preorder, isLeaf, List.filter_cons]
  | expression source => simp [literals, preorder, isLeaf, List.filter_cons]
  | conditional branches otherwise =>
      simp only [literals, preorder, isLeaf, Bool.false_eq_true, not_false_eq_true,
        List.filter_cons_of_neg, List.filter_append, List.flatMap_append,
        literalsOfBranches_eq branches, literalsOfOption_eq otherwise]
  | iteration header body =>
      simp only [literals, preorder, isLeaf, Bool.false_eq_true, not_false_eq_true,
        List.filter_cons_of_neg, literalsOfList_eq body, leaves]
  | switch subject cases otherwise =>
      simp only [literals, preorder, isLeaf, Bool.false_eq_true, not_false_eq_true,
        List.filter_cons_of_neg, List.filter_append, List.flatMap_append,
        literalsOfBranches_eq cases, literalsOfOption_eq otherwise]
  | foreign typeName => simp [literals, preorder, isLeaf, List.filter_cons]

/-- The literal text of a tree is the literal text of its leaves. -/
theorem literalsOfList_eq (nodes : List Node) :
    literalsOfList nodes = (leaves nodes).flatMap literals := by
  cases nodes with
  | nil => rfl
  | cons node rest =>
      rw [literalsOfList, leaves, preorderOfList, List.filter_append, List.flatMap_append,
        literals_eq node, literalsOfList_eq rest, leaves]

theorem literalsOfBranches_eq (branches : List (Text × List Node)) :
    literalsOfBranches branches
      = ((preorderOfBranches branches).filter isLeaf).flatMap literals := by
  cases branches with
  | nil => rfl
  | cons branch rest =>
      obtain ⟨source, body⟩ := branch
      rw [literalsOfBranches, preorderOfBranches, List.filter_append, List.flatMap_append,
        literalsOfList_eq body, literalsOfBranches_eq rest, leaves]

theorem literalsOfOption_eq (otherwise : Option (List Node)) :
    literalsOfOption otherwise
      = ((preorderOfOption otherwise).filter isLeaf).flatMap literals := by
  cases otherwise with
  | none => rfl
  | some body => rw [literalsOfOption, preorderOfOption, literalsOfList_eq body, leaves]

end

end Stencil.Node
