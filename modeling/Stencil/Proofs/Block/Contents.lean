import Stencil.Proofs.Block.Build
import Stencil.Proofs.Block.Induction
import Stencil.Proofs.Node

/-!
# What an assembly keeps

Assembling moves tokens about: a body waits for the first branch of a `switch`, branches are put
aside when they are finished, and the other body is assembled before them. None of this loses,
doubles or reorders a text or an expression, whatever the keywords are, alike or not.

A block holds what it has collected (`Collects.contents`), its parts are all that it holds
(`Collects.flatMap_parts`), and the node that is built has the leaves of its parts
(`leaves_build`). The rest is induction along the assembly (`leaves_of_assemble`).
-/

namespace Stencil

/-- The leaf that a text or an expression becomes. Statements become none. -/
def Token.leaf? (token : Token) : Option Node :=
  match token.kind with
  | .text => some (.text token.value)
  | .expression => some (.expression (Script.prepare token.value))
  | .statement _ => none

/-- A keyword leaves nothing in the tree. -/
theorem Token.leaf?_of_spells {keywords : Keywords} {token : Token} {keyword : Keyword}
    (h : token.Spells keywords keyword) : token.leaf? = none := by
  have kind : token.kind = .statement (keywords.spelling keyword) := h
  rw [Token.leaf?, kind]

namespace OpenBlock

variable {keywords : Keywords} {block : OpenBlock} {tokens : List Token}
variable {assemble : List Token → Except StatementError (List Node)} {node : Node}

/-- The tokens in the bodies of a block. -/
def held (block : OpenBlock) : List Token :=
  block.branches.flatMap (·.2) ++ block.body

theorem held_enterBranch {token : Token} : (block.enterBranch token).held = block.held := by
  unfold enterBranch finishBranch held
  cases block.branch <;> simp

theorem held_inBranch {token : Token} {inner : List Token} {depth : Nat} :
    (block.inBranch token inner depth).held = block.held ++ inner := by
  have henter : (block.enterBranch token).held = block.held := held_enterBranch
  rw [← henter]
  exact (List.append_assoc ..).symm

/-- A block holds all texts and expressions that it has collected. -/
theorem Collects.contents (h : Collects keywords block tokens) :
    tokens.filterMap Token.leaf? = block.held.filterMap Token.leaf? := by
  induction h with
  | @leading family opener lead depth opens inside =>
      rw [List.filterMap_cons_none (Token.leaf?_of_spells opens)]
      rfl
  | @inBranch block tokens token inner role depth before outer open_ begins isBranch inside ih =>
      obtain ⟨keyword, -, -, spells⟩ := begins
      rw [held_inBranch, List.filterMap_append, List.filterMap_append, ih,
        List.filterMap_cons_none (Token.leaf?_of_spells spells)]

/-- A conditional always has a current branch. -/
theorem Collects.exists_branch (h : Collects keywords block tokens)
    (hfamily : block.family = .conditional) : ∃ token, block.branch = some token := by
  cases h with
  | @leading family opener lead depth opens inside =>
      exact ⟨opener, if_pos hfamily⟩
  | inBranch before outer open_ begins isBranch inside => exact ⟨_, rfl⟩

/-- A loop never has branches. -/
theorem Collects.branches_eq_nil (h : Collects keywords block tokens)
    (hfamily : block.family = .iteration) : block.branches = [] := by
  cases h with
  | leading opens inside => rfl
  | inBranch before outer open_ begins isBranch inside =>
      rw [family_inBranch] at hfamily
      rw [hfamily] at begins
      exact absurd begins (Token.not_begins_iteration isBranch)

/-- Finishing a branch moves its tokens from the body to the branches, and the order stays. -/
theorem flatMap_finishBranch {token : Token} (h : block.branch = some token) :
    block.finishBranch.branches.flatMap (·.2) = block.held := by
  simp [finishBranch, h, held]

/-- The parts of a block are all that it holds, in order. -/
theorem Collects.flatMap_parts (h : Collects keywords block tokens) :
    (block.parts keywords).1.flatMap (·.2) ++ (block.parts keywords).2.toList.flatten
      = block.held := by
  -- What makes the split safe: a conditional always has a current branch, and a loop none at all.
  cases hfamily : block.family with
  | conditional =>
      obtain ⟨token, hbranch⟩ := h.exists_branch hfamily
      unfold parts
      rw [hfamily]
      dsimp only
      split
      · simp [held]
      · simpa using flatMap_finishBranch hbranch
  | iteration =>
      unfold parts
      rw [hfamily]
      simp [held, h.branches_eq_nil hfamily]
  | switch =>
      unfold parts
      rw [hfamily]
      dsimp only
      split
      · rename_i inCase
        cases hbranch : block.branch with
        | none => simp [isInBranch, hbranch] at inCase
        | some token => simpa using flatMap_finishBranch hbranch
      · simp [held]

/-- The bodies of a block, in order. -/
def bodies (keywords : Keywords) (block : OpenBlock) : List (List Token) :=
  (block.parts keywords).1.map (·.2) ++ (block.parts keywords).2.toList

/-- Nothing gets lost when a block is divided: its bodies, one after another, are what it held.
Subtrees are read in another order, which matters for errors only. -/
theorem Collects.flatten_bodies (h : Collects keywords block tokens) :
    (block.bodies keywords).flatten = block.held := by
  rw [bodies, List.flatten_append, ← h.flatMap_parts, List.flatMap_def]

/-- The bodies of a block are among what it has kept. -/
theorem Collects.length_le_kept (h : Collects keywords block tokens) {body : List Token}
    (hbody : body ∈ block.bodies keywords) : body.length ≤ block.kept := by
  have hkept : block.kept = (block.bodies keywords).flatten.length := by
    rw [h.flatten_bodies]
    rfl
  rw [hkept]
  exact (List.sublist_flatten_of_mem hbody).length_le

/-! ### Trees with the leaves of their tokens -/

/-- The leaves of the tree are what the texts and expressions become, in their order. -/
def HasContents (tokens : List Token) (nodes : List Node) : Prop :=
  Node.leaves nodes = tokens.filterMap Token.leaf?

/-- The leaves of the branches are those of their tokens, one branch after another. -/
theorem flatMap_branches {branches : List (Token × List Token)} {trees : List (Text × List Node)}
    (h : List.Forall₂ (Becomes assemble) branches trees)
    (hbodies : ∀ body ∈ branches.map (·.2), ∀ nodes, assemble body = .ok nodes →
      HasContents body nodes) :
    (trees.flatMap fun tree => Node.leaves tree.2)
      = (branches.flatMap (·.2)).filterMap Token.leaf? := by
  induction h with
  | nil => rfl
  | @cons branch tree branches trees head _ ih =>
      rw [List.map_cons, List.forall_mem_cons] at hbodies
      rw [List.flatMap_cons, List.flatMap_cons, List.filterMap_append, ih hbodies.2,
        hbodies.1 _ head.2]

theorem flatMap_last {last : Option (List Token)} {otherwise : Option (List Node)}
    (h : last.mapM assemble = .ok otherwise)
    (hbodies : ∀ body ∈ last.toList, ∀ nodes, assemble body = .ok nodes →
      HasContents body nodes) :
    otherwise.toList.flatMap Node.leaves = last.toList.flatten.filterMap Token.leaf? := by
  cases last with
  | none =>
      cases h
      rfl
  | some body =>
      obtain ⟨tree, htree, rfl⟩ := map_eq_ok_iff.1 h
      have hbody : Node.leaves tree = _ := hbodies body (by simp) tree htree
      simpa using hbody

/-- A built node has the leaves of the bodies of its block. -/
theorem Collects.hasContents_build (h : Collects keywords block tokens)
    (hbuild : block.build keywords assemble = .ok node)
    (hbodies : ∀ body ∈ block.bodies keywords, ∀ nodes, assemble body = .ok nodes →
      HasContents body nodes) :
    HasContents block.held [node] := by
  rw [bodies, List.forall_mem_append] at hbodies
  obtain ⟨hbranches, hlast⟩ := hbodies
  rw [HasContents, ← h.flatMap_parts, List.filterMap_append]
  obtain ⟨branches, last, hparts⟩ : ∃ branches last, block.parts keywords = (branches, last) :=
    ⟨_, _, rfl⟩
  rw [hparts] at hbranches hlast ⊢
  cases hfamily : block.family with
  | conditional =>
      obtain ⟨otherwise, trees, hotherwise, htrees, rfl⟩ :=
        (build_conditional hfamily hparts).1 hbuild
      rw [Node.leaves_conditional, flatMap_branches htrees hbranches, flatMap_last hotherwise hlast]
  | iteration =>
      obtain ⟨header, tree, -, htree, rfl⟩ := (build_iteration hfamily).1 hbuild
      obtain ⟨rfl, rfl⟩ : branches = [] ∧ last = some block.body := by
        rw [parts, hfamily, Prod.mk.injEq] at hparts
        exact ⟨hparts.1.symm, hparts.2.symm⟩
      have hbody : Node.leaves tree = _ := hlast block.body (by simp) tree htree
      simpa [Node.leaves_iteration] using hbody
  | switch =>
      obtain ⟨otherwise, trees, hotherwise, htrees, rfl⟩ := (build_switch hfamily hparts).1 hbuild
      rw [Node.leaves_switch, flatMap_branches htrees hbranches, flatMap_last hotherwise hlast]

end OpenBlock

/-! ### Assembled trees -/

variable {keywords : Keywords}

/-- Contents are put together as lists of tokens and trees are, so they hold of all that assembles.
-/
theorem isCompositional_hasContents : IsCompositional keywords OpenBlock.HasContents where
  nil := rfl
  append first second := by
    rw [OpenBlock.HasContents, Node.leaves_append, List.filterMap_append, first, second]
  text kind := by
    rw [OpenBlock.HasContents, List.filterMap_cons_some (by rw [Token.leaf?, kind])]
    rfl
  expression kind := by
    rw [OpenBlock.HasContents, List.filterMap_cons_some (by rw [Token.leaf?, kind])]
    rfl
  block {block tokens closer node} collects outer closes built bodies := by
    have hbuilt := collects.hasContents_build built fun body hbody nodes =>
      bodies body nodes (collects.length_le_kept hbody)
    -- The closing itself becomes no leaf.
    rw [OpenBlock.HasContents, List.filterMap_append, collects.contents,
      List.filterMap_cons_none (Token.leaf?_of_spells closes), List.filterMap_nil, List.append_nil]
    exact hbuilt

/-- The literal text of the leaves of a list of tokens is the text of its texts. -/
theorem flatMap_literals_leaf? (tokens : List Token) :
    (tokens.filterMap Token.leaf?).flatMap Node.literals
      = (tokens.filter fun token => token.kind = .text).flatMap (·.value) := by
  induction tokens with
  | nil => rfl
  | cons token rest ih =>
      cases kind : token.kind with
      | text => simp [Token.leaf?, kind, Node.literals, ih]
      | expression => simp [Token.leaf?, kind, Node.literals, ih]
      | statement name => simp [Token.leaf?, kind, ih]

/-! ### Nodes of an assembled tree -/

namespace OpenBlock

variable {block : OpenBlock} {assemble : List Token → Except StatementError (List Node)}
variable {node other : Node}

/-- What lies under a conditional or a `switch` lies in the tree of one of its bodies. -/
theorem exists_of_mem_bodies {trees : List (Text × List Node)} {otherwise : Option (List Node)}
    (htrees : List.Forall₂ (Becomes assemble) (block.parts keywords).1 trees)
    (hotherwise : (block.parts keywords).2.mapM assemble = .ok otherwise)
    (h : other ∈ Node.preorderOfBranches trees ++ Node.preorderOfOption otherwise) :
    ∃ body ∈ block.bodies keywords, ∃ tree, assemble body = .ok tree
      ∧ other ∈ Node.preorderOfList tree := by
  rw [Node.preorderOfBranches_eq, Node.preorderOfOption_eq, List.mem_append] at h
  rcases h with h | h
  · obtain ⟨tree, htree, hother⟩ := List.mem_flatMap.1 h
    obtain ⟨part, hpart, hbecomes⟩ := exists_of_mem_forall₂ htrees htree
    exact ⟨part.2, List.mem_append_left _ (List.mem_map_of_mem hpart), tree.2, hbecomes.2, hother⟩
  · obtain ⟨tree, htree, hother⟩ := List.mem_flatMap.1 h
    cases hlast : (block.parts keywords).2 with
    | none =>
        rw [hlast] at hotherwise
        cases hotherwise
        cases htree
    | some body =>
        rw [hlast] at hotherwise
        obtain ⟨found, hfound, rfl⟩ := map_eq_ok_iff.1 hotherwise
        obtain rfl : tree = found := by simpa using htree
        exact ⟨body, List.mem_append_right _ (by simp [hlast]), tree, hfound, hother⟩

/-- What lies under a built node is the node itself or lies in the tree of one of its bodies. -/
theorem exists_of_mem_build (hbuild : block.build keywords assemble = .ok node)
    (h : other ∈ Node.preorder node) :
    other = node ∨ ∃ body ∈ block.bodies keywords, ∃ tree, assemble body = .ok tree
      ∧ other ∈ Node.preorderOfList tree := by
  cases hfamily : block.family with
  | conditional =>
      obtain ⟨otherwise, trees, hotherwise, htrees, rfl⟩ := (build_conditional hfamily rfl).1 hbuild
      rw [Node.preorder, List.mem_cons] at h
      exact h.imp id (exists_of_mem_bodies htrees hotherwise)
  | iteration =>
      obtain ⟨header, tree, -, htree, rfl⟩ := (build_iteration hfamily).1 hbuild
      have hbody : block.body ∈ block.bodies keywords := by simp [bodies, parts, hfamily]
      rw [Node.preorder, List.mem_cons] at h
      exact h.imp id fun h => ⟨block.body, hbody, tree, htree, h⟩
  | switch =>
      obtain ⟨otherwise, trees, hotherwise, htrees, rfl⟩ := (build_switch hfamily rfl).1 hbuild
      rw [Node.preorder, List.mem_cons] at h
      exact h.imp id (exists_of_mem_bodies htrees hotherwise)

end OpenBlock

/-- What holds of leaves and of every node that is built holds of all nodes of an assembled tree. -/
theorem forall_mem_preorder {P : Node → Prop} (text : ∀ content, P (.text content))
    (expression : ∀ source, P (.expression source))
    (built : ∀ block tokens node, OpenBlock.Collects keywords block tokens →
      block.build keywords (assemble keywords) = .ok node → P node)
    {tokens : List Token} {nodes : List Node} (h : assemble keywords tokens = .ok nodes) :
    ∀ node ∈ Node.preorderOfList nodes, P node := by
  have pieces : IsCompositional keywords fun _ nodes => ∀ node ∈ Node.preorderOfList nodes, P node :=
    { nil := List.forall_mem_nil _
      append := by
        intro _ _ _ _ first second
        rw [Node.preorderOfList_append, List.forall_mem_append]
        exact ⟨first, second⟩
      text := by
        intro token _
        rw [Node.preorderOfList_singleton, Node.preorder, List.forall_mem_singleton]
        exact text _
      expression := by
        intro token _
        rw [Node.preorderOfList_singleton, Node.preorder, List.forall_mem_singleton]
        exact expression _
      block := by
        intro block tokens closer node collects _ _ hbuild hbodies other hother
        rw [Node.preorderOfList_singleton] at hother
        -- A node under the new one is in the tree of a body, where the statement already holds.
        rcases OpenBlock.exists_of_mem_build hbuild hother with rfl | ⟨body, hbody, tree, htree, h⟩
        · exact built block tokens other collects hbuild
        · exact hbodies body tree (collects.length_le_kept hbody) htree other h }
  exact assemble_induction pieces h

/-! ### Leaves of an assembled tree -/

/-- **Assembling loses, doubles and reorders nothing.** Read depth first, the leaves of the tree are
the texts and the expressions of the tokens, and its literal text is that of the texts. -/
theorem leaves_of_assemble {tokens : List Token} {nodes : List Node}
    (h : assemble keywords tokens = .ok nodes) :
    Node.leaves nodes = tokens.filterMap Token.leaf?
      ∧ Node.literalsOfList nodes
          = (tokens.filter fun token => token.kind = .text).flatMap (·.value) := by
  have hleaves : OpenBlock.HasContents tokens nodes :=
    assemble_induction isCompositional_hasContents h
  refine ⟨hleaves, ?_⟩
  rw [Node.literalsOfList_eq, show Node.leaves nodes = _ from hleaves, flatMap_literals_leaf?]

/-- A `switch` whose `case` and `default` are spelled alike, with a text in front of its branch. -/
theorem leaves_of_assemble_alike :
    let keywords : Keywords :=
      { spelling := fun keyword => if keyword = .default then Keyword.case.label else keyword.label }
    let tokens : List Token :=
      [⟨.text, ['a'], {}⟩, ⟨.statement Keyword.switch.label, ['x'], {}⟩, ⟨.text, ['b'], {}⟩,
        ⟨.statement Keyword.case.label, ['1'], {}⟩, ⟨.expression, ['y'], {}⟩,
        ⟨.statement Keyword.endswitch.label, [], {}⟩, ⟨.text, ['c'], {}⟩]
    let nodes : List Node :=
      [.text ['a'],
        .switch (Script.prepare ['x'])
          [(Script.prepare ['1'], [.text ['b'], .expression (Script.prepare ['y'])])] none,
        .text ['c']]
    assemble keywords tokens = .ok nodes
      ∧ Node.leaves nodes
          = [.text ['a'], .text ['b'], .expression (Script.prepare ['y']), .text ['c']]
      ∧ Node.literalsOfList nodes = ['a', 'b', 'c'] := by
  intro keywords tokens nodes
  have h : assemble keywords tokens = .ok nodes := rfl
  exact ⟨h, leaves_of_assemble h⟩

end Stencil
