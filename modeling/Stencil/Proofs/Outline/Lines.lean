import Stencil.Node.Outline
import Stencil.Proofs.Node
import Stencil.Proofs.Script.Quoted
import Stencil.Proofs.Text.Class
import Stencil.Proofs.TrimLines

/-!
# Lines of outlines

Every line of an outline is an indentation and a *heading*, which begins with a visible character
and holds no line end, whatever texts and sources it quotes (`Node.IsHeading`). So the lines of an
outline are those that `Node.outlineOfList` gives (`Node.lines_outlineText`), a further level only
sets them in (`Node.outlineOfList_add`), and there is one for each node and for each body with a line
of its own (`Node.length_outlineOfList`).
-/

namespace Stencil

/-! ### Joined lines -/

namespace Text

variable {line s t : Text} {c : Char}

/-- What has no line end in it goes to the line that is being read. -/
theorem linesAfter_append (h : ∀ c ∈ s, ¬isLineEnd c) :
    linesAfter line (s ++ t) = linesAfter (s.reverse ++ line) t := by
  induction s generalizing line with
  | nil => rfl
  | cons c s ih =>
      obtain ⟨inside, hs⟩ := List.forall_mem_cons.1 h
      rw [List.cons_append, linesAfter_cons_of_not_isLineEnd inside, ih hs, List.reverse_cons,
        List.append_assoc]
      rfl

/-- Lines that are not empty and hold no line end are found again in the text that they make. -/
theorem lines_join {ls : List Text} (h : ∀ line ∈ ls, line ≠ [] ∧ ∀ c ∈ line, ¬isLineEnd c) :
    lines (join ['\n'] ls) = ls := by
  induction ls with
  | nil => rfl
  | cons first more ih =>
      obtain ⟨⟨nonempty, inside⟩, hmore⟩ := List.forall_mem_cons.1 h
      cases more with
      | nil =>
          have hlast : linesAfter [] (first ++ []) = linesAfter (first.reverse ++ []) [] :=
            linesAfter_append inside
          rw [List.append_nil, List.append_nil] at hlast
          rw [join, lines, hlast, linesAfter]
          simp [nonempty]
      | cons second more =>
          -- The line feed between two lines ends the first one and begins no line of its own.
          rw [join, lines, List.append_assoc, linesAfter_append inside, List.singleton_append,
            linesAfter_cons fun h => absurd h (by decide), if_pos (by decide), List.append_nil,
            List.reverse_reverse]
          exact congrArg (first :: ·) (ih hmore)

theorem forall_isWord_of_isSingleWord {word : Text} (h : isSingleWord word = true) :
    ∀ c ∈ word, isWord c := by
  rw [isSingleWord, Bool.and_eq_true] at h
  exact List.all_eq_true.1 h.2

end Text

/-- The characters of a given text can be checked one after another. -/
theorem not_isLineEnd_of_all {text : Text} (h : (text.all fun c => !isLineEnd c) = true) :
    ∀ c ∈ text, ¬isLineEnd c := by
  simpa using h

theorem not_isLineEnd_of_isWord {c : Char} (h : isWord c) : ¬isLineEnd c :=
  fun ends => not_isBlank_of_isWord h (isBlank_of_isLineEnd ends)

namespace Node

/-! ### Lines -/

/-- What stands in a line behind its indentation. -/
@[mk_iff isHeading_iff] structure IsHeading (content : Text) : Prop where
  first : ∃ c ∈ content.head?, ¬isBlank c
  inside : ∀ c ∈ content, ¬isLineEnd c

instance (content : Text) : Decidable (IsHeading content) :=
  decidable_of_iff
    ((content.head?.any fun c => !isBlank c) = true ∧ (content.all fun c => !isLineEnd c) = true)
    (by simp [isHeading_iff, Option.any_eq_true])

variable {level more number : Nat} {content other line label last source : Text}
variable {rest tail : List Text}

theorem indentation_add (level more : Nat) :
    indentation (level + more) = indentation more ++ indentation level := by
  simp [indentation, Nat.mul_add, Nat.add_comm]

theorem IsHeading.exists_cons (h : IsHeading content) :
    ∃ c rest, content = c :: rest ∧ ¬isBlank c := by
  obtain ⟨c, hfirst, visible⟩ := h.first
  obtain ⟨rest, rfl⟩ := List.head?_eq_some_iff.1 hfirst
  exact ⟨c, rest, rfl, visible⟩

/-- A line with a heading is not blank, however far it is set in. -/
theorem IsHeading.exists_visible (h : IsHeading content) :
    ∃ c ∈ indentation level ++ content, ¬isBlank c := by
  obtain ⟨c, rest, rfl, visible⟩ := h.exists_cons
  exact ⟨c, by simp, visible⟩

theorem IsHeading.inside_line (h : IsHeading content) :
    ∀ c ∈ indentation level ++ content, ¬isLineEnd c := by
  refine List.forall_mem_append.2 ⟨fun c hc => ?_, h.inside⟩
  rw [List.eq_of_mem_replicate hc]
  decide

/-! ### Headings -/

/-- What the heading of a node begins with. -/
def kindName : Node → String
  | text _ => "TextNode("
  | expression _ => "ExpressionNode("
  | conditional _ _ => "ConditionalNode"
  | iteration _ _ => "IterationNode("
  | switch _ _ _ => "SwitchNode("
  | foreign _ => ""

/-- What the heading of a node says behind the name of its kind. -/
def particulars : Node → Text
  | text content => Text.quoted (preview content) ++ [')']
  | expression source => Text.quoted source ++ [')']
  | conditional _ _ => []
  | iteration header _ => header.item ++ ", ".toList ++ header.index ++ " in ".toList
      ++ Text.quoted header.collection ++ [')']
  | switch subject _ _ => Text.quoted subject ++ [')']
  | foreign typeName => typeName

/-- The heading of a node. -/
def heading (node : Node) : Text :=
  node.kindName.toList ++ node.particulars

/-- The heading of a branch. -/
def branchHeading (label : Text) (number : Nat) (source : Text) : Text :=
  label ++ '[' :: Text.ofNat number ++ "] (".toList ++ Text.quoted source ++ "):".toList

/-- The lines below the one of a node. -/
def outlineBelow (level : Nat) : Node → List Text
  | text _ | expression _ | foreign _ => []
  | conditional branches otherwise =>
      outlineOfBranches "branch".toList level 0 branches
        ++ outlineOfOption "else:".toList level otherwise
  | iteration _ body => outlineOfList (level + 1) body
  | switch _ cases otherwise =>
      outlineOfBranches "case".toList level 0 cases
        ++ outlineOfOption "default:".toList level otherwise

theorem outline_eq (level : Nat) (node : Node) :
    outline level node = (indentation level ++ heading node) :: outlineBelow level node := by
  cases node <;> simp [outline, heading, kindName, particulars, outlineBelow]

theorem branchLine_eq :
    branchLine label level number source
      = indentation level ++ branchHeading label number source := by
  simp [branchLine, branchHeading]

/-- The names of a loop are words, and the node is one of a template. -/
def IsRegular : Node → Prop
  | iteration header _ =>
      Text.isSingleWord header.item = true ∧ Text.isSingleWord header.index = true
  | foreign _ => False
  | _ => True

/-- A quoted text has no line end, as line ends are escaped. -/
theorem not_isLineEnd_of_mem_quoted : ∀ c ∈ Text.quoted content, ¬isLineEnd c :=
  fun _ hc => not_isLineEnd_of_isPrintable (Text.isPrintable_of_mem_quoted hc)

theorem not_isLineEnd_of_isSingleWord (h : Text.isSingleWord content = true) :
    ∀ c ∈ content, ¬isLineEnd c :=
  fun c hc => not_isLineEnd_of_isWord (Text.forall_isWord_of_isSingleWord h c hc)

theorem mem_preorder_self (node : Node) : node ∈ preorder node := by
  cases node <;> simp [preorder]

theorem isHeading_kindName {node : Node} (h : node.IsRegular) : IsHeading node.kindName.toList := by
  have names : ∀ name ∈ ["TextNode(", "ExpressionNode(", "ConditionalNode", "IterationNode(",
      "SwitchNode("], IsHeading name.toList := by decide +kernel
  cases node with
  | text | expression | conditional | iteration | switch => exact names _ (by simp [kindName])
  | foreign => cases h

theorem IsHeading.append (h : IsHeading content) (hother : ∀ c ∈ other, ¬isLineEnd c) :
    IsHeading (content ++ other) where
  first := by
    obtain ⟨c, rest, rfl, visible⟩ := h.exists_cons
    exact ⟨c, rfl, visible⟩
  inside := List.forall_mem_append.2 ⟨h.inside, hother⟩

/-- What a heading says of its node stays in the line. Literals and sources are quoted, and the
names of a loop are words. -/
theorem not_isLineEnd_of_mem_particulars {node : Node} (h : node.IsRegular) :
    ∀ c ∈ node.particulars, ¬isLineEnd c := by
  have closing : ∀ c ∈ [')'], ¬isLineEnd c := not_isLineEnd_of_all (by decide)
  cases node with
  | text | expression | switch =>
      exact List.forall_mem_append.2 ⟨not_isLineEnd_of_mem_quoted, closing⟩
  | conditional => exact List.forall_mem_nil _
  | iteration header body =>
      obtain ⟨item, index⟩ := h
      simp only [particulars, List.forall_mem_append]
      exact ⟨⟨⟨⟨⟨not_isLineEnd_of_isSingleWord item, not_isLineEnd_of_all (by decide +kernel)⟩,
        not_isLineEnd_of_isSingleWord index⟩, not_isLineEnd_of_all (by decide +kernel)⟩,
        not_isLineEnd_of_mem_quoted⟩, closing⟩
  | foreign => cases h

/-- The heading of a node, with any text, source and names. -/
theorem IsRegular.isHeading {node : Node} (h : node.IsRegular) : IsHeading (heading node) :=
  (isHeading_kindName h).append (not_isLineEnd_of_mem_particulars h)

theorem IsHeading.branch (h : IsHeading label) : IsHeading (branchHeading label number source) := by
  have digits : ∀ c ∈ Text.ofNat number, ¬isLineEnd c :=
    fun c hc => not_isLineEnd_of_isPrintable (Text.isPrintable_of_mem_ofNat hc)
  have hopen : ∀ c ∈ "] (".toList, ¬isLineEnd c := not_isLineEnd_of_all (by decide +kernel)
  have hclose : ∀ c ∈ "):".toList, ¬isLineEnd c := not_isLineEnd_of_all (by decide +kernel)
  have hnumber : IsHeading (label ++ '[' :: Text.ofNat number) :=
    h.append (List.forall_mem_cons.2 ⟨by decide, digits⟩)
  exact ((hnumber.append hopen).append not_isLineEnd_of_mem_quoted).append hclose

/-- What outlines call the branches and the other body of a block. -/
structure AreLabels (label last : Text) : Prop where
  apart : label.head? ≠ last.head?
  branch : IsHeading label
  last : IsHeading last

theorem areLabels_conditional : AreLabels "branch".toList "else:".toList :=
  ⟨by simp, by decide +kernel, by decide +kernel⟩

theorem areLabels_switch : AreLabels "case".toList "default:".toList :=
  ⟨by simp, by decide +kernel, by decide +kernel⟩

/-! ### Indentation -/

mutual

/-- **Starting at another level only shifts the outline.** The induction is on the tree; the three
lemmas after this one are its cases for lists. -/
theorem outline_add (level more : Nat) (node : Node) :
    outline (level + more) node = (outline level node).map (indentation more ++ ·) := by
  cases node with
  | text content => simp [outline, indentation_add]
  | expression source => simp [outline, indentation_add]
  | conditional branches otherwise =>
      simp [outline, indentation_add, outlineOfBranches_add _ level more 0 branches,
        outlineOfOption_add _ level more otherwise]
  | iteration header body =>
      have hbody := outlineOfList_add (level + 1) more body
      simp [outline, indentation_add, ← hbody, Nat.add_right_comm]
  | switch subject cases otherwise =>
      simp [outline, indentation_add, outlineOfBranches_add _ level more 0 cases,
        outlineOfOption_add _ level more otherwise]
  | foreign typeName => simp [outline, indentation_add]

theorem outlineOfList_add (level more : Nat) (nodes : List Node) :
    outlineOfList (level + more) nodes
      = (outlineOfList level nodes).map (indentation more ++ ·) := by
  cases nodes with
  | nil => rfl
  | cons node rest =>
      rw [outlineOfList, outlineOfList, List.map_append, outline_add level more node,
        outlineOfList_add level more rest]

theorem outlineOfBranches_add (label : Text) (level more number : Nat)
    (branches : List (Text × List Node)) :
    outlineOfBranches label (level + more) number branches
      = (outlineOfBranches label level number branches).map (indentation more ++ ·) := by
  cases branches with
  | nil => rfl
  | cons branch rest =>
      obtain ⟨source, body⟩ := branch
      have hbody := outlineOfList_add (level + 2) more body
      have hrest := outlineOfBranches_add label level more (number + 1) rest
      simp [outlineOfBranches, branchLine_eq, ← hbody, hrest, Nat.add_right_comm _ more,
        indentation_add (level + 1)]

theorem outlineOfOption_add (label : Text) (level more : Nat) (otherwise : Option (List Node)) :
    outlineOfOption label (level + more) otherwise
      = (outlineOfOption label level otherwise).map (indentation more ++ ·) := by
  cases otherwise with
  | none => rfl
  | some body =>
      have hbody := outlineOfList_add (level + 2) more body
      simp [outlineOfOption, ← hbody, Nat.add_right_comm _ more, indentation_add (level + 1)]

end

/-! ### Lines -/

/-- A line of an outline. -/
def IsLine (line : Text) : Prop :=
  ∃ level content, IsHeading content ∧ line = indentation level ++ content

theorem AreLabels.isLine_branch (labels : AreLabels label last) :
    IsLine (branchLine label level number source) :=
  ⟨level, branchHeading label number source, labels.branch.branch, branchLine_eq⟩

mutual

/-- Every line of an outline is one line, and not a blank one. -/
theorem isLine_of_mem_outline (level : Nat) (node : Node)
    (regular : ∀ other ∈ preorder node, other.IsRegular) :
    ∀ line ∈ outline level node, IsLine line := by
  have hnode : node.IsRegular := regular node (mem_preorder_self node)
  rw [outline_eq, List.forall_mem_cons]
  refine ⟨⟨level, heading node, hnode.isHeading, rfl⟩, ?_⟩
  cases node with
  | text | expression | foreign => exact List.forall_mem_nil _
  | conditional branches otherwise =>
      rw [preorder, List.forall_mem_cons, List.forall_mem_append] at regular
      obtain ⟨-, hbranches, hotherwise⟩ := regular
      exact List.forall_mem_append.2
        ⟨isLine_of_mem_outlineOfBranches areLabels_conditional level 0 branches hbranches,
          isLine_of_mem_outlineOfOption areLabels_conditional level otherwise hotherwise⟩
  | iteration header body =>
      rw [preorder, List.forall_mem_cons] at regular
      exact isLine_of_mem_outlineOfList (level + 1) body regular.2
  | switch subject cases otherwise =>
      rw [preorder, List.forall_mem_cons, List.forall_mem_append] at regular
      obtain ⟨-, hcases, hotherwise⟩ := regular
      exact List.forall_mem_append.2
        ⟨isLine_of_mem_outlineOfBranches areLabels_switch level 0 cases hcases,
          isLine_of_mem_outlineOfOption areLabels_switch level otherwise hotherwise⟩

theorem isLine_of_mem_outlineOfList (level : Nat) (nodes : List Node)
    (regular : ∀ node ∈ preorderOfList nodes, node.IsRegular) :
    ∀ line ∈ outlineOfList level nodes, IsLine line := by
  cases nodes with
  | nil => exact List.forall_mem_nil _
  | cons node rest =>
      rw [preorderOfList, List.forall_mem_append] at regular
      exact List.forall_mem_append.2 ⟨isLine_of_mem_outline level node regular.1,
        isLine_of_mem_outlineOfList level rest regular.2⟩

theorem isLine_of_mem_outlineOfBranches {label last : Text} (labels : AreLabels label last)
    (level number : Nat) (branches : List (Text × List Node))
    (regular : ∀ node ∈ preorderOfBranches branches, node.IsRegular) :
    ∀ line ∈ outlineOfBranches label level number branches, IsLine line := by
  cases branches with
  | nil => exact List.forall_mem_nil _
  | cons branch rest =>
      obtain ⟨source, body⟩ := branch
      rw [preorderOfBranches, List.forall_mem_append] at regular
      rw [outlineOfBranches, List.cons_append, List.forall_mem_cons, List.forall_mem_append]
      exact ⟨labels.isLine_branch, isLine_of_mem_outlineOfList (level + 2) body regular.1,
        isLine_of_mem_outlineOfBranches labels level (number + 1) rest regular.2⟩

theorem isLine_of_mem_outlineOfOption {label last : Text} (labels : AreLabels label last)
    (level : Nat) (otherwise : Option (List Node))
    (regular : ∀ node ∈ preorderOfOption otherwise, node.IsRegular) :
    ∀ line ∈ outlineOfOption last level otherwise, IsLine line := by
  cases otherwise with
  | none => exact List.forall_mem_nil _
  | some body =>
      rw [outlineOfOption, List.forall_mem_cons]
      exact ⟨⟨level + 1, last, labels.last, rfl⟩,
        isLine_of_mem_outlineOfList (level + 2) body regular⟩

end

/-- The lines of the outline as one text are the ones that it is made of. -/
theorem lines_outlineText {nodes : List Node}
    (regular : ∀ node ∈ preorderOfList nodes, node.IsRegular) :
    Text.lines (outlineText level nodes) = outlineOfList level nodes := by
  refine Text.lines_join fun line hline => ?_
  obtain ⟨indented, content, isHeading, rfl⟩ :=
    isLine_of_mem_outlineOfList level nodes regular line hline
  obtain ⟨c, hc, -⟩ : ∃ c ∈ indentation indented ++ content, ¬isBlank c :=
    isHeading.exists_visible
  exact ⟨List.ne_nil_of_mem hc, isHeading.inside_line⟩

/-! ### Number of lines -/

/-- The number of bodies of a node that have a line of their own: those of its branches, and its
other body. -/
def bodyCount : Node → Nat
  | conditional branches otherwise => branches.length + otherwise.toList.length
  | switch _ cases otherwise => cases.length + otherwise.toList.length
  | text _ | expression _ | iteration _ _ | foreign _ => 0

/-- A line for every node, and one for every body. -/
def lineCount (nodes : List Node) : Nat :=
  nodes.length + (nodes.map bodyCount).sum

theorem lineCount_append (nodes others : List Node) :
    lineCount (nodes ++ others) = lineCount nodes + lineCount others := by
  simp [lineCount]
  omega

theorem lineCount_cons (node : Node) (others : List Node) :
    lineCount (node :: others) = 1 + node.bodyCount + lineCount others := by
  simp [lineCount]
  omega

mutual

/-- An outline has a line for every node and for every branch. Again, the three lemmas that follow
are the cases for lists. -/
theorem length_outline (level : Nat) (node : Node) :
    (outline level node).length = lineCount (preorder node) := by
  cases node with
  | text | expression | foreign => rfl
  | conditional branches otherwise =>
      rw [outline, preorder, lineCount_cons, lineCount_append, bodyCount, List.cons_append,
        List.length_cons, List.length_append, length_outlineOfBranches _ level 0 branches,
        length_outlineOfOption _ level otherwise]
      omega
  | iteration header body =>
      rw [outline, preorder, lineCount_cons, bodyCount, List.length_cons,
        length_outlineOfList (level + 1) body]
      omega
  | switch subject cases otherwise =>
      rw [outline, preorder, lineCount_cons, lineCount_append, bodyCount, List.cons_append,
        List.length_cons, List.length_append, length_outlineOfBranches _ level 0 cases,
        length_outlineOfOption _ level otherwise]
      omega

theorem length_outlineOfList (level : Nat) (nodes : List Node) :
    (outlineOfList level nodes).length = lineCount (preorderOfList nodes) := by
  cases nodes with
  | nil => rfl
  | cons node rest =>
      rw [outlineOfList, preorderOfList, lineCount_append, List.length_append,
        length_outline level node, length_outlineOfList level rest]

theorem length_outlineOfBranches (label : Text) (level number : Nat)
    (branches : List (Text × List Node)) :
    (outlineOfBranches label level number branches).length
      = branches.length + lineCount (preorderOfBranches branches) := by
  cases branches with
  | nil => rfl
  | cons branch rest =>
      obtain ⟨source, body⟩ := branch
      rw [outlineOfBranches, preorderOfBranches, lineCount_append, List.cons_append,
        List.length_cons, List.length_append, length_outlineOfList (level + 2) body,
        length_outlineOfBranches label level (number + 1) rest, List.length_cons]
      omega

theorem length_outlineOfOption (label : Text) (level : Nat) (otherwise : Option (List Node)) :
    (outlineOfOption label level otherwise).length
      = otherwise.toList.length + lineCount (preorderOfOption otherwise) := by
  cases otherwise with
  | none => rfl
  | some body =>
      rw [outlineOfOption, preorderOfOption, List.length_cons,
        length_outlineOfList (level + 2) body, Option.toList_some, List.length_singleton]
      omega

end

end Node

end Stencil
