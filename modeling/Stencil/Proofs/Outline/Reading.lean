import Stencil.Proofs.Outline.Lines

/-!
# Outlines tell trees apart

A tree can be read back from its outline. A heading tells what its node says, since a quoted text is
one text only and ends in one place (`Node.SameHeading`). The depth of a line tells which node it
belongs to: what is below a node, or in a body, is what follows its line up to the first one that is
not deeper (`Node.Shallow`). So a node, a body, the branches of a block and its other body are each
cut off the lines that follow in one way only (`Node.outline_append_inj`).

`Node.outlineText_isFaithful` says what an outline tells of its tree.
-/

namespace Stencil

/-! ### Words in front of other characters -/

/-- Words that end where no word character follows are told apart by the whole text. -/
theorem Text.word_append_inj {word other rest more : Text} (hword : ∀ c ∈ word, isWord c)
    (hother : ∀ c ∈ other, isWord c) (hrest : ∀ c ∈ rest.head?, ¬isWord c)
    (hmore : ∀ c ∈ more.head?, ¬isWord c) (h : word ++ rest = other ++ more) :
    word = other ∧ rest = more := by
  have left := (⟨rfl, hword, hrest⟩ : Leads isWord (word ++ rest) word rest).eq
  have right := (⟨h, hother, hmore⟩ : Leads isWord (word ++ rest) other more).eq
  exact ⟨left.1.trans right.1.symm, left.2.trans right.2.symm⟩

namespace Node

/-! ### Depth of lines -/

/-- The number of spaces in front of a line. -/
def depth (line : Text) : Nat :=
  (line.takeWhile (· = ' ')).length

/-- The lines do not begin with one that is set in to the level or further. -/
def Shallow (level : Nat) (lines : List Text) : Prop :=
  ∀ line ∈ lines.head?, depth line < 2 * level

variable {level more number : Nat} {content other line label last source : Text}
variable {rest tail : List Text}

/-- How far a line is set in can be read off, because a heading begins with no blank. -/
theorem IsHeading.depth_eq (h : IsHeading content) :
    depth (indentation level ++ content) = 2 * level := by
  obtain ⟨c, rest, rfl, visible⟩ := h.exists_cons
  have hc : ¬(c = ' ') := by
    rintro rfl
    exact visible (by decide)
  rw [depth, indentation, List.takeWhile_append_of_pos (by simp),
    List.takeWhile_cons_of_neg (by simpa), List.append_nil, List.length_replicate]

theorem Shallow.mono (h : Shallow level rest) : Shallow (level + 1) rest :=
  fun line hline => Nat.lt_of_lt_of_le (h line hline) (by omega)

/-- A line at some level ends all that is set in further. -/
theorem IsHeading.shallow (h : IsHeading content) :
    Shallow (level + 1) ((indentation level ++ content) :: rest) := by
  rintro line ⟨⟩
  rw [h.depth_eq]
  omega

theorem IsHeading.not_shallow (h : IsHeading content) :
    ¬Shallow level ((indentation level ++ content) :: rest) := by
  intro shallow
  have := shallow _ rfl
  rw [h.depth_eq] at this
  omega

/-! ### Reading headings -/

/-- The text of a node is not cut in an outline. -/
def IsShown : Node → Prop
  | text content => content.length ≤ 50
  | _ => True

/-- The node has names that are words, and a text that is not cut. -/
structure IsReadable (node : Node) : Prop where
  regular : node.IsRegular
  shown : node.IsShown

/-- The nodes say the same in their headings. -/
inductive SameHeading : Node → Node → Prop
  | text {written : Text} : SameHeading (text written) (text written)
  | expression {written : Text} : SameHeading (expression written) (expression written)
  | conditional {branches others otherwise last} :
      SameHeading (conditional branches otherwise) (conditional others last)
  | iteration {header body other} : SameHeading (iteration header body) (iteration header other)
  | switch {subject cases others otherwise last} :
      SameHeading (switch subject cases otherwise) (switch subject others last)

/-- A text that is short enough is shown as it is; only a longer one loses something. -/
theorem preview_eq (h : content.length ≤ 50) : preview content = content :=
  if_neg (Nat.not_lt.2 h)

/-- The names of a loop end at the comma and at the blank behind them. -/
theorem header_eq_of_particulars {header header' : LoopHeader} {body body' : List Node}
    (regular : (iteration header body).IsRegular) (regular' : (iteration header' body').IsRegular)
    (h : (iteration header body).particulars = (iteration header' body').particulars) :
    header = header' := by
  have names {name : Text} (h : Text.isSingleWord name = true) : ∀ c ∈ name, isWord c :=
    Text.forall_isWord_of_isSingleWord h
  simp only [particulars, List.append_assoc] at h
  obtain ⟨item, h⟩ := Text.word_append_inj (names regular.1) (names regular'.1)
    (by simp; decide) (by simp; decide) h
  obtain ⟨index, h⟩ := Text.word_append_inj (names regular.2) (names regular'.2)
    (by simp; decide) (by simp; decide) (List.append_cancel_left h)
  obtain ⟨collection, -⟩ := Text.quoted_append_inj (List.append_cancel_left h)
  cases header
  cases header'
  simp_all

/-- Two headings that are equal are of the same kind of node, with the same particulars. The first
word tells the kinds apart. -/
theorem sameHeading_of_heading_eq {node other : Node} (hnode : node.IsReadable)
    (hother : other.IsReadable) (h : heading node = heading other) : SameHeading node other := by
  cases node with
  | text content =>
      cases other with
      | text content' =>
          -- Of a literal only a preview is shown, so this is where the condition on long texts is
          -- needed.
          have hquoted := (Text.quoted_append_inj (List.append_cancel_left h)).1
          rw [preview_eq hnode.shown, preview_eq hother.shown] at hquoted
          rw [hquoted]
          exact .text
      | expression | conditional | iteration | switch => simp [heading, kindName] at h
      | foreign => cases hother.regular
  | expression source =>
      cases other with
      | expression source' =>
          rw [(Text.quoted_append_inj (List.append_cancel_left h)).1]
          exact .expression
      | text | conditional | iteration | switch => simp [heading, kindName] at h
      | foreign => cases hother.regular
  | conditional branches otherwise =>
      cases other with
      | conditional others last => exact .conditional
      | text | expression | iteration | switch => simp [heading, kindName] at h
      | foreign => cases hother.regular
  | iteration header body =>
      cases other with
      | iteration header' body' =>
          rw [header_eq_of_particulars hnode.regular hother.regular (List.append_cancel_left h)]
          exact .iteration
      | text | expression | conditional | switch => simp [heading, kindName] at h
      | foreign => cases hother.regular
  | switch subject cases otherwise =>
      cases other with
      | switch subject' others last =>
          rw [(Text.quoted_append_inj (List.append_cancel_left h)).1]
          exact .switch
      | text | expression | conditional | iteration => simp [heading, kindName] at h
      | foreign => cases hother.regular
  | foreign => cases hnode.regular

theorem branchHeading_inj {other : Text}
    (h : branchHeading label number source = branchHeading label number other) :
    source = other := by
  simp only [branchHeading, List.append_assoc] at h
  have hquoted := List.append_cancel_left (List.append_cancel_left h)
  exact (Text.quoted_append_inj (List.append_cancel_left hquoted)).1

/-! ### Reading trees -/

/-- The lines do not go on with a branch at the level: they begin with a line of a lower level, or
with one at the level that begins otherwise. -/
def Closes (label : Text) (level : Nat) (lines : List Text) : Prop :=
  ∀ line ∈ lines.head?, depth line < 2 * level
    ∨ ∃ content, IsHeading content ∧ content.head? ≠ label.head?
        ∧ line = indentation level ++ content

theorem Closes.shallow (h : Closes label level rest) : Shallow (level + 1) rest := by
  intro line hline
  rcases h line hline with hdepth | ⟨content, isHeading, -, rfl⟩
  · omega
  · rw [isHeading.depth_eq]
    omega

/-- A line of a further branch does not close the branches. -/
theorem Closes.not_branch (hlabel : IsHeading label) :
    ¬Closes label level (branchLine label level number source :: rest) := by
  intro closes
  rw [branchLine_eq] at closes
  rcases closes _ rfl with hdepth | ⟨content, -, apart, hline⟩
  · rw [hlabel.branch.depth_eq] at hdepth
    omega
  · obtain ⟨c, more, rfl, -⟩ := hlabel.exists_cons
    rw [← List.append_cancel_left hline] at apart
    exact apart rfl

/-- The last branch, or the end of the node, closes the branches before it. -/
theorem AreLabels.closes (labels : AreLabels label last) (h : Shallow (level + 1) rest)
    (otherwise : Option (List Node)) :
    Closes label (level + 1) (outlineOfOption last level otherwise ++ rest) := by
  cases otherwise with
  | none => exact fun line hline => .inl (h line hline)
  | some body =>
      rintro line ⟨⟩
      exact .inr ⟨last, labels.last, labels.apart.symm, rfl⟩

/-- Behind a body in a branch there is another branch, or the lines that close the branches. -/
theorem Closes.shallow_branches (h : Closes label (level + 1) rest) (hlabel : IsHeading label)
    (branches : List (Text × List Node)) :
    Shallow (level + 2) (outlineOfBranches label level number branches ++ rest) := by
  cases branches with
  | nil => exact h.shallow
  | cons branch branches =>
      rw [outlineOfBranches, branchLine_eq]
      exact hlabel.branch.shallow

/-- What is set in too little for the body is also too little for the nodes of it. -/
theorem Shallow.list (h : Shallow level rest) {nodes : List Node}
    (readable : ∀ node ∈ preorderOfList nodes, node.IsReadable) :
    Shallow (level + 1) (outlineOfList level nodes ++ rest) := by
  cases nodes with
  | nil => exact h.mono
  | cons node nodes =>
      have hnode : node.IsReadable :=
        readable node (List.mem_append_left _ (mem_preorder_self node))
      rw [outlineOfList, outline_eq]
      exact hnode.regular.isHeading.shallow

mutual

/-- A node is read off its heading and off the lines below it. -/
theorem outline_append_inj (level : Nat) (node other : Node) {rest tail : List Text}
    (hnode : ∀ under ∈ preorder node, under.IsReadable)
    (hother : ∀ under ∈ preorder other, under.IsReadable)
    (hrest : Shallow (level + 1) rest) (htail : Shallow (level + 1) tail)
    (h : outline level node ++ rest = outline level other ++ tail) :
    node = other ∧ rest = tail := by
  rw [outline_eq, outline_eq, List.cons_append, List.cons_append, List.cons.injEq] at h
  obtain ⟨hheading, hbelow⟩ := h
  -- The nodes are of one kind, so below them stand lines of the same make.
  have same : SameHeading node other :=
    sameHeading_of_heading_eq (hnode node (mem_preorder_self node))
      (hother other (mem_preorder_self other)) (List.append_cancel_left hheading)
  cases node with
  | text content =>
      cases same
      exact ⟨rfl, hbelow⟩
  | expression source =>
      cases same
      exact ⟨rfl, hbelow⟩
  | conditional branches otherwise =>
      cases same with
      | @conditional _ others _ last =>
          rw [preorder, List.forall_mem_cons, List.forall_mem_append] at hnode hother
          simp only [outlineBelow, List.append_assoc] at hbelow
          obtain ⟨rfl, hlast⟩ := outlineOfBranches_append_inj areLabels_conditional.branch level 0
            branches others hnode.2.1 hother.2.1 (areLabels_conditional.closes hrest otherwise)
            (areLabels_conditional.closes htail last) hbelow
          obtain ⟨rfl, hsame⟩ := outlineOfOption_append_inj areLabels_conditional.last level
            otherwise last hnode.2.2 hother.2.2 hrest htail hlast
          exact ⟨rfl, hsame⟩
  | iteration header body =>
      cases same with
      | @iteration _ _ other =>
          rw [preorder, List.forall_mem_cons] at hnode hother
          obtain ⟨rfl, hsame⟩ := outlineOfList_append_inj (level + 1) body other hnode.2 hother.2
            hrest htail hbelow
          exact ⟨rfl, hsame⟩
  | switch subject cases otherwise =>
      cases same with
      | @switch _ _ others _ last =>
          rw [preorder, List.forall_mem_cons, List.forall_mem_append] at hnode hother
          simp only [outlineBelow, List.append_assoc] at hbelow
          obtain ⟨rfl, hlast⟩ := outlineOfBranches_append_inj areLabels_switch.branch level 0
            cases others hnode.2.1 hother.2.1 (areLabels_switch.closes hrest otherwise)
            (areLabels_switch.closes htail last) hbelow
          obtain ⟨rfl, hsame⟩ := outlineOfOption_append_inj areLabels_switch.last level
            otherwise last hnode.2.2 hother.2.2 hrest htail hlast
          exact ⟨rfl, hsame⟩
  | foreign typeName => cases same
termination_by structural node

/-- The nodes of a body end where the lines are less deep. -/
theorem outlineOfList_append_inj (level : Nat) (nodes others : List Node) {rest tail : List Text}
    (hnodes : ∀ under ∈ preorderOfList nodes, under.IsReadable)
    (hothers : ∀ under ∈ preorderOfList others, under.IsReadable)
    (hrest : Shallow level rest) (htail : Shallow level tail)
    (h : outlineOfList level nodes ++ rest = outlineOfList level others ++ tail) :
    nodes = others ∧ rest = tail := by
  -- Where one body ends and the other goes on, a line of their level would stand behind the first.
  have deeper {node : Node} {lines : List Text}
      (hnode : ∀ under ∈ preorder node, under.IsReadable) :
      ¬Shallow level (outline level node ++ lines) := by
    have readable : node.IsReadable := hnode node (mem_preorder_self node)
    rw [outline_eq]
    exact readable.regular.isHeading.not_shallow
  cases nodes with
  | nil =>
      cases others with
      | nil => exact ⟨rfl, h⟩
      | cons other others =>
          rw [preorderOfList, List.forall_mem_append] at hothers
          rw [outlineOfList, outlineOfList, List.append_assoc, List.nil_append] at h
          exact absurd (h ▸ hrest) (deeper hothers.1)
  | cons node nodes =>
      rw [preorderOfList, List.forall_mem_append] at hnodes
      cases others with
      | nil =>
          rw [outlineOfList, outlineOfList, List.append_assoc, List.nil_append] at h
          exact absurd (h.symm ▸ htail) (deeper hnodes.1)
      | cons other others =>
          rw [preorderOfList, List.forall_mem_append] at hothers
          rw [outlineOfList, outlineOfList, List.append_assoc, List.append_assoc] at h
          obtain ⟨rfl, hmore⟩ := outline_append_inj level node other hnodes.1 hothers.1
            (hrest.list hnodes.2) (htail.list hothers.2) h
          obtain ⟨rfl, hsame⟩ := outlineOfList_append_inj level nodes others hnodes.2 hothers.2
            hrest htail hmore
          exact ⟨rfl, hsame⟩
termination_by structural nodes

/-- Branches can be read off their lines. They are as many on both sides because what comes after
them closes them. -/
theorem outlineOfBranches_append_inj {label : Text} (hlabel : IsHeading label) (level number : Nat)
    (branches others : List (Text × List Node)) {rest tail : List Text}
    (hbranches : ∀ under ∈ preorderOfBranches branches, under.IsReadable)
    (hothers : ∀ under ∈ preorderOfBranches others, under.IsReadable)
    (hrest : Closes label (level + 1) rest) (htail : Closes label (level + 1) tail)
    (h : outlineOfBranches label level number branches ++ rest
      = outlineOfBranches label level number others ++ tail) :
    branches = others ∧ rest = tail := by
  cases branches with
  | nil =>
      cases others with
      | nil => exact ⟨rfl, h⟩
      | cons other others =>
          rw [outlineOfBranches, outlineOfBranches, List.nil_append] at h
          exact absurd (h ▸ hrest) (Closes.not_branch hlabel)
  | cons branch branches =>
      obtain ⟨source, body⟩ := branch
      cases others with
      | nil =>
          rw [outlineOfBranches, outlineOfBranches, List.nil_append] at h
          exact absurd (h.symm ▸ htail) (Closes.not_branch hlabel)
      | cons other others =>
          obtain ⟨source', body'⟩ := other
          rw [preorderOfBranches, List.forall_mem_append] at hbranches hothers
          simp only [outlineOfBranches, List.cons_append, List.append_assoc, branchLine_eq,
            List.cons.injEq] at h
          obtain ⟨hheading, hbelow⟩ := h
          -- The branches have the same number, so their headings differ in the sources only.
          obtain rfl := branchHeading_inj (List.append_cancel_left hheading)
          obtain ⟨rfl, hmore⟩ := outlineOfList_append_inj (level + 2) body body' hbranches.1
            hothers.1 (hrest.shallow_branches hlabel branches)
            (htail.shallow_branches hlabel others) hbelow
          obtain ⟨rfl, hsame⟩ := outlineOfBranches_append_inj hlabel level (number + 1) branches
            others hbranches.2 hothers.2 hrest htail hmore
          exact ⟨rfl, hsame⟩
termination_by structural branches

/-- Whether there is a last branch is seen at its label. -/
theorem outlineOfOption_append_inj {last : Text} (hlast : IsHeading last) (level : Nat)
    (otherwise other : Option (List Node)) {rest tail : List Text}
    (hotherwise : ∀ under ∈ preorderOfOption otherwise, under.IsReadable)
    (hother : ∀ under ∈ preorderOfOption other, under.IsReadable)
    (hrest : Shallow (level + 1) rest) (htail : Shallow (level + 1) tail)
    (h : outlineOfOption last level otherwise ++ rest = outlineOfOption last level other ++ tail) :
    otherwise = other ∧ rest = tail := by
  cases otherwise with
  | none =>
      cases other with
      | none => exact ⟨rfl, h⟩
      | some body =>
          rw [outlineOfOption, outlineOfOption, List.nil_append] at h
          exact absurd (h ▸ hrest) hlast.not_shallow
  | some body =>
      cases other with
      | none =>
          rw [outlineOfOption, outlineOfOption, List.nil_append] at h
          exact absurd (h.symm ▸ htail) hlast.not_shallow
      | some body' =>
          rw [outlineOfOption, outlineOfOption, List.cons_append, List.cons_append,
            List.cons.injEq] at h
          obtain ⟨rfl, hsame⟩ := outlineOfList_append_inj (level + 2) body body' hotherwise hother
            hrest.mono htail.mono h.2
          exact ⟨rfl, hsame⟩
termination_by structural otherwise

end

/-- **Outlines tell trees apart**, as long as their texts are shown in full. -/
theorem outlineText_inj {nodes others : List Node}
    (hnodes : ∀ node ∈ preorderOfList nodes, node.IsReadable)
    (hothers : ∀ node ∈ preorderOfList others, node.IsReadable)
    (h : outlineText level nodes = outlineText level others) : nodes = others := by
  have hlines := congrArg Text.lines h
  rw [lines_outlineText fun node hnode => (hnodes node hnode).regular,
    lines_outlineText fun node hnode => (hothers node hnode).regular] at hlines
  have shallow : Shallow level [] := by simp [Shallow]
  refine (outlineOfList_append_inj level nodes others hnodes hothers shallow shallow ?_).1
  rw [List.append_nil, List.append_nil, hlines]

/-- **An outline is faithful.** A further level sets in every line and changes nothing else; every
line shows something; there is a line for every node and for every body that has one of its own, an
empty one included; and no other tree has the outline, as long as no text is cut. -/
theorem outlineText_isFaithful {nodes : List Node}
    (regular : ∀ node ∈ preorderOfList nodes, node.IsRegular) (level : Nat) :
    (∀ more, outlineText (level + more) nodes
        = Text.join ['\n']
            ((Text.lines (outlineText level nodes)).map (List.replicate (2 * more) ' ' ++ ·)))
      ∧ (∀ line ∈ Text.lines (outlineText level nodes), ∃ c ∈ line, ¬isBlank c)
      ∧ (Text.lines (outlineText level nodes)).length
          = (preorderOfList nodes).length + ((preorderOfList nodes).map bodyCount).sum
      ∧ ∀ others, (∀ node ∈ preorderOfList others, node.IsRegular) →
          (∀ node ∈ preorderOfList nodes ++ preorderOfList others, node.IsShown) →
          outlineText level nodes = outlineText level others → nodes = others := by
  rw [lines_outlineText regular]
  refine ⟨fun more => ?_, fun line hline => ?_, length_outlineOfList level nodes,
    fun others hothers shown h => ?_⟩
  · rw [outlineText, outlineOfList_add]
    rfl
  · obtain ⟨indented, content, isHeading, rfl⟩ :=
      isLine_of_mem_outlineOfList level nodes regular line hline
    exact isHeading.exists_visible
  · obtain ⟨hshown, hshown'⟩ := List.forall_mem_append.1 shown
    exact outlineText_inj (fun node hnode => ⟨regular node hnode, hshown node hnode⟩)
      (fun node hnode => ⟨hothers node hnode, hshown' node hnode⟩) h

/-- A loop in a branch, and an other body that is there but empty. Without that body the outline is
another one. -/
theorem outlineText_isFaithful_nested :
    let loop : Node := .iteration ⟨['x'], ['i'], "xs".toList⟩ [.text ['a', '\n', '\'']]
    let nodes : List Node := [.conditional [(['c'], [loop])] (some [])]
    let others : List Node := [.conditional [(['c'], [loop])] none]
    (∀ node ∈ preorderOfList nodes, node.IsRegular)
      ∧ (∀ node ∈ preorderOfList others, node.IsRegular)
      ∧ (∀ node ∈ preorderOfList nodes ++ preorderOfList others, node.IsShown)
      ∧ (Text.lines (outlineText 1 nodes)).length = 5
      ∧ outlineText 1 nodes ≠ outlineText 1 others := by
  intro loop nodes others
  have word : Text.isSingleWord ['x'] = true ∧ Text.isSingleWord ['i'] = true := by decide
  have regular : ∀ node ∈ preorderOfList nodes, node.IsRegular := by
    simpa [nodes, loop, preorderOfList, preorder, preorderOfBranches, preorderOfOption, IsRegular]
      using word
  have hothers : ∀ node ∈ preorderOfList others, node.IsRegular := by
    simpa [others, loop, preorderOfList, preorder, preorderOfBranches, preorderOfOption, IsRegular]
      using word
  have shown : ∀ node ∈ preorderOfList nodes ++ preorderOfList others, node.IsShown := by
    simp [nodes, others, loop, preorderOfList, preorder, preorderOfBranches, preorderOfOption,
      IsShown]
  obtain ⟨-, -, hlength, inj⟩ := outlineText_isFaithful regular 1
  refine ⟨regular, hothers, shown, hlength, fun h => ?_⟩
  have same := inj others hothers shown h
  simp [nodes, others] at same

end Node

end Stencil
