import Stencil.Proofs.Block.Append
import Stencil.Proofs.Block.Completeness
import Stencil.Proofs.Render.Equivalent

/-!
# Exchanged parts

A part of a list of tokens that is accepted alone may be exchanged for another one with an equivalent
tree. Whatever stands around it, the whole is then refused with the error that it was refused with
before, or it has a tree that is equivalent to the one it had (`assemble_exchangesParts`).

The two lists are assembled side by side. Outside of blocks an exchanged part adds equivalent nodes.
Inside of a block it is kept as it stands, because it is quiet in every family (`Derives.isQuiet`);
so the bodies of the block are exchanged lists again, and they are shorter.
-/

namespace Stencil

variable {keywords : Keywords}

/-- Some parts of a list stand in the place of others. Each is accepted alone, and its tree is
equivalent to the one before. -/
inductive ExchangesParts (keywords : Keywords) : List Token → List Token → Prop
  | nil : ExchangesParts keywords [] []
  | same {token tokens others} (more : ExchangesParts keywords tokens others) :
      ExchangesParts keywords (token :: tokens) (token :: others)
  | part {part part' nodes nodes' tokens others} (accepted : assemble keywords part = .ok nodes)
      (accepted' : assemble keywords part' = .ok nodes')
      (equivalent : Node.Equivalent nodes nodes') (more : ExchangesParts keywords tokens others) :
      ExchangesParts keywords (part ++ tokens) (part' ++ others)

theorem ExchangesParts.refl (tokens : List Token) : ExchangesParts keywords tokens tokens := by
  induction tokens with
  | nil => exact .nil
  | cons token rest ih => exact .same ih

theorem ExchangesParts.append {tokens others more rest : List Token}
    (h : ExchangesParts keywords tokens others) (h' : ExchangesParts keywords more rest) :
    ExchangesParts keywords (tokens ++ more) (others ++ rest) := by
  induction h with
  | nil => exact h'
  | same _ ih => exact .same ih
  | part accepted accepted' equivalent _ ih =>
      rw [List.append_assoc, List.append_assoc]
      exact .part accepted accepted' equivalent ih

/-- Two blocks that are open at the same place, with exchanged parts in their bodies. -/
structure OpenBlock.Exchanged (keywords : Keywords) (block other : OpenBlock) : Prop where
  family : other.family = block.family
  opener : other.opener = block.opener
  branch : other.branch = block.branch
  depth : other.depth = block.depth
  inside : 0 < block.depth
  branches : List.Forall₂
    (fun part part' => part'.1 = part.1 ∧ ExchangesParts keywords part.2 part'.2)
    block.branches other.branches
  body : ExchangesParts keywords block.body other.body

/-- Two assemblies with equivalent nodes, and with exchanged parts in the block that is open. -/
structure Assembly.Exchanged (keywords : Keywords) (state other : Assembly) : Prop where
  nodes : Node.Equivalent state.nodes other.nodes
  block : Option.Rel (OpenBlock.Exchanged keywords) state.block other.block

/-- Two moves of the same kind. -/
inductive Assembly.Move.Exchanged (keywords : Keywords) : Move → Move → Prop
  | proceed {next next'} (h : Assembly.Exchanged keywords next next') :
      Exchanged keywords (.proceed next) (.proceed next')
  | close {block block'} (h : OpenBlock.Exchanged keywords block block') :
      Exchanged keywords (.close block) (.close block')

/-! ### Blocks -/

namespace OpenBlock

variable {block other : OpenBlock} {token : Token} {keyword : Keyword} {family : Family}

theorem Exchanged.start : Exchanged keywords (start family token) (start family token) :=
  ⟨rfl, rfl, rfl, rfl, Nat.one_pos, .nil, .nil⟩

theorem Exchanged.push (h : Exchanged keywords block other) (token : Token) :
    Exchanged keywords (block.push token) (other.push token) :=
  { h with body := h.body.append (.same .nil) }

/-- Inside of a nested block the depth is all that is looked at, and it is the same in both blocks.
-/
theorem Exchanged.keep (h : Exchanged keywords block other) (token : Token) {depth : Nat}
    (inside : 0 < depth) : Exchanged keywords (block.keep token depth) (other.keep token depth) :=
  { h.push token with depth := rfl, inside }

theorem Exchanged.finishBranch (h : Exchanged keywords block other) :
    Exchanged keywords block.finishBranch other.finishBranch := by
  obtain ⟨family, opener, branch, depth, branches, body⟩ := block
  obtain ⟨family', opener', branch', depth', branches', body'⟩ := other
  obtain ⟨hfamily, hopener, rfl, hdepth, inside, hbranches, hbody⟩ := h
  cases branch' with
  | none => exact ⟨hfamily, hopener, rfl, hdepth, inside, hbranches, hbody⟩
  | some token =>
      exact ⟨hfamily, hopener, rfl, hdepth, inside,
        List.rel_append hbranches (.cons ⟨rfl, hbody⟩ .nil), .nil⟩

theorem Exchanged.enterBranch (h : Exchanged keywords block other) :
    Exchanged keywords (block.enterBranch token) (other.enterBranch token) :=
  { h.finishBranch with branch := rfl }

/-- Which branch a block is in does not depend on what is exchanged. -/
theorem Exchanged.isInBranch (h : Exchanged keywords block other) :
    other.isInBranch = block.isInBranch := by
  funext word
  rw [OpenBlock.isInBranch, OpenBlock.isInBranch, h.branch]

theorem Exchanged.openBranch (h : Exchanged keywords block other) :
    BothEnd Eq (Exchanged keywords) (block.openBranch keywords keyword token)
      (other.openBranch keywords keyword token) := by
  rw [OpenBlock.openBranch, OpenBlock.openBranch, h.family, h.isInBranch]
  split
  · exact .ok h.enterBranch
  · split <;> exact .error rfl

/-- The parts that two such blocks are divided into go in pairs, and what is exchanged stays within
one part. -/
theorem Exchanged.parts (h : Exchanged keywords block other) :
    List.Forall₂ (fun part part' => part'.1 = part.1 ∧ ExchangesParts keywords part.2 part'.2)
        (block.parts keywords).1 (other.parts keywords).1
      ∧ Option.Rel (ExchangesParts keywords) (block.parts keywords).2
        (other.parts keywords).2 := by
  unfold OpenBlock.parts
  rw [h.family, h.isInBranch]
  cases block.family with
  | conditional =>
      dsimp only
      split
      · exact ⟨h.branches, .some h.body⟩
      · exact ⟨h.finishBranch.branches, .none⟩
  | iteration => exact ⟨.nil, .some h.body⟩
  | switch =>
      dsimp only
      split
      · exact ⟨h.finishBranch.branches, .none⟩
      · exact ⟨h.branches, .some h.body⟩

/-- What a block is built from is no longer than what it keeps. -/
theorem length_le_of_parts (keywords : Keywords) (block : OpenBlock) :
    (∀ part ∈ (block.parts keywords).1, part.2.length ≤ block.kept)
      ∧ ∀ body ∈ (block.parts keywords).2, body.length ≤ block.kept := by
  have hbody : block.body.length ≤ block.kept := by simp [kept]
  have hbranches : ∀ part ∈ block.branches, part.2.length ≤ block.kept :=
    fun part hpart => length_le_kept (List.mem_append_left _ hpart)
  have hfinished : ∀ part ∈ block.finishBranch.branches, part.2.length ≤ block.kept :=
    fun part hpart => length_le_kept (by rwa [branches_finishBranch] at hpart)
  unfold OpenBlock.parts
  cases block.family with
  | conditional =>
      dsimp only
      split
      · exact ⟨hbranches, fun body h => Option.some.inj h ▸ hbody⟩
      · exact ⟨hfinished, by simp⟩
  | iteration => exact ⟨by simp, fun body h => Option.some.inj h ▸ hbody⟩
  | switch =>
      dsimp only
      split
      · exact ⟨hfinished, by simp⟩
      · exact ⟨hbranches, fun body h => Option.some.inj h ▸ hbody⟩

/-- Blocks with exchanged parts are built to equivalent nodes, if their bodies are assembled to
equivalent trees. -/
theorem Exchanged.build (h : Exchanged keywords block other)
    {assemble : List Token → Except StatementError (List Node)}
    (bodies : ∀ body body', body.length ≤ block.kept → ExchangesParts keywords body body' →
      BothEnd Eq Node.Equivalent (assemble body) (assemble body')) :
    BothEnd Eq (fun node node' => Node.Equivalent [node] [node'])
      (block.build keywords assemble) (other.build keywords assemble) := by
  obtain ⟨hbranches, hlast⟩ := h.parts
  obtain ⟨short, short'⟩ := length_le_of_parts keywords block
  -- The bodies are shorter than the block, so what is known of shorter lists applies to each.
  have branches : BothEnd Eq Node.AreEquivalent
      ((block.parts keywords).1.mapM fun part => do
        return (Script.prepare part.1.value, ← assemble part.2))
      ((other.parts keywords).1.mapM fun part => do
        return (Script.prepare part.1.value, ← assemble part.2)) := by
    refine BothEnd.mapM ((List.forall₂_and_left _ _).2 ⟨short, hbranches⟩) ?_
    rintro part part' ⟨hlength, hstatement, hbody⟩
    refine (bodies _ _ hlength hbody).bind fun tree tree' htree => ?_
    rw [hstatement]
    exact .ok ⟨rfl, htree⟩
  have last : BothEnd Eq (Option.Rel Node.Equivalent)
      ((block.parts keywords).2.mapM assemble) ((other.parts keywords).2.mapM assemble) := by
    generalize (block.parts keywords).2 = body? at hlast short' ⊢
    generalize (other.parts keywords).2 = body?' at hlast ⊢
    cases hlast with
    | none => exact .ok .none
    | some hbody =>
        rw [Option.mapM_some, Option.mapM_some]
        exact (bodies _ _ (short' _ rfl) hbody).map fun _ _ => .some
  have header : other.header = block.header := by
    rw [OpenBlock.header, OpenBlock.header, h.opener]
  unfold OpenBlock.build
  rw [h.family]
  cases block.family with
  | conditional =>
      refine last.bind fun otherwise otherwise' hotherwise => ?_
      refine branches.bind fun trees trees' htrees => ?_
      exact .ok (Node.equivalent_conditional htrees hotherwise)
  | iteration =>
      dsimp only
      rw [header]
      cases block.header with
      | error error => exact .error rfl
      | ok header =>
          have hbody : block.body.length ≤ block.kept := by simp [kept]
          exact (bodies _ _ hbody h.body).bind fun tree tree' htree =>
            .ok (Node.equivalent_iteration _ htree)
  | switch =>
      refine last.bind fun otherwise otherwise' hotherwise => ?_
      refine branches.bind fun trees trees' htrees => ?_
      rw [h.opener]
      exact .ok (Node.equivalent_switch _ htrees hotherwise)

end OpenBlock

/-! ### Moves -/

namespace Assembly

variable {state other : Assembly} {block block' : OpenBlock} {token : Token} {keyword : Keyword}
variable {nodes nodes' : List Node}

/-- One token inside of an open block. The nodes before the block only have to be equivalent. -/
theorem exchanged_moveInBlock (hnodes : Node.Equivalent nodes nodes')
    (h : OpenBlock.Exchanged keywords block block') :
    BothEnd Eq (Move.Exchanged keywords) (moveInBlock keywords nodes block keyword token)
      (moveInBlock keywords nodes' block' keyword token) := by
  have keep {depth : Nat} (inside : 0 < depth) : Move.Exchanged keywords
      (.proceed ⟨nodes, some (block.keep token depth)⟩)
      (.proceed ⟨nodes', some (block'.keep token depth)⟩) :=
    .proceed ⟨hnodes, .some (h.keep token inside)⟩
  have push : Move.Exchanged keywords (.proceed ⟨nodes, some (block.push token)⟩)
      (.proceed ⟨nodes', some (block'.push token)⟩) :=
    .proceed ⟨hnodes, .some (h.push token)⟩
  unfold moveInBlock
  rw [h.family, h.depth]
  split_ifs
  · exact .ok push
  · exact .ok (keep (Nat.succ_pos _))
  · exact .ok (keep (by omega))
  · exact .ok push
  · exact .ok (.close h)
  · exact h.openBranch.map fun next next' hnext => .proceed ⟨hnodes, .some hnext⟩

/-- **One token** does the same to assemblies with exchanged parts. -/
theorem Exchanged.move (h : Exchanged keywords state other) :
    BothEnd Eq (Move.Exchanged keywords) (move keywords state token)
      (move keywords other token) := by
  obtain ⟨nodes, block?⟩ := state
  obtain ⟨nodes', block?'⟩ := other
  obtain ⟨hnodes, hblock⟩ := h
  cases kind : token.kind with
  | text | expression =>
      cases hblock with
      | none =>
          simp only [Assembly.move, kind]
          exact .ok (.proceed ⟨hnodes.append (.refl _), .none⟩)
      | some related =>
          simp only [Assembly.move, kind]
          exact .ok (.proceed ⟨hnodes, .some (related.push token)⟩)
  | statement name =>
      cases hlook : keywords.lookup? name with
      | none =>
          simp only [Assembly.move, kind, hlook]
          exact .error rfl
      | some keyword =>
          cases hblock with
          | none =>
              simp only [Assembly.move, kind, hlook]
              split
              · exact .ok (.proceed ⟨hnodes, .some .start⟩)
              · exact .error rfl
          | some related =>
              simp only [Assembly.move, kind, hlook]
              exact exchanged_moveInBlock hnodes related

/-! ### Runs -/

/-- All lists of fewer than `size` tokens may exchange parts. -/
def MayExchange (keywords : Keywords) (size : Nat) : Prop :=
  ∀ body body', body.length < size → ExchangesParts keywords body body' →
    BothEnd Eq Node.Equivalent (assemble keywords body) (assemble keywords body')

/-- **One step.** The block that it closes was pending, so its bodies are short. -/
theorem Exchanged.step {size : Nat} (shorter : MayExchange keywords size)
    (h : Exchanged keywords state other) (hsize : state.pending ≤ size) :
    BothEnd Eq (fun next next' => Exchanged keywords next next' ∧ next.pending ≤ state.pending + 1)
      (step keywords (OpenBlock.build keywords (assemble keywords)) state token)
      (step keywords (OpenBlock.build keywords (assemble keywords)) other token) := by
  have hmove : BothEnd Eq (Move.Exchanged keywords) (Assembly.move keywords state token)
      (Assembly.move keywords other token) := h.move
  generalize hfound : Assembly.move keywords state token = found at hmove
  generalize hfound' : Assembly.move keywords other token = found' at hmove
  cases hmove with
  | error same =>
      rw [Assembly.step, Assembly.step, hfound, hfound']
      exact .error same
  | ok related =>
      cases related with
      | proceed hnext =>
          rcases move_pending hfound with ⟨block, hclose, -⟩ | ⟨next, hproceed, hpending⟩
          · cases hclose
          · cases hproceed
            rw [step_of_proceed hfound, step_of_proceed hfound']
            exact .ok ⟨hnext, hpending⟩
      | @close block block' hblock =>
          -- The block that is closed is the open one, so its bodies are shorter than what is
          -- pending.
          rcases move_pending hfound with ⟨closed, hclose, hopen⟩ | ⟨next, hproceed, -⟩
          · cases hclose
            have hpending : state.pending = block.kept + 1 := by rw [pending, hopen]
            rw [step_of_close hfound, step_of_close hfound']
            refine (hblock.build fun body body' hbody => ?_).map fun node node' hnode => ?_
            · exact shorter body body' (by omega)
            · exact ⟨⟨h.nodes.append hnode, .none⟩, Nat.zero_le _⟩
          · cases hproceed

/-- An accepted part outside of blocks adds its nodes. -/
theorem run_part_outside (valid : keywords.fault? = none) {part : List Token} {found : List Node}
    (accepted : assemble keywords part = .ok found) :
    run keywords (OpenBlock.build keywords (assemble keywords)) ⟨nodes, none⟩ part
      = .ok ⟨nodes ++ found, none⟩ := by
  have adds : Adds keywords part found := (derives_of_assemble valid accepted).assembles valid
  exact adds nodes

/-- Inside of a block it is kept. -/
theorem run_part_inside (valid : keywords.fault? = none) {part : List Token} {found : List Node}
    (accepted : assemble keywords part = .ok found) (inside : 0 < block.depth) :
    run keywords (OpenBlock.build keywords (assemble keywords)) ⟨nodes, some block⟩ part
      = .ok ⟨nodes, some { block with body := block.body ++ part }⟩ := by
  have quiet := (derives_of_assemble valid accepted).isQuiet valid block.family
  obtain ⟨depth, hdepth⟩ : ∃ depth, block.depth = depth + 1 := ⟨block.depth - 1, by omega⟩
  rw [run_kept nodes _ quiet.known hdepth (quiet.closed.depthAfter depth), ← hdepth]

/-- **A whole run.** -/
theorem Exchanged.run (valid : keywords.fault? = none) {size : Nat}
    (shorter : MayExchange keywords size) {tokens others : List Token}
    (htokens : ExchangesParts keywords tokens others) (h : Exchanged keywords state other)
    (hsize : state.pending + tokens.length ≤ size) :
    BothEnd Eq (Exchanged keywords)
      (run keywords (OpenBlock.build keywords (assemble keywords)) state tokens)
      (run keywords (OpenBlock.build keywords (assemble keywords)) other others) := by
  induction htokens generalizing state other with
  | nil => exact .ok h
  | @same token tokens others _ ih =>
      rw [List.length_cons] at hsize
      rw [run_cons, run_cons]
      refine (h.step shorter (by omega)).bind fun next next' hnext => ?_
      exact ih hnext.1 (by have := hnext.2; omega)
  | @part part part' found found' tokens others accepted accepted' equivalent _ ih =>
      -- A part that assembles by itself adds its nodes outside of blocks, and stands in the body of
      -- an open one.
      obtain ⟨nodes, block?⟩ := state
      obtain ⟨nodes', block?'⟩ := other
      obtain ⟨hnodes, hblock⟩ := h
      rw [List.length_append] at hsize
      cases hblock with
      | none =>
          rw [run_append_of_ok (run_part_outside valid accepted),
            run_append_of_ok (run_part_outside valid accepted')]
          refine ih ⟨hnodes.append equivalent, .none⟩ ?_
          simp only [pending] at hsize ⊢
          omega
      | @some block block' hblock =>
          have inside' : 0 < block'.depth := hblock.depth ▸ hblock.inside
          rw [run_append_of_ok (run_part_inside valid accepted hblock.inside),
            run_append_of_ok (run_part_inside valid accepted' inside')]
          have hbody : ExchangesParts keywords (block.body ++ part) (block'.body ++ part') := by
            have hpart : ExchangesParts keywords (part ++ []) (part' ++ []) :=
              .part accepted accepted' equivalent .nil
            rw [List.append_nil, List.append_nil] at hpart
            exact hblock.body.append hpart
          refine ih ⟨hnodes, .some { hblock with body := hbody }⟩ ?_
          simp only [pending, OpenBlock.kept, List.length_append] at hsize ⊢
          omega

/-- At the end of the text both runs have a block open, or none. -/
theorem Exchanged.finish (h : Exchanged keywords state other) :
    BothEnd Eq Node.Equivalent (state.finish keywords) (other.finish keywords) := by
  obtain ⟨nodes, block?⟩ := state
  obtain ⟨nodes', block?'⟩ := other
  obtain ⟨hnodes, hblock⟩ := h
  cases hblock with
  | none => exact .ok hnodes
  | some hblock =>
      rw [Assembly.finish, Assembly.finish]
      simp only [hblock.family, hblock.opener]
      exact .error rfl

end Assembly

/-- **Parts with equivalent trees may be exchanged.** The lists are refused with one error, or they
have equivalent trees. The recursion is on the number of tokens of the first one. -/
theorem assemble_exchangesParts (valid : keywords.fault? = none) {tokens others : List Token}
    (h : ExchangesParts keywords tokens others) :
    BothEnd Eq Node.Equivalent (assemble keywords tokens) (assemble keywords others) := by
  have below : ∀ size, Assembly.MayExchange keywords size := by
    intro size
    induction size with
    | zero => exact fun body body' hsize => absurd hsize (Nat.not_lt_zero _)
    | succ size ih =>
        intro body body' hsize hbody
        have start : Assembly.Exchanged keywords {} {} := ⟨.refl [], .none⟩
        have hpending : Assembly.pending {} + body.length ≤ size := by
          show 0 + body.length ≤ size
          omega
        rw [assemble_eq, assemble_eq]
        exact (start.run valid ih hbody hpending).bind fun state state' hstate => hstate.finish
  exact below _ tokens others (Nat.lt_succ_self _) h

/-- Two lists of tokens are both accepted, with equivalent trees, and either may stand for the other
wherever it stands. -/
structure AreInterchangeable (keywords : Keywords) (tokens others : List Token) : Prop where
  alone : ∃ nodes nodes', assemble keywords tokens = .ok nodes ∧ assemble keywords others = .ok nodes'
    ∧ Node.Equivalent nodes nodes'
  within (before after : List Token) : BothEnd Eq Node.Equivalent
    (assemble keywords (before ++ tokens ++ after)) (assemble keywords (before ++ others ++ after))

/-- Two lists that can be exchanged by themselves can be exchanged anywhere. -/
theorem areInterchangeable_of_equivalent (valid : keywords.fault? = none) {tokens others : List Token}
    {nodes nodes' : List Node} (accepted : assemble keywords tokens = .ok nodes)
    (accepted' : assemble keywords others = .ok nodes') (equivalent : Node.Equivalent nodes nodes') :
    AreInterchangeable keywords tokens others where
  alone := ⟨nodes, nodes', accepted, accepted', equivalent⟩
  within before after := by
    rw [List.append_assoc, List.append_assoc]
    refine assemble_exchangesParts valid ((ExchangesParts.refl before).append ?_)
    exact .part accepted accepted' equivalent (.refl after)

end Stencil
