import Stencil.Proofs.Block.Build
import Stencil.Proofs.Block.Grammar
import Stencil.Proofs.Block.Induction

/-!
# Assembled trees are derived

Every piece of a list of tokens derives what it is assembled to. For a block this is so because its
bodies derive their trees (`Collects.derives`); induction along the assembly does the rest.
-/

namespace Stencil

variable {keywords : Keywords}

/-- A way to assemble bodies that finds only derived trees, for bodies of fewer than `size`
tokens. -/
def IsSound (keywords : Keywords) (assemble : List Token → Except StatementError (List Node))
    (size : Nat) : Prop :=
  ∀ tokens nodes, tokens.length < size → assemble tokens = .ok nodes →
    Derives keywords tokens (.items nodes)

namespace OpenBlock

variable {assemble : List Token → Except StatementError (List Node)} {size : Nat}
variable {runs : List (Token × List Token)} {trees : List (Text × List Node)} {keyword : Keyword}
variable {block : OpenBlock} {tokens : List Token} {closer : Token} {node : Node}
variable {final : Option (Token × List Token)} {otherwise : Option (List Node)}

/-! ### Branches -/

/-- Branches that become trees one by one derive a list of branches. The size keeps the induction on
shorter lists going. -/
theorem derives_branches (sound : IsSound keywords assemble size)
    (hsize : ∀ run ∈ runs, run.2.length < size)
    (begins : ∀ run ∈ runs, run.1.Spells keywords keyword)
    (h : List.Forall₂ (Becomes assemble) runs trees) :
    Derives keywords (spread runs) (.branches keyword trees) := by
  induction h with
  | nil => exact .noBranch
  | @cons run tree runs trees head _ ih =>
      obtain ⟨source, body⟩ := tree
      obtain ⟨rfl, hbody⟩ := head
      rw [spread_cons]
      exact .branch (begins run (by simp)) (sound _ _ (hsize run (by simp)) hbody)
        (ih (fun run hrun => hsize run (by simp [hrun])) fun run hrun => begins run (by simp [hrun]))

theorem derives_last (sound : IsSound keywords assemble size)
    (hsize : ∀ run ∈ final, run.2.length < size)
    (begins : ∀ run ∈ final, run.1.Spells keywords keyword)
    (h : (final.map (·.2)).mapM assemble = .ok otherwise) :
    Derives keywords (spread final.toList) (.last keyword otherwise) := by
  cases final with
  | none =>
      cases h
      exact .noLast
  | some run =>
      obtain ⟨tree, htree, rfl⟩ := map_eq_ok_iff.1 h
      have := Derives.last (begins run rfl) (sound _ _ (hsize run rfl) htree)
      simpa using this

/-! ### Blocks -/

variable {lead : List Token} {done : List (Token × List Token)} {run : Token × List Token}

/-- What a block has collected is shorter than all that it has kept. -/
theorem LaidOut.length_lt (laid : block.LaidOut lead runs) :
    ∀ part ∈ attach block.opener lead block.family runs, part.2.length < block.kept + 1 :=
  fun _ hpart => Nat.lt_succ_of_le (length_le_kept (laid.sections ▸ hpart))

/-- A conditional that is built was laid out as the rule for conditionals has it. The next four
lemmas do the same for the other rules. -/
theorem LaidOut.derives_conditional (valid : keywords.fault? = none)
    (laid : block.LaidOut lead (done ++ final.toList)) (hfamily : block.family = .conditional)
    (opens : block.opener.Spells keywords .if_)
    (hdone : ∀ run ∈ done, run.1.Spells keywords .elseif)
    (hfinal : ∀ run ∈ final, run.1.Spells keywords .else_) (closes : closer.Spells keywords .endif)
    (sound : IsSound keywords assemble (block.kept + 1))
    (hbuild : block.build keywords assemble = .ok node) :
    Derives keywords (block.opener :: lead ++ spread (done ++ final.toList) ++ [closer])
      (.items [node]) := by
  have hsize := laid.length_lt
  rw [hfamily] at hsize
  have hparts := laid.parts_conditional valid hfamily opens hdone hfinal
  obtain ⟨otherwise, trees, hlast, htrees, rfl⟩ := (build_conditional hfamily hparts).1 hbuild
  cases htrees with
  | @cons _ tree _ trees head rest =>
      obtain ⟨source, body⟩ := tree
      obtain ⟨rfl, hbody⟩ := head
      have hlead := sound _ _ (hsize (block.opener, lead) (by simp [attach])) hbody
      have middle := derives_branches sound
        (fun run hrun => hsize run (by simp [attach, hrun])) hdone rest
      have tail := derives_last sound
        (fun run hrun => hsize run (by simp [attach, Option.mem_toList.2 hrun])) hfinal hlast
      simpa using Derives.conditional opens hlead middle tail closes .nil

theorem LaidOut.derives_iteration (laid : block.LaidOut lead [])
    (hfamily : block.family = .iteration) (opens : block.opener.Spells keywords .foreach)
    (closes : closer.Spells keywords .endforeach)
    (sound : IsSound keywords assemble (block.kept + 1))
    (hbuild : block.build keywords assemble = .ok node) :
    Derives keywords (block.opener :: lead ++ [closer]) (.items [node]) := by
  obtain ⟨header, tree, hheader, htree, rfl⟩ := (build_iteration hfamily).1 hbuild
  have hbody : block.body = lead := congrArg OpenBlock.body (laid.plain rfl)
  have hinner := sound _ _ (Nat.lt_succ_of_le (by simp [kept])) htree
  rw [hbody] at hinner
  exact Derives.iteration opens hheader hinner closes .nil

theorem LaidOut.derives_switch_plain (laid : block.LaidOut lead [])
    (hfamily : block.family = .switch) (opens : block.opener.Spells keywords .switch)
    (closes : closer.Spells keywords .endswitch)
    (sound : IsSound keywords assemble (block.kept + 1))
    (hbuild : block.build keywords assemble = .ok node) :
    Derives keywords (block.opener :: lead ++ [closer]) (.items [node]) := by
  obtain ⟨otherwise, trees, hlast, htrees, rfl⟩ :=
    (build_switch hfamily (laid.parts_switch_plain hfamily)).1 hbuild
  cases htrees
  obtain ⟨tree, htree, rfl⟩ := map_eq_ok_iff.1 hlast
  have hbody : block.body = lead := congrArg OpenBlock.body (laid.plain rfl)
  have hinner := sound _ _ (Nat.lt_succ_of_le (by simp [kept, hbody])) htree
  exact Derives.switch opens hinner closes .nil

/-- The default takes in what stands between the opener and it, which the rule allows for closed
tokens. -/
theorem LaidOut.derives_switch_default (valid : keywords.fault? = none)
    (laid : block.LaidOut lead [run]) (hfamily : block.family = .switch)
    (opens : block.opener.Spells keywords .switch) (closed : Family.switch.IsClosed keywords lead)
    (begins : run.1.Spells keywords .default) (closes : closer.Spells keywords .endswitch)
    (sound : IsSound keywords assemble (block.kept + 1))
    (hbuild : block.build keywords assemble = .ok node) :
    Derives keywords (block.opener :: lead ++ spread [run] ++ [closer]) (.items [node]) := by
  have hsize := laid.length_lt
  rw [hfamily] at hsize
  obtain ⟨otherwise, trees, hlast, htrees, rfl⟩ :=
    (build_switch hfamily (laid.parts_switch_default valid hfamily begins)).1 hbuild
  cases htrees
  obtain ⟨tree, htree, rfl⟩ := map_eq_ok_iff.1 hlast
  have hinner := sound _ _ (hsize (run.1, lead ++ run.2) (by simp [attach])) htree
  simpa using Derives.switchDefault opens closed begins hinner closes .nil

/-- The first `case` takes in what stands in front of it, as above; the others are branches like
those of a conditional. -/
theorem LaidOut.derives_switch_cases (valid : keywords.fault? = none)
    (laid : block.LaidOut lead (run :: done ++ final.toList)) (hfamily : block.family = .switch)
    (opens : block.opener.Spells keywords .switch) (closed : Family.switch.IsClosed keywords lead)
    (hdone : ∀ case ∈ run :: done, case.1.Spells keywords .case)
    (hfinal : ∀ run ∈ final, run.1.Spells keywords .default)
    (closes : closer.Spells keywords .endswitch) (sound : IsSound keywords assemble (block.kept + 1))
    (hbuild : block.build keywords assemble = .ok node) :
    Derives keywords (block.opener :: lead ++ spread (run :: done ++ final.toList) ++ [closer])
      (.items [node]) := by
  have hsize := laid.length_lt
  rw [hfamily] at hsize
  have hparts := laid.parts_switch_cases valid hfamily hdone hfinal
  obtain ⟨otherwise, trees, hlast, htrees, rfl⟩ := (build_switch hfamily hparts).1 hbuild
  cases htrees with
  | @cons _ tree _ trees head rest =>
      obtain ⟨source, body⟩ := tree
      obtain ⟨rfl, hbody⟩ := head
      have hfirst := sound _ _ (hsize (run.1, lead ++ run.2) (by simp [attach])) hbody
      have middle := derives_branches sound
        (fun run hrun => hsize run (by simp [attach, hrun]))
        (fun run hrun => hdone run (by simp [hrun])) rest
      have tail := derives_last sound
        (fun run hrun => hsize run (by simp [attach, Option.mem_toList.2 hrun])) hfinal hlast
      simpa using Derives.switchCases opens closed (hdone run (by simp)) hfirst middle tail closes
        .nil

/-- **A built block** is derived from its tokens, if its bodies are. -/
theorem Collects.derives (valid : keywords.fault? = none) (h : Collects keywords block tokens)
    (hdepth : block.depth = 1) (closes : closer.Spells keywords block.family.closer)
    (sound : IsSound keywords assemble (block.kept + 1))
    (hbuild : block.build keywords assemble = .ok node) :
    Derives keywords (tokens ++ [closer]) (.items [node]) := by
  have opens := h.opens
  obtain ⟨lead, done, final, rfl, laid, hdone, hfinal, hlead⟩ := h.layout
  cases hfamily : block.family with
  | conditional =>
      rw [hfamily] at opens closes hdone hfinal
      simp only [Token.begins_conditional] at hdone hfinal
      exact laid.derives_conditional valid hfamily opens hdone hfinal closes sound hbuild
  | iteration =>
      -- There is nothing but the lead.
      rw [hfamily] at opens closes hdone hfinal
      obtain ⟨rfl, rfl⟩ := Token.runs_eq_nil_of_iteration hdone hfinal
      simpa using laid.derives_iteration hfamily opens closes sound hbuild
  | switch =>
      rw [hfamily] at opens closes hdone hfinal hlead
      simp only [Token.begins_switch] at hdone hfinal
      have closed : Family.switch.IsClosed keywords lead := by
        rw [hdepth, Nat.sub_self, ite_self] at hlead
        exact hlead
      cases done with
      | nil =>
          cases final with
          | none => simpa using laid.derives_switch_plain hfamily opens closes sound hbuild
          | some run =>
              exact laid.derives_switch_default valid hfamily opens closed (hfinal run rfl) closes
                sound hbuild
      | cons run done =>
          exact laid.derives_switch_cases valid hfamily opens closed hdone hfinal closes sound hbuild

end OpenBlock

/-- Derivation passes from the pieces of a list of tokens to the whole list. -/
theorem isCompositional_derives (valid : keywords.fault? = none) :
    IsCompositional keywords fun tokens nodes => Derives keywords tokens (.items nodes) where
  nil := .nil
  append := Derives.append
  text kind := .text kind .nil
  expression kind := .expression kind .nil
  block collects outer closes built bodies := by
    refine collects.derives valid outer closes ?_ built
    intro body nodes hsize
    exact bodies body nodes (Nat.le_of_lt_succ hsize)

/-- **Soundness.** The tree that tokens are assembled to is derived from them. -/
theorem derives_of_assemble (valid : keywords.fault? = none) {tokens : List Token}
    {nodes : List Node} (h : assemble keywords tokens = .ok nodes) :
    Derives keywords tokens (.items nodes) :=
  assemble_induction (isCompositional_derives valid) h

end Stencil
