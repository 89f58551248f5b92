import Stencil.Proofs.Block.Collect

/-!
# Induction along an assembly

An accepted list of tokens is made of pieces: texts, expressions, and blocks, each with its closing
behind it. What holds of the empty list, of every piece and of lists put one behind the other holds
of every accepted list and its tree (`assemble_induction`). For a block it may be taken for granted
of the bodies that the block keeps, since these are shorter lists.

`Assembly.Holds` is the invariant behind the principle. One step preserves it and so does a run; the
keywords need not be valid.
-/

namespace Stencil

/-- A statement about lists of tokens and their trees that the pieces of a list pass on to the whole
list. -/
structure IsCompositional (keywords : Keywords) (motive : List Token → List Node → Prop) :
    Prop where
  nil : motive [] []
  append {tokens more nodes others} (first : motive tokens nodes) (second : motive more others) :
    motive (tokens ++ more) (nodes ++ others)
  text {token} (kind : token.kind = .text) : motive [token] [.text token.value]
  expression {token} (kind : token.kind = .expression) :
    motive [token] [.expression (Script.prepare token.value)]
  block {block tokens closer node} (collects : OpenBlock.Collects keywords block tokens)
    (outer : block.depth = 1) (closes : closer.Spells keywords block.family.closer)
    (built : block.build keywords (assemble keywords) = .ok node)
    (bodies : ∀ body nodes, body.length ≤ block.kept → assemble keywords body = .ok nodes →
      motive body nodes) :
    motive (tokens ++ [closer]) [node]

variable {keywords : Keywords} {motive : List Token → List Node → Prop}

namespace OpenBlock

variable {block : OpenBlock} {tokens : List Token}

/-- What a block keeps is less than what it has collected. -/
theorem Collects.kept_lt (h : Collects keywords block tokens) : block.kept < tokens.length := by
  induction h with
  | leading => simp [OpenBlock.leading, OpenBlock.start, kept]
  | @inBranch block tokens token inner role depth _ _ _ _ _ _ ih =>
      have hbranch : (block.enterBranch token).kept = block.kept := kept_enterBranch
      have : (block.inBranch token inner (depth + 1)).kept = block.kept + inner.length := by
        rw [← hbranch]
        simp [OpenBlock.inBranch, kept, Nat.add_assoc]
      rw [this, List.length_append, List.length_cons]
      omega

end OpenBlock

namespace Assembly

variable {state next : Assembly} {tokens more : List Token} {token : Token} {nodes : List Node}
variable {size : Nat}

/-- The statement holds of the nodes so far and the tokens before the open block, and the block has
collected the other tokens. -/
def Holds (keywords : Keywords) (motive : List Token → List Node → Prop) (state : Assembly)
    (tokens : List Token) : Prop :=
  match state.block with
  | none => motive tokens state.nodes
  | some block => ∃ before since, tokens = before ++ since ∧ motive before state.nodes
      ∧ block.Collects keywords since

/-- **One step** of an assembly. -/
theorem Holds.step (pieces : IsCompositional keywords motive)
    (h : state.Holds keywords motive tokens)
    (inner : ∀ body nodes, body.length < size → assemble keywords body = .ok nodes →
      motive body nodes)
    (hsize : tokens.length ≤ size)
    (hstep : step keywords (OpenBlock.build keywords (assemble keywords)) state token = .ok next) :
    next.Holds keywords motive (tokens ++ [token]) := by
  obtain ⟨move, hmove, hnext⟩ := bind_eq_ok_iff.1 hstep
  obtain ⟨nodes, block?⟩ := state
  cases block? with
  | none =>
      rcases move_outside hmove with ⟨kind, rfl⟩ | ⟨kind, rfl⟩ | ⟨family, opens, rfl⟩ <;>
        cases hnext
      · exact pieces.append h (pieces.text kind)
      · exact pieces.append h (pieces.expression kind)
      · exact ⟨tokens, [token], rfl, h, .start opens⟩
  | some block =>
      obtain ⟨before, since, rfl, hbefore, collects⟩ := h
      obtain ⟨depth, hdepth⟩ := collects.exists_depth
      rcases move_inside hdepth hmove with ⟨after, -, hkeep, rfl⟩ | ⟨rfl, closes, rfl⟩ |
        ⟨keyword, rfl, hfamily, hrole, spells, open_, rfl⟩
      · cases hnext
        exact ⟨before, since ++ [token], by simp, hbefore, collects.keep hdepth hkeep⟩
      · obtain ⟨node, hbuild, hnode⟩ := bind_eq_ok_iff.1 hnext
        cases hnode
        -- The block keeps fewer tokens than were read, so its bodies are in reach of `inner`.
        have hkept := collects.kept_lt
        rw [List.length_append] at hsize
        have bodies : ∀ body nodes, body.length ≤ block.kept → assemble keywords body = .ok nodes →
            motive body nodes := fun body nodes hbody => inner body nodes (by omega)
        rw [List.append_assoc]
        exact pieces.append hbefore (pieces.block collects hdepth closes hbuild bodies)
      · cases hnext
        exact ⟨before, since ++ [token], by simp, hbefore,
          collects.enterBranch hdepth open_ ⟨keyword, hfamily, rfl, spells⟩ hrole⟩

/-- **A whole run** of an assembly. -/
theorem Holds.run (pieces : IsCompositional keywords motive)
    (h : state.Holds keywords motive tokens)
    (inner : ∀ body nodes, body.length < size → assemble keywords body = .ok nodes →
      motive body nodes)
    (hsize : (tokens ++ more).length ≤ size)
    (hrun : run keywords (OpenBlock.build keywords (assemble keywords)) state more = .ok next) :
    next.Holds keywords motive (tokens ++ more) := by
  induction more generalizing state tokens with
  | nil =>
      cases hrun
      rwa [List.append_nil]
  | cons token rest ih =>
      rw [run_cons] at hrun
      obtain ⟨mid, hstep, hrest⟩ := bind_eq_ok_iff.1 hrun
      rw [List.length_append] at hsize
      have hmid := h.step pieces inner (by omega) hstep
      have := ih hmid (by simpa using hsize) hrest
      rwa [List.append_assoc] at this

theorem Holds.finish (h : state.Holds keywords motive tokens)
    (hfinish : state.finish keywords = .ok nodes) : motive tokens nodes := by
  obtain ⟨found, block?⟩ := state
  cases block? with
  | none =>
      cases hfinish
      exact h
  | some block => cases hfinish

end Assembly

/-- **Induction along an assembly.** The recursion is on the number of tokens. -/
theorem assemble_induction (pieces : IsCompositional keywords motive) {tokens : List Token}
    {nodes : List Node} (h : assemble keywords tokens = .ok nodes) : motive tokens nodes := by
  have below : ∀ size, ∀ body found, body.length < size → assemble keywords body = .ok found →
      motive body found := by
    intro size
    induction size with
    | zero => exact fun body found hsize => absurd hsize (Nat.not_lt_zero _)
    | succ size ih =>
        intro body found hsize h
        rw [assemble_eq] at h
        obtain ⟨state, hrun, hfinish⟩ := bind_eq_ok_iff.1 h
        have start : ({} : Assembly).Holds keywords motive [] := pieces.nil
        exact (start.run pieces ih (Nat.le_of_lt_succ hsize) hrun).finish hfinish
  exact below _ tokens nodes (Nat.lt_succ_self _) h

end Stencil
