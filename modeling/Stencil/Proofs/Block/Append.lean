import Stencil.Proofs.Block.Levels

/-!
# Lists of tokens one behind the other

What has been assembled does not matter to what comes next, except for the block that is open. So an
assembly may go on behind any nodes (`step_behind`, `run_behind`), and an accepted list of tokens,
which leaves no block open, may be followed by any other (`assemble_append`): the other one decides
whether the whole is accepted, and with which error it is refused.
-/

namespace Stencil

variable {keywords : Keywords} {before : List Node} {tokens more : List Token} {token : Token}

namespace Assembly

variable {state : Assembly} {build : OpenBlock → Except StatementError Node}

/-- The same assembly behind the nodes of another one. -/
def behind (before : List Node) (state : Assembly) : Assembly :=
  { state with nodes := before ++ state.nodes }

/-- The same move of an assembly behind the nodes of another one. -/
def Move.behind (before : List Node) : Move → Move
  | .proceed next => .proceed (next.behind before)
  | .close block => .close block

theorem moveInBlock_behind {nodes : List Node} {block : OpenBlock} {keyword : Keyword} :
    moveInBlock keywords (before ++ nodes) block keyword token
      = (moveInBlock keywords nodes block keyword token).map (Move.behind before) := by
  -- The checks look at the block and the token only; the nodes are just handed on.
  unfold moveInBlock
  split_ifs
  · rfl
  · rfl
  · rfl
  · rfl
  · rfl
  · cases block.openBranch keywords keyword token <;> rfl

/-- No token looks at the nodes that are finished already. -/
theorem move_behind :
    move keywords (state.behind before) token
      = (move keywords state token).map (Move.behind before) := by
  obtain ⟨nodes, block?⟩ := state
  have hbehind : behind before ⟨nodes, block?⟩ = ⟨before ++ nodes, block?⟩ := rfl
  rw [hbehind]
  cases kind : token.kind with
  | text | expression =>
      cases block? with
      | none =>
          simp only [move, kind, List.append_assoc]
          rfl
      | some block =>
          simp only [move, kind]
          rfl
  | statement name =>
      cases hlook : keywords.lookup? name with
      | none =>
          simp only [move, kind, hlook]
          rfl
      | some keyword =>
          cases block? with
          | none =>
              simp only [move, kind, hlook]
              split <;> rfl
          | some block =>
              simp only [move, kind, hlook]
              exact moveInBlock_behind

/-- **One step** behind other nodes. -/
theorem step_behind :
    step keywords build (state.behind before) token
      = (step keywords build state token).map (behind before) := by
  cases hmove : move keywords state token with
  | error error => simp [step, move_behind, hmove, Except.map, bind, Except.bind]
  | ok found =>
      have hbehind : move keywords (state.behind before) token = .ok (found.behind before) := by
        rw [move_behind, hmove]
        rfl
      cases found with
      | proceed next =>
          rw [step_of_proceed hmove, step_of_proceed hbehind]
          rfl
      | close block =>
          rw [step_of_close hmove, step_of_close hbehind]
          cases build block with
          | error error => rfl
          | ok node => simp [Except.map, behind]

/-- **A whole run** behind other nodes. -/
theorem run_behind :
    run keywords build (state.behind before) tokens
      = (run keywords build state tokens).map (behind before) := by
  induction tokens generalizing state with
  | nil => rfl
  | cons token rest ih =>
      rw [run_cons, run_cons, step_behind]
      cases step keywords build state token with
      | error error => rfl
      | ok next => exact ih

/-- At the end of accepted tokens no block is open. -/
theorem run_of_assemble {nodes : List Node} (h : assemble keywords tokens = .ok nodes) :
    run keywords (OpenBlock.build keywords (assemble keywords)) {} tokens = .ok ⟨nodes, none⟩ := by
  rw [assemble_eq] at h
  obtain ⟨⟨found, block?⟩, hrun, hfinish⟩ := bind_eq_ok_iff.1 h
  cases block? with
  | none =>
      cases hfinish
      exact hrun
  | some block => cases hfinish

/-- At the end nodes are only handed out, so those in front stay in front. -/
theorem finish_behind :
    (state.behind before).finish keywords = (state.finish keywords).map (before ++ ·) := by
  obtain ⟨nodes, block?⟩ := state
  cases block? <;> rfl

end Assembly

/-- **An accepted list of tokens may be followed by any other**: this one is assembled as if it stood
alone. -/
theorem assemble_append {nodes : List Node} (h : assemble keywords tokens = .ok nodes) :
    assemble keywords (tokens ++ more) = (assemble keywords more).map (nodes ++ ·) := by
  have hstart : (⟨nodes, none⟩ : Assembly) = Assembly.behind nodes {} := by simp [Assembly.behind]
  rw [assemble_eq, assemble_eq, Assembly.run_append_of_ok (Assembly.run_of_assemble h), hstart,
    Assembly.run_behind]
  cases Assembly.run keywords _ {} more with
  | error error => rfl
  | ok last => exact Assembly.finish_behind

end Stencil
