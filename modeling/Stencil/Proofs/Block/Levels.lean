import Stencil.Block.Assemble
import Stencil.Proofs.Block.Move
import Stencil.Proofs.Sequence

/-!
# Levels of an assembly

The bodies of a block are shorter than the tokens that make the block up, by at least its opening
and its closing. So no assembly gets to the end of its levels, and `assemble` satisfies the equation
that a recursion without levels would have (`assemble_eq`): run the tokens, and build every block
that closes with `assemble` itself.
-/

namespace Stencil

/-- The result of the tokens, from a state, with the closed blocks built by `build`. -/
def Assembly.run (keywords : Keywords) (build : OpenBlock → Except StatementError Node)
    (state : Assembly) (tokens : List Token) : Except StatementError Assembly :=
  tokens.foldlM (Assembly.step keywords build) state

namespace OpenBlock

/-- The number of tokens in the bodies of a block. -/
def kept (block : OpenBlock) : Nat :=
  (block.branches.flatMap (·.2) ++ block.body).length

variable {keywords : Keywords} {block : OpenBlock} {token : Token}

@[simp] theorem kept_start {family : Family} : (start family token).kept = 0 := rfl

@[simp] theorem kept_push : (block.push token).kept = block.kept + 1 := by
  simp [push, kept, Nat.add_assoc]

@[simp] theorem kept_keep {depth : Nat} : (block.keep token depth).kept = block.kept + 1 :=
  (kept_push : (block.push token).kept = _)

@[simp] theorem kept_enterBranch : (block.enterBranch token).kept = block.kept := by
  unfold enterBranch finishBranch kept
  cases block.branch <;> simp

/-- No section of a block holds more tokens than the block has kept, words of branches apart. -/
theorem length_le_kept {part : Token × List Token} (h : part ∈ block.sections) :
    part.2.length ≤ block.kept := by
  rw [kept, List.length_append]
  rcases List.mem_append.1 h with h | h
  · have hmem : part.2 ∈ block.branches.map (·.2) := List.mem_map_of_mem h
    exact Nat.le_add_right_of_le (List.sublist_flatten_of_mem hmem).length_le
  · obtain ⟨token, -, rfl⟩ := by simpa using h
    exact Nat.le_add_left ..

/-- Building a block looks only at the bodies that the block keeps. -/
theorem build_congr {f g : List Token → Except StatementError (List Node)}
    (h : ∀ tokens, tokens.length ≤ block.kept → f tokens = g tokens) :
    block.build keywords f = block.build keywords g := by
  have hbody : f block.body = g block.body := h _ (by simp [kept])
  have hparts : ∀ parts : List (Token × List Token), (∀ part ∈ parts, part ∈ block.sections) →
      (parts.mapM fun part => do return (Script.prepare part.1.value, ← f part.2))
        = parts.mapM fun part => do return (Script.prepare part.1.value, ← g part.2) :=
    fun parts hparts => mapM_congr fun part hpart => by
      rw [h part.2 (length_le_kept (hparts part hpart))]
  have hbranches : ∀ part ∈ block.branches, part ∈ block.sections :=
    fun part hpart => List.mem_append_left _ hpart
  have hfinished : ∀ part ∈ block.finishBranch.branches, part ∈ block.sections := by simp
  unfold build parts
  cases block.family with
  | conditional =>
      dsimp only
      split <;> simp only [Option.mapM_some, Option.mapM_none, hbody, hparts _ hbranches,
        hparts _ hfinished]
  | iteration => simp only [hbody]
  | switch =>
      dsimp only
      split <;> simp only [Option.mapM_some, Option.mapM_none, hbody, hparts _ hbranches,
        hparts _ hfinished]

end OpenBlock

namespace Assembly

/-- The number of tokens since the opening of the open block, the opening included. -/
def pending (state : Assembly) : Nat :=
  match state.block with
  | none => 0
  | some block => block.kept + 1

variable {keywords : Keywords} {state next : Assembly} {token : Token} {tokens more : List Token}
variable {build : OpenBlock → Except StatementError Node} {block : OpenBlock}

@[simp] theorem run_nil : run keywords build state [] = .ok state := rfl

theorem run_cons :
    run keywords build state (token :: tokens) =
      step keywords build state token >>= fun next => run keywords build next tokens :=
  List.foldlM_cons ..

theorem run_append :
    run keywords build state (tokens ++ more) =
      run keywords build state tokens >>= fun next => run keywords build next more :=
  List.foldlM_append ..

theorem run_append_of_ok (h : run keywords build state tokens = .ok next) :
    run keywords build state (tokens ++ more) = run keywords build next more := by
  rw [run_append, h]
  rfl

/-! ### Steps -/

theorem step_of_proceed (h : Assembly.move keywords state token = .ok (.proceed next)) :
    step keywords build state token = .ok next := by
  simp [step, h, bind, Except.bind, pure, Except.pure]

theorem step_of_close (h : Assembly.move keywords state token = .ok (.close block)) :
    step keywords build state token =
      (build block).map fun node => ⟨state.nodes ++ [node], none⟩ := by
  simp only [step, h, bind, Except.bind, pure, Except.pure]
  cases build block <;> rfl

/-- One token adds at most one to what an open block holds. A block that is closed is the one that
was open. -/
theorem moveInBlock_pending {nodes : List Node} {keyword : Keyword} {move : Move}
    (h : moveInBlock keywords nodes block keyword token = .ok move) :
    (∃ closed, move = .close closed ∧ some block = some closed)
      ∨ ∃ next, move = .proceed next ∧ next.pending ≤ pending ⟨nodes, some block⟩ + 1 := by
  have keep : ∀ depth, pending ⟨nodes, some (block.keep token depth)⟩
      ≤ pending ⟨nodes, some block⟩ + 1 := fun depth => by simp [pending]
  unfold moveInBlock at h
  split_ifs at h
  · exact .inr ⟨_, (Except.ok.inj h).symm, keep block.depth⟩
  · exact .inr ⟨_, (Except.ok.inj h).symm, keep (block.depth + 1)⟩
  · exact .inr ⟨_, (Except.ok.inj h).symm, keep (block.depth - 1)⟩
  · exact .inr ⟨_, (Except.ok.inj h).symm, keep block.depth⟩
  · exact .inl ⟨block, (Except.ok.inj h).symm, rfl⟩
  · obtain ⟨branch, hbranch, rfl⟩ := map_eq_ok_iff.1 h
    obtain ⟨-, rfl⟩ := OpenBlock.openBranch_eq_ok_iff.1 hbranch
    exact .inr ⟨_, rfl, by simp [pending]⟩

/-- A token closes the open block or adds at most itself to what is pending. -/
theorem move_pending {move : Move} (h : Assembly.move keywords state token = .ok move) :
    (∃ block, move = .close block ∧ state.block = some block)
      ∨ ∃ next, move = .proceed next ∧ next.pending ≤ state.pending + 1 := by
  obtain ⟨nodes, block?⟩ := state
  cases block? with
  | none =>
      rcases move_outside h with ⟨-, rfl⟩ | ⟨-, rfl⟩ | ⟨family, -, rfl⟩ <;>
        exact .inr ⟨_, rfl, by simp [pending]⟩
  | some block =>
      cases kind : token.kind with
      | text | expression =>
          simp only [Assembly.move, kind, Except.ok.injEq] at h
          exact .inr ⟨_, h.symm, by simp [pending]⟩
      | statement name =>
          simp only [Assembly.move, kind] at h
          cases hlook : keywords.lookup? name with
          | none => simp [hlook] at h
          | some keyword => exact moveInBlock_pending (by simpa [hlook] using h)

/-- Runs whose builds agree on the short lists that a closed block can hold have one result. -/
theorem run_congr {build other : OpenBlock → Except StatementError Node} {size : Nat}
    (h : ∀ block, block.kept + 2 ≤ size → build block = other block)
    (hsize : state.pending + tokens.length ≤ size) :
    run keywords build state tokens = run keywords other state tokens := by
  induction tokens generalizing state with
  | nil => rfl
  | cons token rest ih =>
      rw [List.length_cons] at hsize
      rw [run_cons, run_cons]
      cases hmove : Assembly.move keywords state token with
      | error error => simp [step, hmove, bind, Except.bind]
      | ok move =>
          rcases move_pending hmove with ⟨block, rfl, hblock⟩ | ⟨next, rfl, hnext⟩
          · -- All that the closed block keeps was pending, so the builds agree on it.
            have hpending : state.pending = block.kept + 1 := by rw [pending, hblock]
            rw [step_of_close hmove, step_of_close hmove, h block (by omega)]
            cases other block with
            | error error => rfl
            | ok node => exact ih (by simp only [pending]; omega)
          · rw [step_of_proceed hmove, step_of_proceed hmove]
            exact ih (by omega)

end Assembly

/-! ### Levels -/

variable {keywords : Keywords} {tokens : List Token}

/-- All numbers of levels greater than the number of tokens give the same tree. -/
theorem assembleWithin_eq {levels others : Nat} (h : tokens.length < levels)
    (h' : tokens.length < others) :
    assembleWithin keywords levels tokens = assembleWithin keywords others tokens := by
  induction levels generalizing tokens others with
  | zero => omega
  | succ levels ih =>
      obtain ⟨others, rfl⟩ := Nat.exists_eq_add_of_lt (Nat.zero_lt_of_lt h')
      rw [Nat.zero_add] at h' ⊢
      -- A body lacks the opening and the closing of its block, so one level less is enough for it.
      have inner : ∀ block : OpenBlock, block.kept + 2 ≤ tokens.length →
          block.build keywords (assembleWithin keywords levels)
            = block.build keywords (assembleWithin keywords others) :=
        fun block hkept => OpenBlock.build_congr fun body hbody => ih (by omega) (by omega)
      simp only [assembleWithin]
      rw [show tokens.foldlM _ {} = _ from Assembly.run_congr inner (by simp [Assembly.pending])]
      rfl

/-- The equation of `assemble` without levels. -/
theorem assemble_eq :
    assemble keywords tokens =
      Assembly.run keywords (OpenBlock.build keywords (assemble keywords)) {} tokens
        >>= Assembly.finish keywords := by
  have inner : ∀ block : OpenBlock, block.kept + 2 ≤ tokens.length →
      block.build keywords (assembleWithin keywords tokens.length)
        = block.build keywords (assemble keywords) :=
    fun block hkept => OpenBlock.build_congr fun body hbody =>
      assembleWithin_eq (by omega) (Nat.lt_succ_self _)
  rw [← Assembly.run_congr inner (by simp [Assembly.pending])]
  rfl

end Stencil
