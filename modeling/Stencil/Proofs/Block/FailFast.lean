import Mathlib.Data.List.Induction
import Stencil.Proofs.Block.Append
import Stencil.Proofs.Block.Fault
import Stencil.Proofs.Block.Grammar

/-!
# Where assembling stops

Assembling stops at the first token that it cannot go on from, whatever follows it. Only one error
is found at the end of the tokens, that the outermost open block is not closed (`IsUnclosed`): with
any other error the tokens are refused in every continuation, and without one every continuation is
read at least up to its first token, which is refused if it is an unknown statement
(`assemble_failFast`). No body of an open block is assembled before that block is closed, so no
error in there comes first.
-/

namespace Stencil

/-- A block of the family is opened in front of the tokens, and they do not close it. -/
def Family.StaysOpen (keywords : Keywords) (family : Family) (tokens : List Token) : Prop :=
  ∀ part, part <+: tokens → ∃ depth, family.depthAfter keywords 1 part = some (depth + 1)

/-- The error is that the tokens leave a block open. In front of this block they are accepted, so no
other one lies around it. -/
inductive StatementError.IsUnclosed (keywords : Keywords) (tokens : List Token) :
    StatementError → Prop
  | mk {family : Family} {before : List Token} {opener : Token} {inside : List Token}
      {nodes : List Node} (split : tokens = before ++ opener :: inside)
      (accepted : assemble keywords before = .ok nodes)
      (opens : opener.Spells keywords family.opener) (stays : family.StaysOpen keywords inside) :
      IsUnclosed keywords tokens ⟨.missing (keywords.spelling family.closer), opener⟩

variable {keywords : Keywords} {family : Family} {tokens before inside part more : List Token}
variable {token opener : Token} {nodes : List Node} {error : StatementError}

namespace Family

theorem staysOpen_nil : family.StaysOpen keywords [] := by
  intro part hpart
  rw [List.prefix_nil.1 hpart]
  exact ⟨0, rfl⟩

/-- A block that stays open to the end was open all the time. -/
theorem StaysOpen.of_prefix (h : family.StaysOpen keywords tokens) (hpart : part <+: tokens) :
    family.StaysOpen keywords part :=
  fun first hfirst => h first (hfirst.trans hpart)

/-- One more token that does not close the block. -/
theorem StaysOpen.concat (h : family.StaysOpen keywords tokens) {depth : Nat}
    (hdepth : family.depthAfter keywords 1 (tokens ++ [token]) = some (depth + 1)) :
    family.StaysOpen keywords (tokens ++ [token]) := by
  intro part hpart
  rcases List.prefix_concat_iff.1 hpart with rfl | hpart
  · exact ⟨depth, hdepth⟩
  · exact h part hpart

end Family

theorem OpenBlock.opener_enterBranch {block : OpenBlock} :
    (block.enterBranch token).opener = block.opener := by
  unfold enterBranch finishBranch
  cases block.branch <;> rfl

namespace Assembly

variable {state next : Assembly} {block : OpenBlock}
variable {build : OpenBlock → Except StatementError Node}

/-- A block is open that this opening began, and the tokens since then leave as many blocks of its
family open as the block counts. -/
structure IsInside (keywords : Keywords) (family : Family) (opener : Token) (inside : List Token)
    (block : OpenBlock) : Prop where
  family_eq : block.family = family
  opener_eq : block.opener = opener
  depth : family.depthAfter keywords 1 inside = some block.depth
  open_ : 0 < block.depth

theorem isInside_start : IsInside keywords family opener [] (.start family opener) :=
  ⟨rfl, rfl, rfl, Nat.one_pos⟩

/-- What closes the block leaves none of its family open. -/
theorem IsInside.depthAfter_closer (valid : keywords.fault? = none)
    (h : IsInside keywords family opener inside block) (hdepth : block.depth = 1)
    (closes : token.Spells keywords family.closer) :
    family.depthAfter keywords 1 (inside ++ [token]) = some 0 := by
  have hrole := closes.role? valid
  rw [Keyword.family_closer, Keyword.role_closer] at hrole
  refine Family.depthAfter_concat h.depth ?_
  simp [Family.depthStep, hrole, hdepth]

/-- **One step inside of a block** goes on in it, or closes it. -/
theorem IsInside.step (valid : keywords.fault? = none)
    (h : IsInside keywords family opener inside block)
    (hstep : step keywords build ⟨nodes, some block⟩ token = .ok next) :
    (∃ after, next = ⟨nodes, some after⟩
        ∧ IsInside keywords family opener (inside ++ [token]) after)
      ∨ next.block = none ∧ family.depthAfter keywords 1 (inside ++ [token]) = some 0 := by
  have hcloser (hdepth : block.depth = 1) (closes : token.Spells keywords family.closer) :=
    h.depthAfter_closer valid hdepth closes
  obtain ⟨rfl, rfl, hcount, hopen⟩ := h
  obtain ⟨depth, hdepth⟩ := Nat.exists_eq_add_of_lt hopen
  rw [Nat.zero_add] at hdepth
  obtain ⟨move, hmove, hnext⟩ := bind_eq_ok_iff.1 hstep
  rw [hdepth] at hcount
  -- The token lies inside of the block, or closes it, or begins another branch of it.
  rcases move_inside hdepth hmove with ⟨after, -, hkeep, rfl⟩ | ⟨rfl, closes, rfl⟩ |
    ⟨keyword, rfl, hfamily, hrole, spells, -, rfl⟩
  · cases hnext
    refine .inl ⟨_, rfl, rfl, rfl, ?_, Nat.succ_pos _⟩
    exact Family.depthAfter_concat hcount (Family.depthStep_add hkeep 1)
  · obtain ⟨node, -, hnode⟩ := bind_eq_ok_iff.1 hnext
    cases hnode
    exact .inr ⟨rfl, hcloser hdepth closes⟩
  · cases hnext
    have hstay : block.family.depthStep keywords 1 token = some 1 :=
      Family.depthStep_of_branch valid spells hrole fun _ => Nat.one_pos
    refine .inl ⟨_, rfl, by simp, OpenBlock.opener_enterBranch, ?_, by simp [hdepth]⟩
    rw [Family.depthAfter_concat hcount hstay, OpenBlock.depth_enterBranch, hdepth]

/-- **Where a run leaves a block open**, the tokens are an accepted list, the opening of the block,
and what is inside of it. -/
theorem exists_isInside_of_run (valid : keywords.fault? = none)
    (h : run keywords (OpenBlock.build keywords (assemble keywords)) {} tokens = .ok state) :
    state.block = none ∨ ∃ block family before inside, state.block = some block
      ∧ tokens = before ++ block.opener :: inside ∧ assemble keywords before = .ok state.nodes
      ∧ block.opener.Spells keywords family.opener ∧ family.StaysOpen keywords inside
      ∧ IsInside keywords family block.opener inside block := by
  induction tokens using List.reverseRecOn generalizing state with
  | nil =>
      cases h
      exact .inl rfl
  | append_singleton tokens token ih =>
      rw [run_append] at h
      obtain ⟨mid, hrun, hlast⟩ := bind_eq_ok_iff.1 h
      rw [run_cons] at hlast
      obtain ⟨next, hstep, hnext⟩ := bind_eq_ok_iff.1 hlast
      cases hnext
      obtain ⟨nodes, block?⟩ := mid
      -- No block was open: the token is a leaf or opens one, and what stands before it assembles by
      -- itself. Or one was open, and the token goes into it or closes it.
      rcases ih hrun with hnone |
        ⟨block, family, before, inside, hblock, rfl, accepted, opens, stays, hinside⟩
      · obtain rfl : block? = none := hnone
        obtain ⟨move, hmove, hend⟩ := bind_eq_ok_iff.1 hstep
        rcases move_outside hmove with ⟨-, rfl⟩ | ⟨-, rfl⟩ | ⟨family, opens, rfl⟩
        · cases hend
          exact .inl rfl
        · cases hend
          exact .inl rfl
        · cases hend
          refine .inr ⟨_, family, tokens, [], rfl, rfl, ?_, opens, Family.staysOpen_nil,
            isInside_start⟩
          rw [assemble_eq, hrun]
          rfl
      · obtain rfl : block? = some block := hblock
        rcases hinside.step valid hstep with ⟨after, rfl, hafter⟩ | ⟨hnone, -⟩
        · obtain ⟨depth, hdepth⟩ := Nat.exists_eq_add_of_lt hafter.open_
          rw [Nat.zero_add] at hdepth
          have hcount := hafter.depth
          rw [hdepth] at hcount
          refine .inr ⟨after, family, before, inside ++ [token], rfl, ?_, accepted, ?_,
            stays.concat hcount, hafter.opener_eq ▸ hafter⟩
          · rw [hafter.opener_eq, List.append_assoc, List.cons_append]
          · rwa [hafter.opener_eq]
        · exact .inl hnone

/-- A block that the tokens do not close is open behind them. -/
theorem IsInside.run (valid : keywords.fault? = none)
    (stays : family.StaysOpen keywords inside)
    (h : Assembly.run keywords build ⟨nodes, some (.start family opener)⟩ inside = .ok state) :
    ∃ block, state = ⟨nodes, some block⟩ ∧ IsInside keywords family opener inside block := by
  -- The last token is the one that could have closed the block, so the run is taken apart there.
  induction inside using List.reverseRecOn generalizing state with
  | nil =>
      cases h
      exact ⟨_, rfl, isInside_start⟩
  | append_singleton inside token ih =>
      rw [run_append] at h
      obtain ⟨mid, hrun, hlast⟩ := bind_eq_ok_iff.1 h
      rw [run_cons] at hlast
      obtain ⟨next, hstep, hnext⟩ := bind_eq_ok_iff.1 hlast
      cases hnext
      obtain ⟨block, rfl, hblock⟩ := ih (stays.of_prefix (List.prefix_append _ _)) hrun
      rcases hblock.step valid hstep with ⟨after, rfl, hafter⟩ | ⟨-, hclosed⟩
      · exact ⟨after, rfl, hafter⟩
      · obtain ⟨depth, hdepth⟩ := stays _ List.prefix_rfl
        rw [hclosed] at hdepth
        cases hdepth

/-- No statement inside of a block lacks its opening or its closing, unless it closes the block. -/
theorem fault_ne_missing_of_move
    (h : Assembly.move keywords ⟨nodes, some block⟩ token = .error error) (word : Text) :
    error.fault ≠ .missing word := by
  cases kind : token.kind with
  | text | expression => simp [Assembly.move, kind] at h
  | statement name =>
      simp only [Assembly.move, kind] at h
      cases hlook : keywords.lookup? name with
      | none =>
          simp only [hlook, Except.error.injEq] at h
          simp [← h]
      | some keyword =>
          simp only [hlook, moveInBlock] at h
          split_ifs at h with other opening inner closing
          obtain ⟨final, -, -, rfl⟩ := OpenBlock.openBranch_error (map_eq_error_iff.1 h)
          dsimp only
          split <;> simp

/-- A step inside of a block that stays open never lacks a statement. -/
theorem IsInside.fault_ne_missing (valid : keywords.fault? = none)
    (h : IsInside keywords family opener inside block)
    (stays : family.StaysOpen keywords (inside ++ [token]))
    (hstep : Assembly.step keywords build ⟨nodes, some block⟩ token = .error error) (word : Text) :
    error.fault ≠ .missing word := by
  rcases bind_eq_error_iff.1 hstep with hmove | ⟨move, hmove, hnext⟩
  · exact fault_ne_missing_of_move hmove word
  · exfalso
    obtain ⟨depth, hdepth⟩ := Nat.exists_eq_add_of_lt h.open_
    rw [Nat.zero_add] at hdepth
    rcases move_inside hdepth hmove with ⟨after, -, -, rfl⟩ | ⟨rfl, closes, rfl⟩ |
      ⟨keyword, -, -, -, -, -, rfl⟩
    · cases hnext
    · obtain ⟨left, hleft⟩ := stays _ List.prefix_rfl
      rw [h.depthAfter_closer valid hdepth (h.family_eq ▸ closes)] at hleft
      cases hleft
    · cases hnext

/-- **A block that is left open** does not stop the assembly. -/
theorem exists_run_of_isUnclosed (valid : keywords.fault? = none)
    (h : error.IsUnclosed keywords tokens) (hfails : assemble keywords tokens = .error error) :
    ∃ state, Assembly.run keywords (OpenBlock.build keywords (assemble keywords)) {} tokens
      = .ok state := by
  rw [assemble_eq] at hfails
  rcases bind_eq_error_iff.1 hfails with hstop | ⟨state, hrun, -⟩
  · -- The run gets to the open block, and in there no error is about a statement that is missing.
    obtain ⟨rfl, accepted, opens, stays⟩ := h
    rw [run_append_of_ok (run_of_assemble accepted), run_cons,
      step_of_proceed (move_opener valid opens)] at hstop
    obtain ⟨part, token, after, state, rfl, hrun, hstep⟩ := exists_of_foldlM_error hstop
    have hpart : part ++ [token] <+: part ++ token :: after := ⟨after, by simp⟩
    obtain ⟨block, rfl, hblock⟩ := IsInside.run valid
      (stays.of_prefix (List.prefix_append part (token :: after))) hrun
    exact absurd rfl (hblock.fault_ne_missing valid (stays.of_prefix hpart) hstep _)
  · exact ⟨state, hrun⟩

/-- An assembly that does not stop fails at the end alone, with a block that is left open. -/
theorem isUnclosed_of_run (valid : keywords.fault? = none)
    (hrun : Assembly.run keywords (OpenBlock.build keywords (assemble keywords)) {} tokens
      = .ok state)
    (hfails : assemble keywords tokens = .error error) : error.IsUnclosed keywords tokens := by
  rw [assemble_eq, hrun] at hfails
  obtain ⟨nodes, block?⟩ := state
  rcases exists_isInside_of_run valid hrun with
    hnone | ⟨block, family, before, inside, hblock, hsplit, accepted, opens, stays, hinside⟩
  · obtain rfl : block? = none := hnone
    cases hfails
  · obtain rfl : block? = some block := hblock
    obtain rfl := hinside.family_eq
    cases hfails
    exact .mk hsplit accepted opens stays

/-- An error in the midst of the text is final: no token behind it is looked at. -/
theorem assemble_of_run_error (h : Assembly.run keywords
    (OpenBlock.build keywords (assemble keywords)) {} tokens = .error error) (more : List Token) :
    assemble keywords (tokens ++ more) = .error error := by
  rw [assemble_eq, run_append, h]
  rfl

/-- An unknown statement stops every assembly that gets to it. -/
theorem step_unknown {name : Text} (kind : token.kind = .statement name)
    (unknown : keywords.lookup? name = none) :
    Assembly.step keywords build state token = .error ⟨.unknown name, token⟩ := by
  have hmove : Assembly.move keywords state token = .error ⟨.unknown name, token⟩ := by
    simp only [Assembly.move, kind, unknown]
  rw [Assembly.step, hmove]
  rfl

end Assembly

/-- **An error that is not found at the end** is that of every continuation. -/
theorem assemble_append_of_error (valid : keywords.fault? = none)
    (hfails : assemble keywords tokens = .error error) (other : ¬error.IsUnclosed keywords tokens)
    (more : List Token) : assemble keywords (tokens ++ more) = .error error := by
  have hresult := hfails
  rw [assemble_eq] at hfails
  rcases bind_eq_error_iff.1 hfails with hstop | ⟨state, hrun, -⟩
  · exact Assembly.assemble_of_run_error hstop more
  · exact absurd (Assembly.isUnclosed_of_run valid hrun hresult) other

/-- **An unknown statement** is found behind all tokens that have no other error than a block left
open. -/
theorem assemble_append_unknown (valid : keywords.fault? = none)
    (h : ∀ error, assemble keywords tokens = .error error → error.IsUnclosed keywords tokens)
    {name : Text} (kind : token.kind = .statement name)
    (unknown : ∀ keyword, keywords.spelling keyword ≠ name) (more : List Token) :
    assemble keywords (tokens ++ token :: more) = .error ⟨.unknown name, token⟩ := by
  obtain ⟨state, hrun⟩ : ∃ state, Assembly.run keywords
      (OpenBlock.build keywords (assemble keywords)) {} tokens = .ok state := by
    cases hresult : assemble keywords tokens with
    | ok nodes => exact ⟨_, Assembly.run_of_assemble hresult⟩
    | error error => exact Assembly.exists_run_of_isUnclosed valid (h error hresult) hresult
  rw [assemble_eq, Assembly.run_append_of_ok hrun, Assembly.run_cons,
    Assembly.step_unknown kind (Keywords.lookup?_eq_none unknown)]
  rfl

/-- **Assembling stops at its first error.** Unless all that is wrong is the block left open at the
end, an error is that of every continuation. Unless there is another error, an unknown statement
that comes next is the error, in whatever blocks it stands. So no accepted tokens have such a
statement. -/
theorem assemble_failFast (valid : keywords.fault? = none) (tokens : List Token) :
    (∀ error, assemble keywords tokens = .error error → ¬error.IsUnclosed keywords tokens →
        ∀ more, assemble keywords (tokens ++ more) = .error error)
      ∧ ((∀ error, assemble keywords tokens = .error error → error.IsUnclosed keywords tokens) →
        ∀ token name, token.kind = .statement name →
          (∀ keyword, keywords.spelling keyword ≠ name) →
          ∀ more, assemble keywords (tokens ++ token :: more) = .error ⟨.unknown name, token⟩)
      ∧ ∀ nodes, assemble keywords tokens = .ok nodes → ∀ token ∈ tokens, ∀ name,
          token.kind = .statement name → ∃ keyword, keywords.spelling keyword = name := by
  refine ⟨fun error hfails other => assemble_append_of_error valid hfails other,
    fun h token name kind unknown => assemble_append_unknown valid h kind unknown,
    fun nodes hok token mem name kind => ?_⟩
  by_contra hname
  obtain ⟨before, after, rfl⟩ := List.append_of_mem mem
  -- Either the tokens before the statement are refused already, or it is refused itself.
  by_cases h : ∀ error, assemble keywords before = .error error → error.IsUnclosed keywords before
  · rw [assemble_append_unknown valid h kind (not_exists.1 hname)] at hok
    cases hok
  · simp only [not_forall] at h
    obtain ⟨error, hfails, other⟩ := h
    rw [assemble_append_of_error valid hfails other] at hok
    cases hok

/-- A second `else` is refused whatever follows, and an unknown statement in two open blocks too. -/
theorem assemble_failFast_nested :
    let opener : Token := ⟨.statement "if".toList, ['a'], {}⟩
    let otherwise : Token := ⟨.statement "else".toList, [], {}⟩
    let loop : Token := ⟨.statement "foreach".toList, "x in y".toList, {}⟩
    let unknown : Token := ⟨.statement "unless".toList, [], {}⟩
    ({} : Keywords).fault? = none
      ∧ assemble {} ([opener, otherwise, otherwise] ++ [unknown])
        = .error ⟨.repeatedLast "else".toList "if".toList, otherwise⟩
      ∧ assemble {} ([loop, opener] ++ unknown :: [otherwise, otherwise])
        = .error ⟨.unknown "unless".toList, unknown⟩ := by
  intro opener otherwise loop unknown
  have valid : ({} : Keywords).fault? = none := by decide
  have first : assemble {} [opener, otherwise, otherwise]
      = .error ⟨.repeatedLast "else".toList "if".toList, otherwise⟩ := rfl
  have second : assemble {} [loop, opener] = .error ⟨.missing "endforeach".toList, loop⟩ := rfl
  refine ⟨valid, ?_, ?_⟩
  · exact (assemble_failFast valid [opener, otherwise, otherwise]).1 _ first (fun h => by cases h) _
  · refine (assemble_failFast valid [loop, opener]).2.1 (fun error hfails => ?_) unknown _ rfl ?_ _
    · rw [second] at hfails
      cases hfails
      have stays : Family.iteration.StaysOpen {} ([] ++ [opener]) := Family.staysOpen_nil.concat rfl
      exact @StatementError.IsUnclosed.mk {} _ .iteration [] loop [opener] [] rfl rfl rfl stays
    · intro keyword
      cases keyword <;> decide

end Stencil
