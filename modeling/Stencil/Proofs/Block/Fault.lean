import Stencil.Proofs.Block.Contents

/-!
# Where assembling fails

The error of a list of tokens carries one of the tokens, and its fault is one of that token: nothing
is spelled by its name, or its block has no opening or no closing, or it begins a branch behind the
last one of its block, or it is a loop that names nothing. `StatementFault.IsOf` says which, and
names the keywords that each message names.

An assembly fails where one step fails, in the terms of a block that has collected the tokens since
its opening, or in a body of a block that closes. A body is a sublist of what its block has
collected, so the induction goes on with it (`isIn_of_assemble_error`).
-/

namespace Stencil

/-- The statement that is missing when this one stands alone: the closing of the block that it
opens, or the opening of the block that it belongs to. -/
def Keyword.partner (keyword : Keyword) : Keyword :=
  if keyword.role = .opening then keyword.family.closer else keyword.family.opener

/-- What a fault says of the token that it is found at, among all tokens. -/
def StatementFault.IsOf (keywords : Keywords) (tokens : List Token) (token : Token) :
    StatementFault → Prop
  | .unknown name => token.kind = .statement name ∧ ∀ keyword, keywords.spelling keyword ≠ name
  | .missing word => ∃ keyword, token.Spells keywords keyword
      ∧ word = keywords.spelling keyword.partner
  | .repeatedLast last opener => ∃ keyword earlier, token.Spells keywords keyword
      ∧ keyword.role = .lastBranch ∧ earlier.Spells keywords keyword
      ∧ [earlier, token].Sublist tokens
      ∧ last = keywords.spelling keyword ∧ opener = keywords.spelling keyword.family.opener
  | .branchAfterLast last opener => ∃ keyword final earlier, token.Spells keywords keyword
      ∧ keyword.role = .branch ∧ keyword.family.last? = some final
      ∧ earlier.Spells keywords final ∧ [earlier, token].Sublist tokens
      ∧ last = keywords.spelling final ∧ opener = keywords.spelling keyword.family.opener
  | fault => token.Spells keywords .foreach
      ∧ LoopHeader.ofArgument token.name token.value = .error fault

/-- The error is one of the tokens. -/
structure StatementError.IsIn (keywords : Keywords) (tokens : List Token) (error : StatementError) :
    Prop where
  mem : error.token ∈ tokens
  fault : error.fault.IsOf keywords tokens error.token

variable {keywords : Keywords} {tokens more : List Token} {token : Token} {error : StatementError}

theorem StatementFault.IsOf.mono {fault : StatementFault} (h : fault.IsOf keywords tokens token)
    (hmore : tokens.Sublist more) : fault.IsOf keywords more token := by
  cases fault with
  | repeatedLast last opener =>
      obtain ⟨keyword, earlier, spells, role, again, order, names⟩ := h
      exact ⟨keyword, earlier, spells, role, again, order.trans hmore, names⟩
  | branchAfterLast last opener =>
      obtain ⟨keyword, final, earlier, spells, role, hfinal, again, order, names⟩ := h
      exact ⟨keyword, final, earlier, spells, role, hfinal, again, order.trans hmore, names⟩
  | unknown | missing | loopShape | loopName | loopNamesEqual => exact h

theorem StatementError.IsIn.mono (h : error.IsIn keywords tokens) (hmore : tokens.Sublist more) :
    error.IsIn keywords more :=
  ⟨hmore.subset h.mem, h.fault.mono hmore⟩

/-- The faults of the argument of a loop. -/
theorem LoopHeader.ofArgument_error {keyword argument : Text} {fault : StatementFault}
    (h : ofArgument keyword argument = .error fault) :
    fault = .loopShape keyword ∨ (∃ name, fault = .loopName name keyword)
      ∨ ∃ name, fault = .loopNamesEqual name keyword := by
  unfold ofArgument at h
  cases hsplit : Text.splitAt? inMark argument with
  | none =>
      rw [hsplit] at h
      cases h
      exact .inl rfl
  | some split =>
      rw [hsplit] at h
      dsimp only at h
      split at h
      · cases h
        exact .inl rfl
      · split at h
        · cases h
          exact .inr (.inl ⟨_, rfl⟩)
        · split at h
          · cases h
            exact .inr (.inr ⟨_, rfl⟩)
          · cases h

/-! ### Blocks -/

namespace OpenBlock

variable {block : OpenBlock} {assemble : List Token → Except StatementError (List Node)}

/-- The opener that an error names is a token of the text. -/
theorem Collects.opener_mem (h : Collects keywords block tokens) : block.opener ∈ tokens := by
  induction h with
  | leading => exact List.mem_cons_self
  | inBranch _ _ _ _ _ _ ih =>
      rw [opener_inBranch]
      exact List.mem_append_left _ ih

/-- The statement that began the current branch has been collected. -/
theorem Collects.branch_mem (h : Collects keywords block tokens) {current : Token}
    (hcurrent : block.branch = some current) :
    current ∈ tokens ∧ ∃ keyword, current.Spells keywords keyword := by
  cases h with
  | @leading family opener lead depth opens inside =>
      have hstart : (if family = .conditional then some opener else none) = some current := hcurrent
      split at hstart
      · cases hstart
        exact ⟨List.mem_cons_self, _, opens⟩
      · cases hstart
  | inBranch _ _ _ begins =>
      cases hcurrent
      obtain ⟨keyword, -, -, spells⟩ := begins
      exact ⟨List.mem_append_right _ List.mem_cons_self, keyword, spells⟩

/-- What an open block holds was read, in this order. Words of branches are missing from it. -/
theorem Collects.held_sublist (h : Collects keywords block tokens) : block.held.Sublist tokens := by
  induction h with
  | leading => exact List.sublist_cons_self ..
  | @inBranch block tokens token inner role depth _ _ _ _ _ _ ih =>
      rw [held_inBranch]
      exact ih.append (List.sublist_cons_self ..)

theorem Collects.body_sublist (h : Collects keywords block tokens) {body : List Token}
    (hbody : body ∈ block.bodies keywords) : body.Sublist tokens := by
  refine List.Sublist.trans ?_ h.held_sublist
  rw [← h.flatten_bodies]
  exact List.sublist_flatten_of_mem hbody

/-- A block is not built when its header or one of its bodies has an error. -/
theorem exists_of_build_error (h : block.build keywords assemble = .error error) :
    (block.family = .iteration ∧ block.header = .error error)
      ∨ ∃ body ∈ block.bodies keywords, assemble body = .error error := by
  -- A fault in a subtree is passed on as it is, from whichever body it comes.
  have branches : ∀ {error}, ((block.parts keywords).1.mapM fun part => do
      return (Script.prepare part.1.value, ← assemble part.2) : Except StatementError _)
        = .error error → ∃ body ∈ block.bodies keywords, assemble body = .error error := by
    intro error h
    obtain ⟨part, hpart, hfails⟩ := exists_of_mapM_error h
    refine ⟨part.2, List.mem_append_left _ (List.mem_map_of_mem hpart), ?_⟩
    exact bind_pure_eq_error_iff.1 hfails
  have last : ∀ {error}, (block.parts keywords).2.mapM assemble = .error error →
      ∃ body ∈ block.bodies keywords, assemble body = .error error := by
    intro error h
    cases hlast : (block.parts keywords).2 with
    | none =>
        rw [hlast] at h
        cases h
    | some body =>
        rw [hlast, Option.mapM_some, map_eq_error_iff] at h
        exact ⟨body, List.mem_append_right _ (by simp [hlast]), h⟩
  unfold build at h
  cases hfamily : block.family with
  | conditional =>
      rw [hfamily] at h
      rcases bind_eq_error_iff.1 h with h | ⟨otherwise, -, h⟩
      · exact .inr (last h)
      · exact .inr (branches (bind_pure_eq_error_iff.1 h))
  | iteration =>
      rw [hfamily] at h
      rcases bind_eq_error_iff.1 h with h | ⟨header, -, h⟩
      · exact .inl ⟨rfl, h⟩
      · have hbody : block.body ∈ block.bodies keywords := by simp [bodies, parts, hfamily]
        exact .inr ⟨block.body, hbody, bind_pure_eq_error_iff.1 h⟩
  | switch =>
      rw [hfamily] at h
      rcases bind_eq_error_iff.1 h with h | ⟨otherwise, -, h⟩
      · exact .inr (last h)
      · exact .inr (branches (bind_pure_eq_error_iff.1 h))

/-- A loop's header fails by its argument alone, and the opener is the token at fault. -/
theorem header_eq_error_iff : block.header = .error error ↔
    ∃ fault, LoopHeader.ofArgument block.opener.name block.opener.value = .error fault
      ∧ error = ⟨fault, block.opener⟩ := by
  unfold header
  cases LoopHeader.ofArgument block.opener.name block.opener.value <;> simp [eq_comm]

/-- Only behind a last branch no branch is begun. -/
theorem openBranch_error {keyword : Keyword}
    (h : block.openBranch keywords keyword token = .error error) :
    ∃ final, block.family.last? = some final ∧ block.isInBranch (keywords.spelling final) = true
      ∧ error = ⟨if keyword.role = .lastBranch
            then .repeatedLast (keywords.spelling final) (keywords.spelling block.family.opener)
            else .branchAfterLast (keywords.spelling final) (keywords.spelling block.family.opener),
          token⟩ := by
  by_cases last : block.IsLast keywords
  · obtain ⟨final, hfinal, hword⟩ := last
    refine ⟨final, hfinal, hword, ?_⟩
    have hfilter : (block.family.last?.map keywords.spelling).filter block.isInBranch
        = some (keywords.spelling final) := by simp [hfinal, hword]
    simp only [openBranch, hfilter] at h
    split at h
    · rename_i role
      rw [if_pos role, ← Except.error.inj h]
    · rename_i role
      rw [if_neg role, ← Except.error.inj h]
  · rw [openBranch_of_not_isLast last] at h
    cases h

end OpenBlock

/-! ### Steps -/

namespace Assembly

variable {nodes : List Node} {block : OpenBlock} {before since : List Token} {state : Assembly}

/-- A token that begins a further branch of a block behind its last one. -/
theorem isIn_of_openBranch (valid : keywords.fault? = none) {keyword : Keyword}
    (collects : block.Collects keywords since) (spells : token.Spells keywords keyword)
    (hfamily : keyword.family = block.family)
    (hrole : keyword.role = .branch ∨ keyword.role = .lastBranch)
    (h : block.openBranch keywords keyword token = .error error) :
    error.IsIn keywords (since ++ [token]) := by
  obtain ⟨final, hfinal, hword, rfl⟩ := OpenBlock.openBranch_error h
  -- The branch that is open was begun by the word of the last branch, so by that statement.
  obtain ⟨earlier, hbranch, hname⟩ := (Option.any_eq_true _ _).1 hword
  obtain ⟨hmem, other, again⟩ := collects.branch_mem hbranch
  rw [decide_eq_true_eq, again.name_eq, Keywords.spelling_inj valid] at hname
  subst hname
  have order : [earlier, token].Sublist (since ++ [token]) :=
    (List.singleton_sublist.2 hmem).append (List.Sublist.refl _)
  refine ⟨List.mem_append_right _ List.mem_cons_self, ?_⟩
  rw [← hfamily] at hfinal ⊢
  rcases hrole with role | role
  · simp only [role, reduceCtorEq, if_false]
    exact ⟨keyword, other, earlier, spells, role, hfinal, again, order, rfl, rfl⟩
  · obtain rfl : keyword = other :=
      Option.some.inj ((Keyword.last?_of_role role).symm.trans hfinal)
    simp only [role, if_true]
    exact ⟨keyword, earlier, spells, role, again, order, rfl, rfl⟩

/-- The block that is open has collected the tokens since its opening. -/
def HasCollected (keywords : Keywords) (state : Assembly) (tokens : List Token) : Prop :=
  ∀ block ∈ state.block, ∃ before since, tokens = before ++ since ∧ block.Collects keywords since

/-- Whatever was read so far, an open block has collected it from some place on. -/
theorem hasCollected_of_run
    (h : run keywords (OpenBlock.build keywords (assemble keywords)) {} tokens = .ok state) :
    state.HasCollected keywords tokens := by
  -- Nothing is to be said of the nodes here, so the induction along the assembly is about nothing.
  have pieces : IsCompositional keywords fun _ _ => True :=
    ⟨trivial, fun _ _ => trivial, fun _ => trivial, fun _ => trivial, fun _ _ _ _ _ => trivial⟩
  have start : ({} : Assembly).Holds keywords (fun _ _ => True) [] := trivial
  have holds := start.run pieces (fun _ _ _ _ => trivial) (Nat.le_refl _) h
  obtain ⟨nodes, block?⟩ := state
  rintro block ⟨⟩
  obtain ⟨before, since, htokens, -, collects⟩ := holds
  exact ⟨before, since, htokens, collects⟩

/-- One token at fault: a statement that no keyword spells, the word of a block that is not open, or a
branch that the open block refuses. -/
theorem isIn_of_move (valid : keywords.fault? = none)
    (collected : state.HasCollected keywords tokens)
    (h : Assembly.move keywords state token = .error error) :
    error.IsIn keywords (tokens ++ [token]) := by
  have mem : token ∈ tokens ++ [token] := List.mem_append_right _ List.mem_cons_self
  obtain ⟨nodes, block?⟩ := state
  cases kind : token.kind with
  | text | expression => cases block? <;> simp [Assembly.move, kind] at h
  | statement name =>
      simp only [Assembly.move, kind] at h
      cases hlook : keywords.lookup? name with
      | none =>
          simp only [hlook, Except.error.injEq] at h
          subst h
          refine ⟨mem, kind, fun keyword hkeyword => ?_⟩
          rw [(Keywords.lookup?_eq_some_iff valid).2 hkeyword] at hlook
          cases hlook
      | some keyword =>
          have spells : token.Spells keywords keyword := by
            rw [Token.Spells, kind, Keywords.spelling_of_lookup? hlook]
          simp only [hlook] at h
          cases block? with
          | none =>
              simp only at h
              split at h
              · cases h
              · rename_i role
                cases h
                refine ⟨mem, keyword, spells, ?_⟩
                rw [Keyword.partner, if_neg role]
          | some block =>
              obtain ⟨before, since, rfl, hcollects⟩ := collected block rfl
              simp only [moveInBlock] at h
              -- Words of other families, and all words deeper down, are kept as they are; only the
              -- word of a branch can be refused.
              split_ifs at h with other opening inner closing
              rw [not_not] at other
              have hrole : keyword.role = .branch ∨ keyword.role = .lastBranch := by
                cases hrole : keyword.role <;> simp_all
              have hbranch : block.openBranch keywords keyword token = .error error :=
                map_eq_error_iff.1 h
              rw [List.append_assoc]
              exact (isIn_of_openBranch valid hcollects spells other hrole hbranch).mono
                (List.sublist_append_right ..)

/-- **One step** of an assembly that fails. `inner` is what is known of shorter lists. -/
theorem isIn_of_step (valid : keywords.fault? = none)
    (collected : state.HasCollected keywords tokens)
    (inner : ∀ body error, body.length < tokens.length → assemble keywords body = .error error →
      error.IsIn keywords body)
    (h : step keywords (OpenBlock.build keywords (assemble keywords)) state token = .error error) :
    error.IsIn keywords (tokens ++ [token]) := by
  rcases bind_eq_error_iff.1 h with h | ⟨move, hmove, h⟩
  · exact isIn_of_move valid collected h
  · rcases move_pending hmove with ⟨block, rfl, hblock⟩ | ⟨next, rfl, -⟩
    · obtain ⟨before, since, rfl, collects⟩ := collected block hblock
      have hbuild := bind_pure_eq_error_iff.1 h
      have hsince : since.Sublist (before ++ since ++ [token]) :=
        (List.sublist_append_right ..).trans (List.sublist_append_left ..)
      rcases OpenBlock.exists_of_build_error hbuild with ⟨hfamily, hheader⟩ | ⟨body, hbody, hfails⟩
      · obtain ⟨fault, hfault, rfl⟩ := OpenBlock.header_eq_error_iff.1 hheader
        have spells := collects.opens
        rw [hfamily] at spells
        refine ⟨hsince.subset collects.opener_mem, ?_⟩
        rcases LoopHeader.ofArgument_error hfault with rfl | ⟨name, rfl⟩ | ⟨name, rfl⟩ <;>
          exact ⟨spells, hfault⟩
      · have hlength : body.length < (before ++ since).length := by
          have hkept := collects.length_le_kept hbody
          have hlt := collects.kept_lt
          rw [List.length_append]
          omega
        exact (inner body error hlength hfails).mono ((collects.body_sublist hbody).trans hsince)
    · cases h

/-- The fault at the end of the text is that of a block that was never closed. -/
theorem isIn_of_finish (collected : state.HasCollected keywords tokens)
    (h : state.finish keywords = .error error) : error.IsIn keywords tokens := by
  obtain ⟨nodes, block?⟩ := state
  cases block? with
  | none => cases h
  | some block =>
      cases h
      obtain ⟨before, since, rfl, collects⟩ := collected block rfl
      refine ⟨List.mem_append_right _ collects.opener_mem, _, collects.opens, ?_⟩
      rw [Keyword.partner, if_pos (Keyword.role_opener _), Keyword.family_opener]

end Assembly

/-- **Assembling fails with an error of its tokens.** The recursion is on the number of tokens. -/
theorem isIn_of_assemble_error (valid : keywords.fault? = none)
    (h : assemble keywords tokens = .error error) : error.IsIn keywords tokens := by
  induction hsize : tokens.length using Nat.strongRecOn generalizing tokens error with
  | ind size ih =>
      rw [assemble_eq] at h
      rcases bind_eq_error_iff.1 h with h | ⟨state, hrun, hfinish⟩
      · obtain ⟨before, token, after, state, rfl, hrun, hstep⟩ := exists_of_foldlM_error h
        have inner : ∀ body error, body.length < before.length →
            assemble keywords body = .error error → error.IsIn keywords body := by
          intro body error hlength hfails
          rw [List.length_append] at hsize
          exact ih body.length (by omega) hfails rfl
        have collected := Assembly.hasCollected_of_run hrun
        refine (Assembly.isIn_of_step valid collected inner hstep).mono ?_
        exact (List.Sublist.refl before).append (List.singleton_sublist.2 List.mem_cons_self)
      · exact Assembly.isIn_of_finish (Assembly.hasCollected_of_run hrun) hfinish

end Stencil
