import Stencil.Proofs.Block.Levels

/-!
# Keywords are only spelling

Two lists of tokens in which the same statements are spelled by two sets of keywords are put
together to the same tree, or refused at the same place with the same fault in the words of each
(`assemble_respelled`).

Assembling is looked at twice side by side, with tokens that are related one by one: a block that is
open holds related tokens (`OpenBlock.Respelled`), every move keeps this (`respelled_move`), and so
do all steps and all levels. The relation `R` of tokens is left open as long as it only respells, so
it can say where the tokens stand in their lists.
-/

namespace Stencil

variable {old new : Keywords}

/-! ### Words -/

/-- The second token is the first one with the word of its statement in the spelling of other
keywords. A word that spells no statement becomes any other such word. -/
inductive Token.Respelled (old new : Keywords) : Token → Token → Prop
  | leaf {token : Token} (kind : ∀ name, token.kind ≠ .statement name) :
      Respelled old new token token
  | keyword {keyword : Keyword} {value : Text} {place : Place} :
      Respelled old new ⟨.statement (old.spelling keyword), value, place⟩
        ⟨.statement (new.spelling keyword), value, place⟩
  | unknown {word other value : Text} {place : Place}
      (noKeyword : ∀ keyword, old.spelling keyword ≠ word)
      (noKeyword' : ∀ keyword, new.spelling keyword ≠ other) :
      Respelled old new ⟨.statement word, value, place⟩ ⟨.statement other, value, place⟩

/-- The word that stands for another one: the name of the token at fault becomes that of the other
token, and every keyword the one in its place. -/
def Keywords.respell (old new : Keywords) (token other : Token) (word : Text) : Text :=
  if word = token.name then other.name
  else ((old.lookup? word).map new.spelling).getD word

/-- The same fault, with another word for each that names a statement. -/
def StatementFault.respell (f : Text → Text) : StatementFault → StatementFault
  | unknown name => unknown (f name)
  | missing keyword => missing (f keyword)
  | repeatedLast last opener => repeatedLast (f last) (f opener)
  | branchAfterLast last opener => branchAfterLast (f last) (f opener)
  | loopShape keyword => loopShape (f keyword)
  | loopName name keyword => loopName name (f keyword)
  | loopNamesEqual name keyword => loopNamesEqual name (f keyword)

/-- The same fault at related tokens, in the words of each. -/
structure StatementError.Respelled (old new : Keywords) (R : Token → Token → Prop)
    (error other : StatementError) : Prop where
  token : R error.token other.token
  fault : other.fault = error.fault.respell (old.respell new error.token other.token)

namespace Token.Respelled

variable {token other : Token} {keyword : Keyword}

theorem value_eq (h : token.Respelled old new other) : other.value = token.value := by
  cases h <;> rfl

theorem place_eq (h : token.Respelled old new other) : other.place = token.place := by
  cases h <;> rfl

theorem ne_nil_spelling (valid : old.fault? = none) : old.spelling keyword ≠ [] := by
  have word := Keywords.isSingleWord_spelling valid keyword
  intro h
  rw [h] at word
  cases word

/-- The one token is named by a keyword just when the other one is, by that in its place. -/
theorem name_eq_iff (valid : old.fault? = none) (valid' : new.fault? = none)
    (h : token.Respelled old new other) :
    token.name = old.spelling keyword ↔ other.name = new.spelling keyword := by
  cases h with
  | leaf kind =>
      have hname : token.name = [] := by
        unfold Token.name
        split
        · rename_i name hkind
          exact absurd hkind (kind name)
        · rfl
      rw [hname]
      exact iff_of_false (ne_nil_spelling valid).symm (ne_nil_spelling valid').symm
  | keyword => exact (Keywords.spelling_inj valid).trans (Keywords.spelling_inj valid').symm
  | unknown noKeyword noKeyword' =>
      exact iff_of_false (noKeyword keyword).symm (noKeyword' keyword).symm

theorem respell_spelling (valid : old.fault? = none) (valid' : new.fault? = none)
    (h : token.Respelled old new other) (keyword : Keyword) :
    old.respell new token other (old.spelling keyword) = new.spelling keyword := by
  unfold Keywords.respell
  split
  · rename_i hname
    exact (h.name_eq_iff valid valid').1 hname.symm
  · rw [(Keywords.lookup?_eq_some_iff valid).2 rfl]
    rfl

/-- The word at fault is respelled as the word of the other token, which is what messages about
unknown words need. -/
theorem respell_name {word : Text} (h : token.name = word) :
    old.respell new token other word = other.name :=
  if_pos h.symm

end Token.Respelled

/-- The fault of a loop names the loop in the word of its statement. -/
theorem LoopHeader.ofArgument_respell (f : Text → Text) (keyword argument : Text) :
    LoopHeader.ofArgument (f keyword) argument
      = (LoopHeader.ofArgument keyword argument).mapError (·.respell f) := by
  unfold LoopHeader.ofArgument
  cases Text.splitAt? LoopHeader.inMark argument with
  | none => rfl
  | some split =>
      dsimp only
      split
      · rfl
      · cases [(LoopHeader.namesOf split.1).1, (LoopHeader.namesOf split.1).2].find?
            fun name => !LoopHeader.isLoopName name with
        | some name => rfl
        | none =>
            dsimp only
            split <;> rfl

/-! ### Blocks -/

/-- Two blocks that hold related tokens in the same places. -/
structure OpenBlock.Respelled (R : Token → Token → Prop) (block other : OpenBlock) : Prop where
  family : other.family = block.family
  opener : R block.opener other.opener
  branch : Option.Rel R block.branch other.branch
  depth : other.depth = block.depth
  branches : List.Forall₂ (fun part part' => R part.1 part'.1 ∧ List.Forall₂ R part.2 part'.2)
    block.branches other.branches
  body : List.Forall₂ R block.body other.body

/-- Two assemblies with the same nodes and blocks that hold related tokens. -/
structure Assembly.Respelled (R : Token → Token → Prop) (state other : Assembly) : Prop where
  nodes : other.nodes = state.nodes
  block : Option.Rel (OpenBlock.Respelled R) state.block other.block

/-- Two moves of the same kind, with related blocks. -/
inductive Assembly.Move.Respelled (R : Token → Token → Prop) : Move → Move → Prop
  | proceed {next next'} (h : Assembly.Respelled R next next') :
      Respelled R (.proceed next) (.proceed next')
  | close {block block'} (h : OpenBlock.Respelled R block block') :
      Respelled R (.close block) (.close block')

namespace OpenBlock

variable {R : Token → Token → Prop} {block other : OpenBlock} {token token' : Token}
variable {keyword : Keyword} {depth : Nat}

theorem Respelled.start {family : Family} (h : R token token') :
    Respelled R (start family token) (start family token') where
  family := rfl
  opener := h
  branch := by
    cases family with
    | conditional => exact .some h
    | iteration | switch => exact .none
  depth := rfl
  branches := .nil
  body := .nil

theorem Respelled.push (h : Respelled R block other) (htoken : R token token') :
    Respelled R (block.push token) (other.push token') :=
  { h with body := List.rel_append h.body (.cons htoken .nil) }

theorem Respelled.keep (h : Respelled R block other) (htoken : R token token') (depth : Nat) :
    Respelled R (block.keep token depth) (other.keep token' depth) :=
  { h.push htoken with depth := rfl }

theorem Respelled.finishBranch (h : Respelled R block other) :
    Respelled R block.finishBranch other.finishBranch := by
  obtain ⟨family, opener, branch, depth, branches, body⟩ := block
  obtain ⟨family', opener', branch', depth', branches', body'⟩ := other
  obtain ⟨hfamily, hopener, hbranch, hdepth, hbranches, hbody⟩ := h
  cases hbranch with
  | none => exact ⟨hfamily, hopener, .none, hdepth, hbranches, hbody⟩
  | some current =>
      exact ⟨hfamily, hopener, .some current, hdepth,
        List.rel_append hbranches (.cons ⟨current, hbody⟩ .nil), .nil⟩

theorem Respelled.enterBranch (h : Respelled R block other) (htoken : R token token') :
    Respelled R (block.enterBranch token) (other.enterBranch token') :=
  { h.finishBranch with branch := .some htoken }

variable (valid : old.fault? = none) (valid' : new.fault? = none)
variable (respells : ∀ {token other}, R token other → token.Respelled old new other)

include valid valid' respells

/-- Which branch a block is in is asked by its word, and both words are those of one keyword. -/
theorem Respelled.isInBranch (h : Respelled R block other) :
    other.isInBranch (new.spelling keyword) = block.isInBranch (old.spelling keyword) := by
  have hbranch := h.branch
  unfold OpenBlock.isInBranch
  generalize block.branch = branch at hbranch ⊢
  generalize other.branch = branch' at hbranch ⊢
  cases hbranch with
  | none => rfl
  | some related =>
      rw [Option.any_some, Option.any_some, decide_eq_decide]
      exact ((respells related).name_eq_iff valid valid').symm

/-- Both blocks open the branch, or refuse it with the messages of their own words. -/
theorem Respelled.openBranch (h : Respelled R block other) (htoken : R token token') :
    BothEnd (StatementError.Respelled old new R) (Respelled R)
      (block.openBranch old keyword token) (other.openBranch new keyword token') := by
  have words : ∀ keyword, new.spelling keyword
      = old.respell new token token' (old.spelling keyword) :=
    fun keyword => ((respells htoken).respell_spelling valid valid' keyword).symm
  unfold OpenBlock.openBranch
  dsimp only
  rw [h.family]
  cases block.family.last? with
  | none => exact .ok (h.enterBranch htoken)
  | some last =>
      rw [Option.map_some, Option.map_some, Option.filter_some, Option.filter_some,
        h.isInBranch valid valid' respells]
      cases block.isInBranch (old.spelling last) with
      | false => exact .ok (h.enterBranch htoken)
      | true =>
          rw [words, words]
          by_cases role : keyword.role = .lastBranch
          · simp only [role, if_true]
            exact .error ⟨htoken, rfl⟩
          · simp only [role, if_false]
            exact .error ⟨htoken, rfl⟩

end OpenBlock

/-! ### Moves -/

namespace Assembly

variable {R : Token → Token → Prop} {state other : Assembly} {block block' : OpenBlock}
variable {token token' : Token} {keyword : Keyword}
variable (valid : old.fault? = none) (valid' : new.fault? = none)
variable (respells : ∀ {token other}, R token other → token.Respelled old new other)

include valid valid' respells

/-- One token inside of an open block. Both sides branch alike, because family and role belong to
the keyword and not to its spelling. -/
theorem respelled_moveInBlock {nodes : List Node} (h : OpenBlock.Respelled R block block')
    (htoken : R token token') :
    BothEnd (StatementError.Respelled old new R) (Move.Respelled R)
      (moveInBlock old nodes block keyword token)
      (moveInBlock new nodes block' keyword token') := by
  have keep : ∀ depth, Move.Respelled R (.proceed ⟨nodes, some (block.keep token depth)⟩)
      (.proceed ⟨nodes, some (block'.keep token' depth)⟩) :=
    fun depth => .proceed ⟨rfl, .some (h.keep htoken depth)⟩
  have push : Move.Respelled R (.proceed ⟨nodes, some (block.push token)⟩)
      (.proceed ⟨nodes, some (block'.push token')⟩) :=
    .proceed ⟨rfl, .some (h.push htoken)⟩
  unfold moveInBlock
  rw [h.family, h.depth]
  split_ifs
  · exact .ok push
  · exact .ok (keep _)
  · exact .ok (keep _)
  · exact .ok push
  · exact .ok (.close h)
  · exact (h.openBranch valid valid' respells htoken).map fun next next' hnext =>
      .proceed ⟨rfl, .some hnext⟩

/-- **One token** does the same to related assemblies. -/
theorem respelled_move (h : Assembly.Respelled R state other) (htoken : R token token') :
    BothEnd (StatementError.Respelled old new R) (Move.Respelled R)
      (move old state token) (move new other token') := by
  obtain ⟨nodes, block?⟩ := state
  obtain ⟨nodes', block?'⟩ := other
  obtain ⟨rfl, hblock⟩ := h
  have word := (respells htoken).respell_spelling valid valid'
  cases respells htoken with
  | leaf kind =>
      cases hkind : token.kind with
      | statement name => exact absurd hkind (kind name)
      | text | expression =>
          cases hblock with
          | none =>
              simp only [move, hkind]
              exact .ok (.proceed ⟨rfl, .none⟩)
          | some related =>
              simp only [move, hkind]
              exact .ok (.proceed ⟨rfl, .some (related.push htoken)⟩)
  | @keyword keyword value place =>
      have look := (Keywords.lookup?_eq_some_iff valid).2 (rfl : old.spelling keyword = _)
      have look' := (Keywords.lookup?_eq_some_iff valid').2 (rfl : new.spelling keyword = _)
      cases hblock with
      | some related =>
          simp only [move, look, look']
          exact respelled_moveInBlock valid valid' respells related htoken
      | none =>
          simp only [move, look, look']
          by_cases role : keyword.role = .opening
          · simp only [role, if_true]
            exact .ok (.proceed ⟨rfl, .some (.start htoken)⟩)
          · simp only [role, if_false]
            rw [← word]
            exact .error ⟨htoken, rfl⟩
  | unknown noKeyword noKeyword' =>
      simp only [move, Keywords.lookup?_eq_none noKeyword, Keywords.lookup?_eq_none noKeyword']
      exact .error ⟨htoken, congrArg StatementFault.unknown (if_pos rfl).symm⟩

end Assembly

/-! ### Closed blocks -/

namespace OpenBlock

variable {R : Token → Token → Prop} {block other : OpenBlock}
variable {assemble assemble' : List Token → Except StatementError (List Node)}
variable (valid : old.fault? = none) (valid' : new.fault? = none)
variable (respells : ∀ {token other}, R token other → token.Respelled old new other)

include respells

/-- The argument of a loop has no keyword in it, so only the label in front of the message differs.
-/
theorem Respelled.header (h : Respelled R block other) :
    BothEnd (StatementError.Respelled old new R) Eq block.header other.header := by
  have harguments : LoopHeader.ofArgument other.opener.name other.opener.value
      = (LoopHeader.ofArgument block.opener.name block.opener.value).mapError
          (·.respell (old.respell new block.opener other.opener)) := by
    rw [(respells h.opener).value_eq, ← LoopHeader.ofArgument_respell,
      Token.Respelled.respell_name rfl]
  unfold OpenBlock.header
  rw [harguments]
  cases LoopHeader.ofArgument block.opener.name block.opener.value with
  | ok header => exact .ok rfl
  | error fault => exact .error ⟨h.opener, rfl⟩

include valid valid'

/-- Both blocks are divided in the same places. -/
theorem Respelled.parts (h : Respelled R block other) :
    List.Forall₂ (fun part part' => R part.1 part'.1 ∧ List.Forall₂ R part.2 part'.2)
        (block.parts old).1 (other.parts new).1
      ∧ Option.Rel (List.Forall₂ R) (block.parts old).2 (other.parts new).2 := by
  unfold OpenBlock.parts
  rw [h.family, h.isInBranch valid valid' respells, h.isInBranch valid valid' respells]
  cases block.family with
  | conditional =>
      dsimp only
      split
      · exact ⟨h.branches, .some h.body⟩
      · exact ⟨h.finishBranch.branches, .none⟩
  | iteration => exact ⟨.nil, .some h.body⟩
  | switch =>
      dsimp only
      split
      · exact ⟨h.finishBranch.branches, .none⟩
      · exact ⟨h.branches, .some h.body⟩

/-- Related blocks are built to the same node, when their bodies are assembled to the same trees. -/
theorem Respelled.build (h : Respelled R block other)
    (bodies : ∀ body body', List.Forall₂ R body body' →
      BothEnd (StatementError.Respelled old new R) Eq (assemble body) (assemble' body')) :
    BothEnd (StatementError.Respelled old new R) Eq
      (block.build old assemble) (other.build new assemble') := by
  obtain ⟨hbranches, hlast⟩ := h.parts valid valid' respells
  -- Sources are arguments of tokens and not respelled, hence the trees are equal and not only
  -- alike.
  have branches : BothEnd (StatementError.Respelled old new R) Eq
      ((block.parts old).1.mapM fun part => do
        return (Script.prepare part.1.value, ← assemble part.2))
      ((other.parts new).1.mapM fun part => do
        return (Script.prepare part.1.value, ← assemble' part.2)) := by
    rw [← List.forall₂_eq_eq_eq]
    refine BothEnd.mapM hbranches fun part part' hpart => ?_
    refine (bodies _ _ hpart.2).bind fun tree tree' htree => ?_
    rw [(respells hpart.1).value_eq, htree]
    exact .ok rfl
  have last : BothEnd (StatementError.Respelled old new R) Eq
      ((block.parts old).2.mapM assemble) ((other.parts new).2.mapM assemble') := by
    generalize (block.parts old).2 = body? at hlast ⊢
    generalize (other.parts new).2 = body?' at hlast ⊢
    cases hlast with
    | none => exact .ok rfl
    | some hbody =>
        rw [Option.mapM_some, Option.mapM_some]
        exact (bodies _ _ hbody).map fun _ _ => congrArg some
  unfold OpenBlock.build
  rw [h.family]
  cases block.family with
  | conditional =>
      refine last.bind fun otherwise _ hotherwise => ?_
      refine branches.bind fun trees _ htrees => ?_
      rw [hotherwise, htrees]
      exact .ok rfl
  | iteration =>
      refine (h.header respells).bind fun header _ hheader => ?_
      refine (bodies _ _ h.body).bind fun tree _ htree => ?_
      rw [hheader, htree]
      exact .ok rfl
  | switch =>
      refine last.bind fun otherwise _ hotherwise => ?_
      refine branches.bind fun trees _ htrees => ?_
      rw [hotherwise, htrees, (respells h.opener).value_eq]
      exact .ok rfl

end OpenBlock

/-! ### Whole lists -/

section

variable {R : Token → Token → Prop} {tokens others : List Token}
variable (valid : old.fault? = none) (valid' : new.fault? = none)
variable (respells : ∀ {token other}, R token other → token.Respelled old new other)

include valid valid' respells

/-- **One step**, with the blocks that close built to the same nodes. -/
theorem Assembly.respelled_step {build build' : OpenBlock → Except StatementError Node}
    (builds : ∀ block block', OpenBlock.Respelled R block block' →
      BothEnd (StatementError.Respelled old new R) Eq (build block) (build' block'))
    {state other : Assembly} {token token' : Token} (h : Assembly.Respelled R state other)
    (htoken : R token token') :
    BothEnd (StatementError.Respelled old new R) (Assembly.Respelled R)
      (step old build state token) (step new build' other token') := by
  unfold Assembly.step
  refine (respelled_move valid valid' respells h htoken).bind fun found found' hfound => ?_
  cases hfound with
  | proceed hnext => exact .ok hnext
  | close hblock =>
      refine (builds _ _ hblock).bind fun node node' hnode => ?_
      rw [hnode, ← h.nodes]
      exact .ok ⟨rfl, .none⟩

/-- At the end of the text both runs miss a closer, or neither does. -/
theorem Assembly.respelled_finish {state other : Assembly} (h : Assembly.Respelled R state other) :
    BothEnd (StatementError.Respelled old new R) Eq (state.finish old) (other.finish new) := by
  obtain ⟨nodes, block?⟩ := state
  obtain ⟨nodes', block?'⟩ := other
  obtain ⟨rfl, hblock⟩ := h
  cases hblock with
  | none => exact .ok rfl
  | @some block block' hblock =>
      have word := (respells hblock.opener).respell_spelling valid valid' block.family.closer
      simp only [finish, hblock.family]
      rw [← word]
      exact .error ⟨hblock.opener, rfl⟩

/-- The induction is on the levels: a closed block is built with one level less. -/
theorem respelled_assembleWithin (h : List.Forall₂ R tokens others) (levels : Nat) :
    BothEnd (StatementError.Respelled old new R) Eq
      (assembleWithin old levels tokens) (assembleWithin new levels others) := by
  induction levels generalizing tokens others with
  | zero => exact .ok rfl
  | succ levels ih =>
      have start : Assembly.Respelled R {} {} := ⟨rfl, .none⟩
      have builds : ∀ block block', OpenBlock.Respelled R block block' →
          BothEnd (StatementError.Respelled old new R) Eq
            (block.build old (assembleWithin old levels))
            (block'.build new (assembleWithin new levels)) :=
        fun block block' hblock => hblock.build valid valid' respells fun _ _ => ih
      refine (BothEnd.foldlM h start fun _ _ _ _ => ?_).bind fun state state' hstate => ?_
      · exact Assembly.respelled_step valid valid' respells builds
      · exact Assembly.respelled_finish valid valid' respells hstate

end

/-- The token of the one list and that of the other one at the same place, respelled. -/
def Token.Paired (old new : Keywords) (tokens others : List Token) (token other : Token) : Prop :=
  token.Respelled old new other
    ∧ ∃ index : Nat, tokens[index]? = some token ∧ others[index]? = some other

/-- The tokens of two lists that go in pairs stand at the same index in both. -/
theorem forall₂_paired {tokens others : List Token}
    (h : List.Forall₂ (Token.Respelled old new) tokens others) :
    List.Forall₂ (Token.Paired old new tokens others) tokens others := by
  refine List.forall₂_iff_get.2 ⟨h.length_eq, fun index hindex hindex' => ?_⟩
  refine ⟨h.get hindex hindex', ?_⟩
  exact ⟨index, by simp [hindex], by simp [hindex']⟩

/-- **Keywords are only spelling.** Lists of tokens that differ in the spelling of statements have
the same tree, or are refused at tokens of one index, with a message that differs in that spelling.
-/
theorem assemble_respelled (valid : old.fault? = none) (valid' : new.fault? = none)
    {tokens others : List Token} (h : List.Forall₂ (Token.Respelled old new) tokens others) :
    (∃ nodes, assemble old tokens = .ok nodes ∧ assemble new others = .ok nodes)
      ∨ ∃ (error other : StatementError) (index : Nat),
          assemble old tokens = .error error ∧ assemble new others = .error other
            ∧ tokens[index]? = some error.token ∧ others[index]? = some other.token
            ∧ other.fault = error.fault.respell (old.respell new error.token other.token)
            ∧ other.token.place = error.token.place := by
  have hlevels := respelled_assembleWithin valid valid' (fun paired => paired.1) (forall₂_paired h)
    (tokens.length + 1)
  have hothers : assemble new others = assembleWithin new (tokens.length + 1) others := by
    rw [assemble, h.length_eq]
  rw [hothers, assemble]
  generalize assembleWithin old (tokens.length + 1) tokens = result at hlevels ⊢
  generalize assembleWithin new (tokens.length + 1) others = result' at hlevels ⊢
  cases hlevels with
  | @ok nodes nodes' same => exact .inl ⟨nodes, rfl, by rw [same]⟩
  | @error error other related =>
      obtain ⟨⟨respelled, index, htoken, htoken'⟩, hfault⟩ := related
      exact .inr ⟨error, other, index, rfl, rfl, htoken, htoken', hfault, respelled.place_eq⟩

/-- `else` and `endif` have changed places: the same second last branch is refused, in other words.
-/
theorem assemble_respelled_exchanged :
    let exchanged : Keywords :=
      { spelling := fun
          | .else_ => Keyword.endif.label
          | .endif => Keyword.else_.label
          | keyword => keyword.label }
    let tokens : List Token :=
      [⟨.statement Keyword.if_.label, ['x'], {}⟩, ⟨.statement Keyword.else_.label, [], {}⟩,
        ⟨.text, ['a'], {}⟩, ⟨.statement Keyword.else_.label, [], {}⟩]
    let others : List Token :=
      [⟨.statement Keyword.if_.label, ['x'], {}⟩, ⟨.statement Keyword.endif.label, [], {}⟩,
        ⟨.text, ['a'], {}⟩, ⟨.statement Keyword.endif.label, [], {}⟩]
    ({} : Keywords).fault? = none ∧ exchanged.fault? = none
      ∧ List.Forall₂ (Token.Respelled {} exchanged) tokens others
      ∧ assemble {} tokens
          = .error ⟨.repeatedLast Keyword.else_.label Keyword.if_.label,
              ⟨.statement Keyword.else_.label, [], {}⟩⟩
      ∧ ∃ (error other : StatementError) (index : Nat),
          assemble {} tokens = .error error ∧ assemble exchanged others = .error other
            ∧ tokens[index]? = some error.token ∧ others[index]? = some other.token
            ∧ other.fault
                = error.fault.respell (({} : Keywords).respell exchanged error.token other.token)
            ∧ other.token.place = error.token.place := by
  intro exchanged tokens others
  have valid : exchanged.fault? = none := by decide
  have related : List.Forall₂ (Token.Respelled {} exchanged) tokens others :=
    .cons (@Token.Respelled.keyword _ _ .if_ _ _) <|
      .cons (@Token.Respelled.keyword _ _ .else_ _ _) <|
      .cons (.leaf nofun) <| .cons (@Token.Respelled.keyword _ _ .else_ _ _) .nil
  have refused : assemble {} tokens
      = .error ⟨.repeatedLast Keyword.else_.label Keyword.if_.label,
          ⟨.statement Keyword.else_.label, [], {}⟩⟩ := rfl
  refine ⟨by decide, valid, related, refused, ?_⟩
  obtain ⟨nodes, assembled, -⟩ | differ := assemble_respelled (by decide) valid related
  · rw [refused] at assembled
    cases assembled
  · exact differ

end Stencil
