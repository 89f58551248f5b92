import Stencil.Proofs.Block.Depth

/-!
# Moves of an assembly

What one token can do, once for all: outside of blocks it is a leaf or opens a block; inside of a
block it is kept in the body, or closes the block, or begins a branch. The two inversion lemmas
`move_outside` and `move_inside` say everything that a successful move can be; the lemmas before
them say when each of these moves is made.
-/

namespace Stencil

namespace OpenBlock

/-- The block with one more token in its body, at another depth. -/
def keep (block : OpenBlock) (token : Token) (depth : Nat) : OpenBlock :=
  { block.push token with depth }

/-- The branches of a block so far, the current one included. -/
def sections (block : OpenBlock) : List (Token × List Token) :=
  block.branches ++ (block.branch.map fun token => (token, block.body)).toList

/-- No further branch may follow the current one. -/
def IsLast (keywords : Keywords) (block : OpenBlock) : Prop :=
  ∃ last, block.family.last? = some last ∧ block.isInBranch (keywords.spelling last)

/-- The block in a new branch, whose body begins with what the block has kept so far if this is its
first branch. -/
def enterBranch (block : OpenBlock) (token : Token) : OpenBlock :=
  { block.finishBranch with branch := some token }

variable {keywords : Keywords} {block next : OpenBlock} {keyword : Keyword} {token : Token}

@[simp] theorem branches_finishBranch : block.finishBranch.branches = block.sections := by
  unfold finishBranch sections
  cases block.branch <;> simp

theorem openBranch_of_not_isLast (h : ¬block.IsLast keywords) :
    block.openBranch keywords keyword token = .ok (block.enterBranch token) := by
  have : (block.family.last?.map keywords.spelling).filter block.isInBranch = none := by
    simpa [IsLast, Option.filter_eq_none_iff] using h
  simp only [openBranch, this, enterBranch]

/-- A branch can be opened unless the last one has begun; there is nothing else that refuses it. -/
theorem openBranch_eq_ok_iff :
    block.openBranch keywords keyword token = .ok next ↔
      ¬block.IsLast keywords ∧ next = block.enterBranch token := by
  constructor
  · intro h
    by_cases last : block.IsLast keywords
    · obtain ⟨word, hfamily, hword⟩ := last
      have : (block.family.last?.map keywords.spelling).filter block.isInBranch
          = some (keywords.spelling word) := by simp [hfamily, hword]
      simp only [openBranch, this] at h
      split at h <;> cases h
    · rw [openBranch_of_not_isLast last, Except.ok.injEq] at h
      exact ⟨last, h.symm⟩
  · intro h
    obtain ⟨last, rfl⟩ := h
    exact openBranch_of_not_isLast last

end OpenBlock

namespace Assembly

variable {keywords : Keywords} {nodes : List Node} {block : OpenBlock} {token : Token}
variable {family : Family} {keyword : Keyword} {move : Move} {depth next : Nat}

/-! ### Outside of blocks -/

theorem move_text (kind : token.kind = .text) :
    Assembly.move keywords ⟨nodes, none⟩ token =
      .ok (.proceed ⟨nodes ++ [.text token.value], none⟩) := by
  simp only [Assembly.move, kind]

theorem move_expression (kind : token.kind = .expression) :
    Assembly.move keywords ⟨nodes, none⟩ token =
      .ok (.proceed ⟨nodes ++ [.expression (Script.prepare token.value)], none⟩) := by
  simp only [Assembly.move, kind]

theorem move_opener (valid : keywords.fault? = none) (h : token.Spells keywords family.opener) :
    Assembly.move keywords ⟨nodes, none⟩ token =
      .ok (.proceed ⟨nodes, some (.start family token)⟩) := by
  have look := (Keywords.lookup?_eq_some_iff valid).2 (rfl : keywords.spelling family.opener = _)
  simp only [Assembly.move, show token.kind = _ from h, look, Keyword.role_opener, if_true,
    Keyword.family_opener]

/-- All that a token can do outside of blocks. -/
theorem move_outside (h : Assembly.move keywords ⟨nodes, none⟩ token = .ok move) :
    (token.kind = .text ∧ move = .proceed ⟨nodes ++ [.text token.value], none⟩)
      ∨ (token.kind = .expression
          ∧ move = .proceed ⟨nodes ++ [.expression (Script.prepare token.value)], none⟩)
      ∨ ∃ family, token.Spells keywords family.opener
          ∧ move = .proceed ⟨nodes, some (.start family token)⟩ := by
  cases kind : token.kind with
  | text =>
      rw [move_text kind, Except.ok.injEq] at h
      exact .inl ⟨rfl, h.symm⟩
  | expression =>
      rw [move_expression kind, Except.ok.injEq] at h
      exact .inr (.inl ⟨rfl, h.symm⟩)
  | statement name =>
      refine .inr (.inr ?_)
      simp only [Assembly.move, kind] at h
      cases hlook : keywords.lookup? name with
      | none => simp [hlook] at h
      | some keyword =>
          simp only [hlook] at h
          split at h
          · rename_i role
            refine ⟨keyword.family, ?_, by simpa using h.symm⟩
            rw [Token.Spells, kind, ← Keyword.eq_opener_of_role role,
              Keywords.spelling_of_lookup? hlook]
          · cases h

/-! ### Inside of a block -/

/-- A token that has an answer at the inner depth is kept. -/
theorem move_keep (known : token.IsKnown keywords) (hdepth : block.depth = depth + 1)
    (h : block.family.depthStep keywords depth token = some next) :
    Assembly.move keywords ⟨nodes, some block⟩ token =
      .ok (.proceed ⟨nodes, some (block.keep token (next + 1))⟩) := by
  have same : block.push token = block.keep token (depth + 1) := by
    simp only [OpenBlock.keep, ← hdepth]
    rfl
  cases kind : token.kind with
  | text | expression =>
      have role : token.role? keywords block.family = none :=
        Token.role?_eq_none_of_kind (by simp [kind])
      simp only [Family.depthStep, role, Option.some.injEq] at h
      simp only [Assembly.move, kind, same, h]
  | statement name =>
      obtain ⟨keyword, hlook⟩ := Option.isSome_iff_exists.1 (known name kind)
      have hkeyword : token.keyword? keywords = some keyword := by
        simp only [Token.keyword?, kind, hlook]
      simp only [Assembly.move, kind, hlook, moveInBlock]
      -- A word of another family is kept as it is; one of the own family is kept only further down,
      -- and moves the depth.
      by_cases other : keyword.family = block.family
      · have role := Token.role?_eq_some_iff.2 ⟨keyword, hkeyword, other, rfl⟩
        simp only [Family.depthStep, role] at h
        cases hrole : keyword.role with
        | opening =>
            simp only [hrole, Option.some.injEq] at h
            simp [other, ← h, hdepth, OpenBlock.keep]
        | closing =>
            simp only [hrole, Option.ite_none_left_eq_some, Option.some.injEq] at h
            have inner : 1 < block.depth := by omega
            have less : block.depth - 1 = next + 1 := by omega
            simp [other, inner, less, OpenBlock.keep]
        | branch | lastBranch =>
            simp only [hrole, Option.ite_none_left_eq_some, Option.some.injEq] at h
            have inner : 1 < block.depth := by omega
            simp [other, inner, same, h.2]
      · have role : token.role? keywords block.family = none := by
          simp [Token.role?, hkeyword, other]
        simp only [Family.depthStep, role, Option.some.injEq] at h
        simp only [ne_eq, other, not_false_eq_true, if_true, same, h]

/-- At depth one the closing statement of its family closes a block. -/
theorem move_closer (valid : keywords.fault? = none) (hdepth : block.depth = 1)
    (h : token.Spells keywords block.family.closer) :
    Assembly.move keywords ⟨nodes, some block⟩ token = .ok (.close block) := by
  have look := (Keywords.lookup?_eq_some_iff valid).2
    (rfl : keywords.spelling block.family.closer = _)
  simp [Assembly.move, show token.kind = _ from h, look, moveInBlock, hdepth]

/-- At depth one a branch of its family begins a branch of a block, unless the current one is a last
branch. -/
theorem move_branch (valid : keywords.fault? = none) (hdepth : block.depth = 1)
    (hfamily : keyword.family = block.family)
    (hrole : keyword.role = .branch ∨ keyword.role = .lastBranch)
    (h : token.Spells keywords keyword) (last : ¬block.IsLast keywords) :
    Assembly.move keywords ⟨nodes, some block⟩ token =
      .ok (.proceed ⟨nodes, some (block.enterBranch token)⟩) := by
  have look := (Keywords.lookup?_eq_some_iff valid).2 (rfl : keywords.spelling keyword = _)
  rcases hrole with hrole | hrole <;>
    simp [Assembly.move, show token.kind = _ from h, look, moveInBlock, hdepth, hfamily, hrole,
      OpenBlock.openBranch_of_not_isLast last, Except.map]

/-- Inside of an open block too, every statement is looked up, even those that are only kept. -/
theorem isKnown_of_move (h : Assembly.move keywords ⟨nodes, some block⟩ token = .ok move) :
    token.IsKnown keywords := by
  intro name kind
  simp only [Assembly.move, kind] at h
  cases hlook : keywords.lookup? name with
  | none => simp [hlook] at h
  | some keyword => rfl

/-- All that a token can do inside of a block. -/
theorem move_inside (hdepth : block.depth = depth + 1)
    (h : Assembly.move keywords ⟨nodes, some block⟩ token = .ok move) :
    (∃ next, token.IsKnown keywords ∧ block.family.depthStep keywords depth token = some next
        ∧ move = .proceed ⟨nodes, some (block.keep token (next + 1))⟩)
      ∨ (depth = 0 ∧ token.Spells keywords block.family.closer ∧ move = .close block)
      ∨ ∃ keyword, depth = 0 ∧ keyword.family = block.family
          ∧ (keyword.role = .branch ∨ keyword.role = .lastBranch) ∧ token.Spells keywords keyword
          ∧ ¬block.IsLast keywords ∧ move = .proceed ⟨nodes, some (block.enterBranch token)⟩ := by
  have known := isKnown_of_move h
  cases hstep : block.family.depthStep keywords depth token with
  | some next =>
      rw [move_keep known hdepth hstep, Except.ok.injEq] at h
      exact .inl ⟨next, known, rfl, h.symm⟩
  | none =>
      refine .inr ?_
      -- Without a step the token is one of the block itself, at its outermost level: its closer or
      -- a branch.
      obtain ⟨rfl, keyword, hkeyword, hfamily, hrole⟩ := Family.exists_of_depthStep_eq_none hstep
      have spells := Token.spells_of_keyword? hkeyword
      have look : keywords.lookup? (keywords.spelling keyword) = some keyword := by
        simpa only [Token.keyword?, show token.kind = _ from spells] using hkeyword
      simp only [Assembly.move, show token.kind = _ from spells, look, moveInBlock] at h
      cases hkind : keyword.role with
      | opening => exact absurd hkind hrole
      | closing =>
          refine .inl ⟨rfl, ?_, ?_⟩
          · rwa [← hfamily, ← Keyword.eq_closer_of_role hkind]
          · simpa [hfamily, hkind, hdepth] using h.symm
      | branch | lastBranch =>
          simp only [hfamily, ne_eq, not_true_eq_false, hkind, hdepth, reduceCtorEq, if_false,
            Nat.zero_add, Nat.lt_irrefl] at h
          cases hbranch : block.openBranch keywords keyword token with
          | error error => simp [hbranch, Except.map] at h
          | ok branch =>
              obtain ⟨last, rfl⟩ := OpenBlock.openBranch_eq_ok_iff.1 hbranch
              simp only [hbranch, Except.map, Except.ok.injEq] at h
              exact .inr ⟨keyword, rfl, hfamily, by simp [hkind], spells, last, h.symm⟩

end Assembly

end Stencil
