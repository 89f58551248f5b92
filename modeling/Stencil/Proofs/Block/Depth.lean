import Stencil.Block.Basic
import Stencil.Proofs.Keyword

/-!
# Depth in a family of blocks

While a block is open, assembling looks only at statements of the block's own family, and of these
only at the number of blocks that they leave open. `Family.depthAfter` is that number, and
`Family.IsClosed` says of a run of tokens that every block of the family that is opened in it is also
closed in it, with no branch outside of these blocks.

A closed run can stand at any depth and leaves the depth as it was (`IsClosed.depthAfter`). This is
what lets a body of any nesting pass through the open block around it.
-/

namespace Stencil

namespace Token

/-- The role that a token plays in the blocks of a family. Whatever is not a statement of the family
plays none. -/
def role? (keywords : Keywords) (family : Family) (token : Token) : Option Role :=
  ((token.keyword? keywords).filter fun keyword => keyword.family = family).map Keyword.role

end Token

namespace Family

/-- The number of open blocks of the family after a token. Outside of all blocks there is no answer
for a branch or a closing. -/
def depthStep (keywords : Keywords) (family : Family) (depth : Nat) (token : Token) : Option Nat :=
  match token.role? keywords family with
  | none => some depth
  | some .opening => some (depth + 1)
  | some .closing => if depth = 0 then none else some (depth - 1)
  | some .branch | some .lastBranch => if depth = 0 then none else some depth

/-- The number of open blocks of the family after a run of tokens. -/
def depthAfter (keywords : Keywords) (family : Family) (depth : Nat) (tokens : List Token) :
    Option Nat :=
  tokens.foldlM (family.depthStep keywords) depth

/-- Every block of the family that is opened in the run is closed in it, and the run has no branch
outside of these blocks. -/
def IsClosed (keywords : Keywords) (family : Family) (tokens : List Token) : Prop :=
  family.depthAfter keywords 0 tokens = some 0

instance (keywords : Keywords) (family : Family) (tokens : List Token) :
    Decidable (family.IsClosed keywords tokens) :=
  inferInstanceAs (Decidable (_ = _))

variable {keywords : Keywords} {family : Family} {token : Token} {tokens more : List Token}
variable {depth next : Nat}

/-! ### Runs -/

@[simp] theorem depthAfter_nil : family.depthAfter keywords depth [] = some depth := rfl

theorem depthAfter_cons :
    family.depthAfter keywords depth (token :: tokens) =
      (family.depthStep keywords depth token).bind fun next =>
        family.depthAfter keywords next tokens :=
  List.foldlM_cons ..

/-- Depths add up along a list of tokens, and a part that has none leaves the whole without. -/
theorem depthAfter_append :
    family.depthAfter keywords depth (tokens ++ more) =
      (family.depthAfter keywords depth tokens).bind fun next =>
        family.depthAfter keywords next more :=
  List.foldlM_append ..

theorem depthAfter_concat {last : Nat} (h : family.depthAfter keywords depth tokens = some next)
    (hstep : family.depthStep keywords next token = some last) :
    family.depthAfter keywords depth (tokens ++ [token]) = some last := by
  rw [depthAfter_append, h, Option.bind_some, depthAfter_cons, hstep]
  rfl

/-- The depth around a token can be raised by any amount. -/
theorem depthStep_add (h : family.depthStep keywords depth token = some next) (more : Nat) :
    family.depthStep keywords (depth + more) token = some (next + more) := by
  unfold depthStep at h ⊢
  cases hrole : token.role? keywords family with
  | none => simp_all
  | some role =>
      cases role <;> simp only [hrole, Option.some.injEq, Option.ite_none_left_eq_some] at h ⊢ <;>
        omega

/-- Tokens inside of more open blocks do the same, so many levels further down. -/
theorem depthAfter_add (h : family.depthAfter keywords depth tokens = some next) (more : Nat) :
    family.depthAfter keywords (depth + more) tokens = some (next + more) := by
  induction tokens generalizing depth with
  | nil => simpa using h
  | cons token rest ih =>
      rw [depthAfter_cons] at h ⊢
      obtain ⟨mid, hmid, hrest⟩ := Option.bind_eq_some_iff.1 h
      rw [depthStep_add hmid more]
      exact ih hrest

/-! ### Closed runs -/

theorem IsClosed.nil : family.IsClosed keywords [] := rfl

/-- A closed run leaves every depth as it is. -/
theorem IsClosed.depthAfter (h : family.IsClosed keywords tokens) (depth : Nat) :
    family.depthAfter keywords depth tokens = some depth := by
  simpa using depthAfter_add h depth

/-- Closed tokens can be dropped from the front. -/
theorem depthAfter_append_of_isClosed (h : family.IsClosed keywords tokens) :
    family.depthAfter keywords depth (tokens ++ more) = family.depthAfter keywords depth more := by
  rw [depthAfter_append, h.depthAfter, Option.bind_some]

end Family

/-! ### Roles of keywords -/

namespace Keyword

theorem eq_opener_of_role {keyword : Keyword} (h : keyword.role = .opening) :
    keyword = keyword.family.opener := by
  cases keyword <;> simp_all [role, family, Family.opener]

theorem eq_closer_of_role {keyword : Keyword} (h : keyword.role = .closing) :
    keyword = keyword.family.closer := by
  cases keyword <;> simp_all [role, family, Family.closer]

theorem last?_of_role {keyword : Keyword} (h : keyword.role = .lastBranch) :
    keyword.family.last? = some keyword := by
  cases keyword <;> simp_all [role, family, Family.last?]

@[simp] theorem family_opener (family : Family) : family.opener.family = family := by
  cases family <;> rfl

@[simp] theorem role_opener (family : Family) : family.opener.role = .opening := by
  cases family <;> rfl

@[simp] theorem family_closer (family : Family) : family.closer.family = family := by
  cases family <;> rfl

@[simp] theorem role_closer (family : Family) : family.closer.role = .closing := by
  cases family <;> rfl

end Keyword

namespace Token

variable {keywords : Keywords} {keyword : Keyword} {family : Family} {token : Token} {role : Role}

/-- The keyword that is looked up for a token is one that the token spells. The converse needs
spellings that differ (`Spells.role?`). -/
theorem spells_of_keyword? (h : token.keyword? keywords = some keyword) :
    token.Spells keywords keyword := by
  unfold keyword? at h
  split at h
  · rename_i name kind
    rw [Spells, kind, Keywords.spelling_of_lookup? h]
  · cases h

theorem role?_eq_some_iff :
    token.role? keywords family = some role ↔
      ∃ keyword, token.keyword? keywords = some keyword ∧ keyword.family = family
        ∧ keyword.role = role := by
  simp only [role?, Option.map_eq_some_iff, Option.filter_eq_some_iff, decide_eq_true_eq, and_assoc]

theorem Spells.role? (valid : keywords.fault? = none) (h : token.Spells keywords keyword) :
    token.role? keywords keyword.family = some keyword.role :=
  role?_eq_some_iff.2 ⟨keyword, h.lookup? valid, rfl, rfl⟩

theorem Spells.role?_eq_none (valid : keywords.fault? = none) (h : token.Spells keywords keyword)
    (other : keyword.family ≠ family) : token.role? keywords family = none := by
  rw [Token.role?, h.lookup? valid, Option.filter_some_neg (by simpa using other), Option.map_none]

theorem Spells.isKnown (valid : keywords.fault? = none) (h : token.Spells keywords keyword) :
    token.IsKnown keywords := by
  intro name kind
  rw [show token.kind = _ from h, Kind.statement.injEq] at kind
  rw [(Keywords.lookup?_eq_some_iff valid).2 kind]
  rfl

/-- Tokens other than statements have no role in any family. -/
theorem role?_eq_none_of_kind (h : ∀ name, token.kind ≠ .statement name) :
    token.role? keywords family = none := by
  have : token.keyword? keywords = none := by
    unfold keyword?
    split
    · rename_i name kind
      exact absurd kind (h name)
    · rfl
  rw [role?, this]
  rfl

theorem isKnown_of_kind (h : ∀ name, token.kind ≠ .statement name) : token.IsKnown keywords :=
  fun name kind => absurd kind (h name)

end Token

/-- Without an answer a token is a branch or a closing of the family, outside of all its blocks. -/
theorem Family.exists_of_depthStep_eq_none {keywords : Keywords} {family : Family} {token : Token}
    {depth : Nat} (h : family.depthStep keywords depth token = none) :
    depth = 0 ∧ ∃ keyword, token.keyword? keywords = some keyword ∧ keyword.family = family
      ∧ keyword.role ≠ .opening := by
  cases hrole : token.role? keywords family with
  | none => simp [Family.depthStep, hrole] at h
  | some role =>
      obtain ⟨keyword, hkeyword, hfamily, rfl⟩ := Token.role?_eq_some_iff.1 hrole
      simp only [Family.depthStep, hrole] at h
      cases hkind : keyword.role with
      | opening => simp [hkind] at h
      | closing | branch | lastBranch =>
          have hzero : depth = 0 := by simpa [hkind] using h
          exact ⟨hzero, keyword, hkeyword, hfamily, by simp [hkind]⟩

end Stencil
