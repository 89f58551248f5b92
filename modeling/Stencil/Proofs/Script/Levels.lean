import Stencil.Script.Grammar

/-!
# Levels of the grammar

How deeply pieces of a source may lie inside one another is bounded by a number of levels. More
levels never take an expression away (`Grammar.Grows`): what is read with some is read with one more.
-/

namespace Stencil.Script.Grammar

/-- Whatever the one option holds, the other holds too. -/
def Within {α : Type} (a b : Option α) : Prop :=
  ∀ x, a = some x → b = some x

theorem Within.refl {α : Type} {a : Option α} : Within a a :=
  fun _ h => h

theorem Within.none {α : Type} {a : Option α} : Within Option.none a :=
  fun _ h => nomatch h

theorem Within.bind {α β : Type} {a b : Option α} {f g : α → Option β} (h : Within a b)
    (more : ∀ x, Within (f x) (g x)) : Within (a >>= f) (b >>= g) := by
  intro y hy
  obtain ⟨x, hx, hf⟩ := Option.bind_eq_some_iff.1 hy
  exact Option.bind_eq_some_iff.2 ⟨x, h x hx, more x y hf⟩

theorem Within.map {α β : Type} {a b : Option α} (f : α → β) (h : Within a b) :
    Within (a.map f) (b.map f) := by
  intro y hy
  obtain ⟨x, hx, hf⟩ := Option.map_eq_some_iff.1 hy
  exact Option.map_eq_some_iff.2 ⟨x, h x hx, hf⟩

/-- What is read with a number of levels is read with one more. -/
structure Grows (n : Nat) : Prop where
  expression (input : List Lexeme) : Within (expression n input) (expression (n + 1) input)
  disjunction (input : List Lexeme) : Within (disjunction n input) (disjunction (n + 1) input)
  conjunction (input : List Lexeme) : Within (conjunction n input) (conjunction (n + 1) input)
  inversion (input : List Lexeme) : Within (inversion n input) (inversion (n + 1) input)
  comparisons (input : List Lexeme) : Within (comparisons n input) (comparisons (n + 1) input)
  sum (input : List Lexeme) : Within (sum n input) (sum (n + 1) input)
  sumAfter (left : Expr) (input : List Lexeme) :
    Within (sumAfter n left input) (sumAfter (n + 1) left input)
  product (input : List Lexeme) : Within (product n input) (product (n + 1) input)
  productAfter (left : Expr) (input : List Lexeme) :
    Within (productAfter n left input) (productAfter (n + 1) left input)
  factor (input : List Lexeme) : Within (factor n input) (factor (n + 1) input)
  trailers (value : Expr) (input : List Lexeme) :
    Within (trailers n value input) (trailers (n + 1) value input)
  arguments (isNamed : Bool) (input : List Lexeme) :
    Within (arguments n isNamed input) (arguments (n + 1) isNamed input)
  argumentsAfter (isNamed : Bool) (input : List Lexeme) :
    Within (argumentsAfter n isNamed input) (argumentsAfter (n + 1) isNamed input)
  indices (input : List Lexeme) : Within (indices n input) (indices (n + 1) input)
  moreIndices (input : List Lexeme) : Within (moreIndices n input) (moreIndices (n + 1) input)
  index (input : List Lexeme) : Within (index n input) (index (n + 1) input)
  optional (input : List Lexeme) : Within (optional n input) (optional (n + 1) input)
  several (input : List Lexeme) : Within (several n input) (several (n + 1) input)
  entries (input : List Lexeme) : Within (entries n input) (entries (n + 1) input)
  atom (input : List Lexeme) : Within (atom n input) (atom (n + 1) input)

variable {n : Nat} (h : Grows n) (input : List Lexeme)

include h

/-- With one more level an expression is found that was found before. The lemmas below say so of the
other rules of the grammar; each calls rules one level down, for which `Grows` is assumed. -/
theorem expression_within : Within (expression (n + 1) input) (expression (n + 2) input) := by
  rw [expression, expression]
  refine .bind (h.disjunction _) fun (first, rest) => ?_
  dsimp only
  split
  · exact .refl
  · exact .bind (h.disjunction _) fun _ => .bind .refl fun _ => .bind (h.expression _) fun _ => .refl

theorem disjunction_within : Within (disjunction (n + 1) input) (disjunction (n + 2) input) := by
  rw [disjunction, disjunction]
  refine .bind (h.conjunction _) fun (first, rest) => ?_
  dsimp only
  split
  · exact .refl
  · exact .bind (h.disjunction _) fun _ => .refl

theorem conjunction_within : Within (conjunction (n + 1) input) (conjunction (n + 2) input) := by
  rw [conjunction, conjunction]
  refine .bind (h.inversion _) fun (first, rest) => ?_
  dsimp only
  split
  · exact .refl
  · exact .bind (h.conjunction _) fun _ => .refl

theorem inversion_within : Within (inversion (n + 1) input) (inversion (n + 2) input) := by
  rw [inversion, inversion]
  dsimp only
  split
  · exact .bind (h.inversion _) fun _ => .refl
  · exact .bind (h.sum _) fun _ => .bind (h.comparisons _) fun _ => .refl

theorem comparisons_within : Within (comparisons (n + 1) input) (comparisons (n + 2) input) := by
  rw [comparisons, comparisons]
  dsimp only
  split
  · exact .refl
  · exact .bind (h.sum _) fun _ => .bind (h.comparisons _) fun _ => .refl

theorem sum_within : Within (sum (n + 1) input) (sum (n + 2) input) := by
  rw [sum, sum]
  exact .bind (h.product _) fun _ => h.sumAfter _ _

theorem sumAfter_within (left : Expr) :
    Within (sumAfter (n + 1) left input) (sumAfter (n + 2) left input) := by
  rw [sumAfter, sumAfter]
  dsimp only
  split
  · exact .refl
  · exact .bind (h.product _) fun _ => h.sumAfter _ _

theorem product_within : Within (product (n + 1) input) (product (n + 2) input) := by
  rw [product, product]
  exact .bind (h.factor _) fun _ => h.productAfter _ _

theorem productAfter_within (left : Expr) :
    Within (productAfter (n + 1) left input) (productAfter (n + 2) left input) := by
  rw [productAfter, productAfter]
  dsimp only
  split
  · exact .refl
  · exact .bind (h.factor _) fun _ => h.productAfter _ _

theorem factor_within : Within (factor (n + 1) input) (factor (n + 2) input) := by
  rw [factor, factor]
  dsimp only
  split
  · exact .bind (h.factor _) fun _ => .refl
  · exact .bind (h.factor _) fun _ => .refl
  · refine .bind (h.atom _) fun _ => .bind (h.trailers _ _) fun (base, rest) => ?_
    dsimp only
    split
    · exact .refl
    · exact .bind (h.factor _) fun _ => .refl

theorem trailers_within (value : Expr) :
    Within (trailers (n + 1) value input) (trailers (n + 2) value input) := by
  rw [trailers, trailers]
  dsimp only
  split
  · exact .bind .refl fun _ => h.trailers _ _
  · exact .bind (h.arguments _ _) fun _ => h.trailers _ _
  · exact .bind (h.indices _) fun _ => .bind .refl fun _ => h.trailers _ _
  · exact .refl

theorem arguments_within (isNamed : Bool) :
    Within (arguments (n + 1) isNamed input) (arguments (n + 2) isNamed input) := by
  rw [arguments, arguments]
  dsimp only
  split
  · exact .refl
  · split
    · exact .bind (h.expression _) fun _ => .bind (h.argumentsAfter _ _) fun _ => .refl
    · split
      · exact .none
      · exact .bind (h.expression _) fun _ => .bind (h.argumentsAfter _ _) fun _ => .refl

theorem argumentsAfter_within (isNamed : Bool) :
    Within (argumentsAfter (n + 1) isNamed input) (argumentsAfter (n + 2) isNamed input) := by
  rw [argumentsAfter, argumentsAfter]
  dsimp only
  split
  · exact h.arguments _ _
  · exact .refl

theorem indices_within : Within (indices (n + 1) input) (indices (n + 2) input) := by
  rw [indices, indices]
  refine .bind (h.index _) fun (first, rest) => ?_
  dsimp only
  split
  · exact .refl
  · exact .bind (h.moreIndices _) fun _ => .refl

theorem moreIndices_within : Within (moreIndices (n + 1) input) (moreIndices (n + 2) input) := by
  rw [moreIndices, moreIndices]
  dsimp only
  split
  · exact .refl
  · refine .bind (h.index _) fun (first, rest) => ?_
    dsimp only
    split
    · exact .refl
    · exact .bind (h.moreIndices _) fun _ => .refl

theorem index_within : Within (index (n + 1) input) (index (n + 2) input) := by
  rw [index, index]
  refine .bind (h.optional _) fun (start, rest) => ?_
  dsimp only
  split
  · exact .refl
  · refine .bind (h.optional _) fun (stop, rest) => ?_
    dsimp only
    split
    · exact .refl
    · exact .bind (h.optional _) fun _ => .refl

theorem optional_within : Within (optional (n + 1) input) (optional (n + 2) input) := by
  rw [optional, optional]
  dsimp only
  split
  · exact .map _ (h.expression _)
  · exact .refl

theorem several_within : Within (several (n + 1) input) (several (n + 2) input) := by
  rw [several, several]
  refine .bind (h.expression _) fun (first, rest) => ?_
  dsimp only
  split
  · exact .refl
  · split
    · exact .bind (h.several _) fun _ => .refl
    · exact .refl

theorem entries_within : Within (entries (n + 1) input) (entries (n + 2) input) := by
  rw [entries, entries]
  dsimp only
  split
  · exact .refl
  · refine .bind (h.expression _) fun _ => .bind .refl fun _ => .bind (h.expression _)
      fun (value, rest) => ?_
    dsimp only
    split
    · exact .bind (h.entries _) fun _ => .refl
    · exact .refl

theorem atom_within : Within (atom (n + 1) input) (atom (n + 2) input) := by
  rw [atom, atom]
  dsimp only
  split
  · exact .refl
  · exact .refl
  · exact .refl
  · exact .refl
  · split
    · split
      · exact .refl
      · exact .bind (h.several _) fun _ => .refl
    · split
      · exact .refl
      · exact .bind (h.several _) fun _ => .refl
    · split
      · exact .refl
      · -- A dictionary or a set: the sign behind the first item tells them apart.
        refine .bind (h.expression _) fun (first, after) => ?_
        dsimp only
        split
        · refine .bind (h.expression _) fun (value, rest) => ?_
          dsimp only
          split
          · exact .bind (h.entries _) fun _ => .refl
          · exact .refl
        · split
          · split
            · exact .bind (h.several _) fun _ => .refl
            · exact .refl
          · exact .refl
    · exact .refl

omit h input

/-- No rule of the grammar loses what it found when it gets one more level. The induction is on the
levels, and one step is the lemmas above. -/
theorem grows (n : Nat) : Grows n := by
  induction n with
  | zero =>
      -- Without levels nothing is read.
      constructor <;> intros <;> exact .none
  | succ n ih =>
      exact ⟨expression_within ih, disjunction_within ih, conjunction_within ih, inversion_within ih,
        comparisons_within ih, sum_within ih, fun left input => sumAfter_within ih input left,
        product_within ih, fun left input => productAfter_within ih input left, factor_within ih,
        fun value input => trailers_within ih input value,
        fun isNamed input => arguments_within ih input isNamed,
        fun isNamed input => argumentsAfter_within ih input isNamed, indices_within ih,
        moreIndices_within ih, index_within ih, optional_within ih, several_within ih,
        entries_within ih, atom_within ih⟩

/-- **More levels** read the same expressions. -/
theorem expressions_of_le {levels more : Nat} (hle : levels ≤ more) {input rest : List Lexeme}
    {found : Expr} (h : expressions levels input = some (found, rest)) :
    expressions more input = some (found, rest) := by
  induction hle with
  | refl => exact h
  | step _ ih => exact Within.bind ((grows _).several input) (fun _ => .refl) _ ih

end Stencil.Script.Grammar
