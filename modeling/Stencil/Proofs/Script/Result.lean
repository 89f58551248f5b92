import Stencil.Proofs.Script.Levels
import Stencil.Script.Run
import Stencil.Script.Binding

/-!
# Scripts that return an expression

A line that returns an expression is read as the one statement with that expression
(`ofLexemes_return`), and what it yields is the value of the expression
(`runScript_result`).
-/

namespace Stencil.Script

namespace Grammar

variable {levels : Nat} {input rest : List Lexeme}

/-! ### The first lexeme of an expression -/

theorem eq_of_sign? {text : String} (h : sign? text input = some rest) :
    input = .sign text.toList :: rest := by
  unfold sign? at h
  split at h
  · split at h
    · rename_i heq
      cases h
      rw [heq]
    · cases h
  · cases h

theorem eq_of_word? {text : String} (h : word? text input = some rest) :
    input = .name text.toList :: rest := by
  unfold word? at h
  split at h
  · split at h
    · rename_i heq
      cases h
      rw [heq]
    · cases h
  · cases h

/-- An expression may begin with one of these signs. -/
theorem mayBegin_of_sign? {text : String} (hmem : text ∈ ["(", "[", "\x7b", "-", "+"])
    (h : sign? text input = some rest) : mayBegin input := by
  rw [eq_of_sign? h, mayBegin, List.any_eq_true]
  exact ⟨text, hmem, by simp⟩

section

variable {found : Expr}

/-- What an atom may begin with. The rules above it begin with whatever the rule below begins with,
so the next lemmas go level by level. -/
theorem mayBegin_of_atom (h : atom levels input = some (found, rest)) : mayBegin input := by
  cases levels with
  | zero => cases h
  | succ levels =>
      rw [atom] at h
      dsimp only at h
      split at h
      · rfl
      · rfl
      · rfl
      · rw [mayBegin]
        split at h
        · rename_i known
          rw [known]
          decide +kernel
        · split at h
          · rename_i known
            rw [known]
            decide +kernel
          · split at h
            · rename_i known
              rw [known]
              decide +kernel
            · split at h
              · cases h
              · rename_i plain
                simp [plain]
      · split at h
        · exact mayBegin_of_sign? (by decide) ‹sign? "(" input = some _›
        · exact mayBegin_of_sign? (by decide) ‹sign? "[" input = some _›
        · exact mayBegin_of_sign? (by decide) ‹sign? "\x7b" input = some _›
        · cases h

theorem mayBegin_of_factor (h : factor levels input = some (found, rest)) : mayBegin input := by
  cases levels with
  | zero => cases h
  | succ levels =>
      rw [factor] at h
      dsimp only at h
      split at h
      · rename_i minus
        exact mayBegin_of_sign? (by decide) minus
      · rename_i plus
        exact mayBegin_of_sign? (by decide) plus
      · obtain ⟨_, first, -⟩ := Option.bind_eq_some_iff.1 h
        exact mayBegin_of_atom first

theorem mayBegin_of_product (h : product levels input = some (found, rest)) : mayBegin input := by
  cases levels with
  | zero => cases h
  | succ levels =>
      rw [product] at h
      obtain ⟨_, first, -⟩ := Option.bind_eq_some_iff.1 h
      exact mayBegin_of_factor first

theorem mayBegin_of_sum (h : sum levels input = some (found, rest)) : mayBegin input := by
  cases levels with
  | zero => cases h
  | succ levels =>
      rw [sum] at h
      obtain ⟨_, first, -⟩ := Option.bind_eq_some_iff.1 h
      exact mayBegin_of_product first

theorem mayBegin_of_inversion (h : inversion levels input = some (found, rest)) :
    mayBegin input := by
  cases levels with
  | zero => cases h
  | succ levels =>
      rw [inversion] at h
      dsimp only at h
      split at h
      · rename_i negation
        rw [eq_of_word? negation, mayBegin]
        decide +kernel
      · obtain ⟨_, first, -⟩ := Option.bind_eq_some_iff.1 h
        exact mayBegin_of_sum first

theorem mayBegin_of_conjunction (h : conjunction levels input = some (found, rest)) :
    mayBegin input := by
  cases levels with
  | zero => cases h
  | succ levels =>
      rw [conjunction] at h
      obtain ⟨_, first, -⟩ := Option.bind_eq_some_iff.1 h
      exact mayBegin_of_inversion first

theorem mayBegin_of_disjunction (h : disjunction levels input = some (found, rest)) :
    mayBegin input := by
  cases levels with
  | zero => cases h
  | succ levels =>
      rw [disjunction] at h
      obtain ⟨_, first, -⟩ := Option.bind_eq_some_iff.1 h
      exact mayBegin_of_conjunction first

theorem mayBegin_of_expression (h : expression levels input = some (found, rest)) :
    mayBegin input := by
  cases levels with
  | zero => cases h
  | succ levels =>
      rw [expression] at h
      obtain ⟨_, first, -⟩ := Option.bind_eq_some_iff.1 h
      exact mayBegin_of_disjunction first

/-- What expressions begin with is something that an expression may begin with. -/
theorem mayBegin_of_expressions (h : expressions levels input = some (found, rest)) :
    mayBegin input := by
  obtain ⟨_, first, -⟩ := Option.bind_eq_some_iff.1 h
  cases levels with
  | zero => cases first
  | succ levels =>
      rw [several] at first
      obtain ⟨_, first, -⟩ := Option.bind_eq_some_iff.1 first
      exact mayBegin_of_expression first

end

/-! ### The statement -/

/-- The lexemes of a line that returns an expression. -/
def returnLine (lexemes : List Lexeme) : List Lexeme :=
  .name "return".toList :: lexemes

theorem simple_return {found : Expr} (h : expressions levels input = some (found, rest)) :
    simple levels (returnLine input) = some (.result (some found), rest) := by
  have words : word? "pass" (returnLine input) = none ∧ word? "break" (returnLine input) = none
      ∧ word? "continue" (returnLine input) = none := ⟨rfl, rfl, rfl⟩
  have hreturn : word? "return" (returnLine input) = some input := rfl
  rw [simple, words.1, words.2.1, words.2.2, hreturn]
  dsimp only
  rw [if_pos (mayBegin_of_expressions h), h, Option.map_some]

/-- A line that returns an expression is one statement. -/
theorem statements_return {found : Expr}
    (h : expressions levels input = some (found, [.lineEnd])) :
    statements (levels + 2) (returnLine input) = some ([.result (some found)], []) := by
  have words : word? "if" (returnLine input) = none ∧ word? "for" (returnLine input) = none
      ∧ word? "while" (returnLine input) = none := ⟨rfl, rfl, rfl⟩
  have hline : line levels ((returnLine input).length + 1) (returnLine input)
      = some ([.result (some found)], []) := by
    rw [line]
    dsimp only
    rw [simple_return h]
    rfl
  have hstatement : statement (levels + 1) (returnLine input)
      = some ([.result (some found)], []) := by
    rw [statement]
    dsimp only
    rw [words.1, words.2.1, words.2.2]
    exact hline
  have hnone : statements (levels + 1) [] = some ([], []) := by
    rw [statements]
  rw [statements]
  show (statement (levels + 1) (returnLine input)).bind (fun found =>
    (statements (levels + 1) found.2).bind fun more => some (found.1 ++ more.1, more.2)) = _
  rw [hstatement, Option.bind_some, hnone, Option.bind_some]
  rfl

end Grammar

/-! ### Its value -/

/-- A script that only returns an expression has its value. -/
theorem runScript_result (found : Expr) (locals : Locals) :
    runScript [.result (some found)] locals = found.eval locals := by
  simp only [runScript, runAll, Statement.run, evalOption, bind_assoc, pure_bind, bind_pure]

end Stencil.Script
