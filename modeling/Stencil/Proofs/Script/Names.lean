import Stencil.Proofs.Script.Inline
import Stencil.Proofs.Text.Trim

/-!
# Names as expressions

A name that is not reserved is an expression, and its value is that of the variable
(`evaluate_name`). So a source that consists of the name of a variable yields what the variable is
passed.
-/

namespace Stencil.Script

namespace Lexeme

variable {name : Text}

/-- A line with nothing but a name is read as that name. -/
theorem reads_name (h : isName name) :
    Reads .none ⟨[], 0, false⟩ (name ++ ['\n']) [.name name, .lineEnd] := by
  -- The end of the line ends the name, and does not make it the prefix of a literal.
  have hend : isWordLike '\n' = false ∧ isQuote '\n' = false := by decide
  exact .lexeme rfl (next?_name h hend.1 hend.2) rfl trivial
    (.lineEnd (.lastLine rfl (by simp) rfl))

end Lexeme

/-! ### Reading a name -/

namespace Grammar

variable {name : Text} {levels : Nat}

/-- The line with nothing but a name. -/
def nameLine (name : Text) : List Lexeme :=
  [.name name, .lineEnd]

/-- The rules of the grammar pass a single name on from the lowest level up to expressions; the next
lemmas are these steps. -/
theorem atom_name (plain : ¬isReserved name) :
    atom (levels + 1) (nameLine name) = some (.name name, [.lineEnd]) := by
  have known : ∀ word ∈ ["None", "True", "False"], word ∈ reservedWords := by decide
  have other : ∀ word ∈ ["None", "True", "False"], name ≠ word.toList := by
    intro word hword heq
    exact plain (List.any_eq_true.2 ⟨word, known word hword, by simp [heq]⟩)
  rw [nameLine, atom]
  dsimp only
  rw [if_neg (other "None" (by decide)), if_neg (other "True" (by decide)),
    if_neg (other "False" (by decide)), if_neg plain]

theorem factor_name (plain : ¬isReserved name) :
    factor (levels + 2) (nameLine name) = some (.name name, [.lineEnd]) := by
  have signs : sign? "-" (nameLine name) = none ∧ sign? "+" (nameLine name) = none := ⟨rfl, rfl⟩
  rw [factor]
  dsimp only
  rw [signs.1, signs.2]
  dsimp only
  rw [atom_name plain]
  rfl

theorem product_name (plain : ¬isReserved name) :
    product (levels + 3) (nameLine name) = some (.name name, [.lineEnd]) := by
  rw [product]
  show (factor (levels + 2) (nameLine name)).bind _ = _
  rw [factor_name plain]
  rfl

theorem sum_name (plain : ¬isReserved name) :
    sum (levels + 4) (nameLine name) = some (.name name, [.lineEnd]) := by
  rw [sum]
  show (product (levels + 3) (nameLine name)).bind _ = _
  rw [product_name plain]
  rfl

theorem inversion_name (plain : ¬isReserved name) :
    inversion (levels + 5) (nameLine name) = some (.name name, [.lineEnd]) := by
  have hnot : word? "not" (nameLine name) = none := by
    refine if_neg ?_
    rintro rfl
    exact plain (by decide)
  rw [inversion]
  dsimp only
  rw [hnot]
  show (sum (levels + 4) (nameLine name)).bind _ = _
  rw [sum_name plain]
  rfl

theorem expression_name (plain : ¬isReserved name) :
    expression (levels + 8) (nameLine name) = some (.name name, [.lineEnd]) := by
  have hconjunction : conjunction (levels + 6) (nameLine name) = some (.name name, [.lineEnd]) := by
    rw [conjunction]
    show (inversion (levels + 5) (nameLine name)).bind _ = _
    rw [inversion_name plain]
    rfl
  have hdisjunction : disjunction (levels + 7) (nameLine name) = some (.name name, [.lineEnd]) := by
    rw [disjunction]
    show (conjunction (levels + 6) (nameLine name)).bind _ = _
    rw [hconjunction]
    rfl
  rw [expression]
  show (disjunction (levels + 7) (nameLine name)).bind _ = _
  rw [hdisjunction]
  rfl

/-- **A name is an expression.** -/
theorem expressions_name (plain : ¬isReserved name) :
    expressions (levels + 9) (nameLine name) = some (.name name, [.lineEnd]) := by
  have hseveral : several (levels + 9) (nameLine name)
      = some (([.name name], false), [.lineEnd]) := by
    rw [several]
    show (expression (levels + 8) (nameLine name)).bind _ = _
    rw [expression_name plain]
    rfl
  rw [expressions]
  show (several (levels + 9) (nameLine name)).bind _ = _
  rw [hseveral]
  rfl

end Grammar

/-! ### Its value -/

variable {name : Text} {chain : Chain} {store : Store} {value : Value}

/-- What stands in no name. -/
theorem not_mem_of_isName (h : isName name) :
    '\x00' ∉ name ∧ '\n' ∉ name ∧ '\r' ∉ name ∧ ';' ∉ name := by
  have outside : ∀ c, Lexeme.isWordLike c = false → c ∉ name := by
    intro c hc hmem
    rw [Lexeme.isWordLike_of_isName h c hmem] at hc
    cases hc
  exact ⟨outside _ (by decide), outside _ (by decide), outside _ (by decide),
    outside _ (by decide)⟩

theorem trim_name (h : isName name) : Text.trim name = name := by
  have visible := Lexeme.not_isBlank_of_isName h
  refine Text.trim_eq_iff.2 ⟨⟨[], [], by simp, by simp, by simp⟩, ?_, ?_⟩
  · intro c hc
    exact visible c (List.mem_of_mem_head? hc)
  · intro c hc
    exact visible c (List.mem_of_mem_getLast? hc)

/-- A name alone is an expression, so it is prepared to be returned. -/
theorem prepare_name (h : isName name) : prepare name = returning (Text.trim name) := by
  obtain ⟨-, line, -, noSemicolon⟩ := not_mem_of_isName h
  have htrim := prepare_trim line noSemicolon
  rw [trim_name h] at htrim ⊢
  exact htrim

/-- A name is the expression that reads the variable. -/
theorem ofText?_name (h : isName name) (plain : ¬isReserved name) :
    Expr.ofText? name = some (.name name) := by
  have hscan : Lexeme.scan? (2 * name.length + 4) { atLineStart := false } (name ++ ['\n'])
      = some (Grammar.nameLine name) := by
    refine (Lexeme.reads_name h).scan?_eq ?_
    rw [Lexeme.cost, List.length_append]
    simp
    omega
  have hexpressions : Grammar.expressions (30 * ((Grammar.nameLine name).length + 2))
      (Grammar.nameLine name) = some (.name name, [.lineEnd]) :=
    Grammar.expressions_name plain
  have hnull : ¬name.contains '\x00' := by
    rw [List.contains_iff_mem]
    exact (not_mem_of_isName h).1
  rw [Expr.ofText?, if_neg hnull, hscan]
  show (Grammar.expressions _ (Grammar.nameLine name)).bind _ = _
  rw [hexpressions]
  rfl

/-- **The source that consists of a name** yields what the variable is passed, unless a constant is
among the keys of the scope. -/
theorem evaluate_name (h : isName name) (plain : ¬isReserved name)
    (noConstant : .text constantName ∉ (store.scope chain).keys)
    (passed : (arguments (store.scope chain) chain).get? name = some value) :
    evaluate (prepare name) chain store = .ok value store := by
  obtain ⟨-, line, noReturn, -⟩ := not_mem_of_isName h
  have hread : Locals.read
      ⟨(arguments (store.scope chain) chain).keys, arguments (store.scope chain) chain⟩ name
      = pure value := by rw [Locals.read, passed]
  have hvalue : (Expr.name name).valueIn chain store = .ok value store := by
    show Locals.read _ name store = _
    rw [hread]
    rfl
  rw [prepare_name h, evaluate_returning (ofText?_name h plain) line noReturn noConstant,
    Expr.valueOf, hvalue]

end Stencil.Script
