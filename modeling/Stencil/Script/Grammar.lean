import Stencil.Script.Lexeme

/-!
# The grammar of scripts

Lexemes are put together into expressions and statements. Every function reads the longest piece of
its kind from the front of the lexemes and gives back the rest, or nothing if there is none.

Design points:

* From the weakest to the strongest binding: choice, `or`, `and`, `not`, comparison, sum, product,
  sign, power, and then what follows a value directly. The right operand of a power may have a sign.
* A list of expressions goes on after a comma only if an expression can begin there, so a comma may
  also stand last.
* What is assigned to is read as an expression first and has to be a place.
* `levels` bounds how deeply pieces lie inside one another. The bound that `Script.ofSource?` takes
  is larger than any source of its length can use up.
-/

namespace Stencil.Script

/-- What a source reads as, and the lexemes after it. -/
abbrev Reader (α : Type) := List Lexeme → Option (α × List Lexeme)

namespace Grammar

/-! ### Single lexemes -/

/-- The rest after a sign. -/
def sign? (text : String) : List Lexeme → Option (List Lexeme)
  | .sign found :: rest => if found = text.toList then some rest else none
  | _ => none

/-- The rest after a word. -/
def word? (text : String) : List Lexeme → Option (List Lexeme)
  | .name found :: rest => if found = text.toList then some rest else none
  | _ => none

/-- A name that is not reserved. -/
def plainName? : Reader Text
  | .name found :: rest => if isReserved found then none else some (found, rest)
  | _ => none

/-- The rest after the end of a line. -/
def lineEnd? : List Lexeme → Option (List Lexeme)
  | .lineEnd :: rest => some rest
  | _ => none

/-- Can an expression begin here? -/
def mayBegin : List Lexeme → Bool
  | .name found :: _ =>
      !isReserved found || ["None", "True", "False", "not"].any fun word => word.toList = found
  | .constant _ :: _ | .text _ :: _ | .bytes _ :: _ => true
  | .sign found :: _ => ["(", "[", "\x7b", "-", "+"].any fun sign => sign.toList = found
  | _ => false

/-- Text literals that stand side by side are one. -/
def joinTexts (text : Text) : List Lexeme → Option (Text × List Lexeme)
  | .text more :: rest => joinTexts (text ++ more) rest
  | .bytes _ :: _ => none
  | rest => some (text, rest)

@[inherit_doc joinTexts]
def joinBytes (bytes : List UInt8) : List Lexeme → Option (List UInt8 × List Lexeme)
  | .bytes more :: rest => joinBytes (bytes ++ more) rest
  | .text _ :: _ => none
  | rest => some (bytes, rest)

/-- The comparison at the front of the lexemes. -/
def comparison? : Reader Comparison
  | .sign found :: rest =>
      let comparisons : List Comparison := [.eq, .ne, .lt, .le, .gt, .ge]
      (comparisons.find? fun c => c.label = found).map (·, rest)
  | .name found :: rest =>
      if found = "in".toList then some (.isIn, rest)
      else if found = "not".toList then (word? "in" rest).map (.notIn, ·)
      else if found = "is".toList then
        match word? "not" rest with
        | some after => some (.isNot, after)
        | none => some (.is, rest)
      else none
  | _ => none

/-- The operator at the front of the lexemes, if it is one of these. -/
def operator? (operators : List Operator) : Reader Operator
  | .sign found :: rest => (operators.find? fun o => o.label = found).map (·, rest)
  | _ => none

/-- The operator of an assignment that updates a place. -/
def updating? : Reader Operator
  | .sign found :: rest =>
      let operators : List Operator := [.add, .sub, .mul, .div, .floorDiv, .mod, .pow]
      (operators.find? fun o => o.label ++ ['='] = found).map (·, rest)
  | _ => none

/-! ### Expressions -/

mutual

/-- An expression, perhaps a choice between two. -/
def expression (levels : Nat) : Reader Expr :=
  match levels with
  | 0 => fun _ => none
  | levels + 1 => fun input => do
      let (first, rest) ← disjunction levels input
      match word? "if" rest with
      | none => return (first, rest)
      | some rest =>
          let (condition, rest) ← disjunction levels rest
          let rest ← word? "else" rest
          let (last, rest) ← expression levels rest
          return (.choice condition first last, rest)

/-- Operands of `or`. -/
def disjunction (levels : Nat) : Reader Expr :=
  match levels with
  | 0 => fun _ => none
  | levels + 1 => fun input => do
      let (first, rest) ← conjunction levels input
      match word? "or" rest with
      | none => return (first, rest)
      | some rest =>
          let (last, rest) ← disjunction levels rest
          return (.or first last, rest)

/-- Operands of `and`. -/
def conjunction (levels : Nat) : Reader Expr :=
  match levels with
  | 0 => fun _ => none
  | levels + 1 => fun input => do
      let (first, rest) ← inversion levels input
      match word? "and" rest with
      | none => return (first, rest)
      | some rest =>
          let (last, rest) ← conjunction levels rest
          return (.and first last, rest)

/-- A comparison, perhaps behind `not`. -/
def inversion (levels : Nat) : Reader Expr :=
  match levels with
  | 0 => fun _ => none
  | levels + 1 => fun input =>
      match word? "not" input with
      | some rest => do
          let (operand, rest) ← inversion levels rest
          return (.not operand, rest)
      | none => do
          let (first, rest) ← sum levels input
          let (more, rest) ← comparisons levels rest
          return (if more.isEmpty then first else .compare first more, rest)

/-- The comparisons that follow an operand. -/
def comparisons (levels : Nat) : Reader (List (Comparison × Expr)) :=
  match levels with
  | 0 => fun _ => none
  | levels + 1 => fun input =>
      match comparison? input with
      | none => some ([], input)
      | some (comparison, rest) => do
          let (operand, rest) ← sum levels rest
          let (more, rest) ← comparisons levels rest
          return ((comparison, operand) :: more, rest)

/-- Terms with `+` and `-` between them. -/
def sum (levels : Nat) : Reader Expr :=
  match levels with
  | 0 => fun _ => none
  | levels + 1 => fun input => do
      let (first, rest) ← product levels input
      sumAfter levels first rest

/-- The terms that follow those of `left`. -/
def sumAfter (levels : Nat) (left : Expr) : Reader Expr :=
  match levels with
  | 0 => fun _ => none
  | levels + 1 => fun input =>
      match operator? [.add, .sub] input with
      | none => some (left, input)
      | some (operator, rest) => do
          let (right, rest) ← product levels rest
          sumAfter levels (.binary operator left right) rest

/-- Factors with `*`, `/`, `//` and `%` between them. -/
def product (levels : Nat) : Reader Expr :=
  match levels with
  | 0 => fun _ => none
  | levels + 1 => fun input => do
      let (first, rest) ← factor levels input
      productAfter levels first rest

/-- The factors that follow those of `left`. -/
def productAfter (levels : Nat) (left : Expr) : Reader Expr :=
  match levels with
  | 0 => fun _ => none
  | levels + 1 => fun input =>
      match operator? [.mul, .div, .floorDiv, .mod] input with
      | none => some (left, input)
      | some (operator, rest) => do
          let (right, rest) ← factor levels rest
          productAfter levels (.binary operator left right) rest

/-- A power, perhaps behind signs. -/
def factor (levels : Nat) : Reader Expr :=
  match levels with
  | 0 => fun _ => none
  | levels + 1 => fun input =>
      match sign? "-" input, sign? "+" input with
      | some rest, _ => do
          let (operand, rest) ← factor levels rest
          return (.negative operand, rest)
      | none, some rest => do
          let (operand, rest) ← factor levels rest
          return (.positive operand, rest)
      | none, none => do
          let (base, rest) ← atom levels input
          let (base, rest) ← trailers levels base rest
          match sign? "**" rest with
          | none => return (base, rest)
          | some rest =>
              let (power, rest) ← factor levels rest
              return (.binary .pow base power, rest)

/-- Attributes, calls and subscripts that follow a value. -/
def trailers (levels : Nat) (value : Expr) : Reader Expr :=
  match levels with
  | 0 => fun _ => none
  | levels + 1 => fun input =>
      match sign? "." input, sign? "(" input, sign? "[" input with
      | some rest, _, _ => do
          let (name, rest) ← plainName? rest
          trailers levels (.attribute value name) rest
      | _, some rest, _ => do
          let ((positional, named), rest) ← arguments levels false rest
          trailers levels (.call value positional named) rest
      | _, _, some rest => do
          let (index, rest) ← indices levels rest
          let rest ← sign? "]" rest
          trailers levels (.subscript value index) rest
      | none, none, none => some (value, input)

/-- The arguments of a call up to its closing bracket. After a named one all are named. -/
def arguments (levels : Nat) (isNamed : Bool) : Reader (List Expr × List (Text × Expr)) :=
  match levels with
  | 0 => fun _ => none
  | levels + 1 => fun input =>
      match sign? ")" input with
      | some rest => some (([], []), rest)
      | none => do
          let named : Option (Text × List Lexeme) := do
            let (name, rest) ← plainName? input
            return (name, ← sign? "=" rest)
          match named with
          | some (name, rest) =>
              let (value, rest) ← expression levels rest
              let ((positional, more), rest) ← argumentsAfter levels true rest
              return ((positional, (name, value) :: more), rest)
          | none =>
              if isNamed then none
              else
                let (value, rest) ← expression levels input
                let ((positional, more), rest) ← argumentsAfter levels false rest
                return ((value :: positional, more), rest)

/-- The arguments that follow one, after a comma. -/
def argumentsAfter (levels : Nat) (isNamed : Bool) : Reader (List Expr × List (Text × Expr)) :=
  match levels with
  | 0 => fun _ => none
  | levels + 1 => fun input =>
      match sign? "," input with
      | some rest => arguments levels isNamed rest
      | none => (sign? ")" input).map (([], []), ·)

/-- The index of a subscript. Several indices with commas are a tuple. -/
def indices (levels : Nat) : Reader Expr :=
  match levels with
  | 0 => fun _ => none
  | levels + 1 => fun input => do
      let (first, rest) ← index levels input
      match sign? "," rest with
      | none => return (first, rest)
      | some rest =>
          let (more, rest) ← moreIndices levels rest
          return (.tuple (first :: more), rest)

/-- The indices that follow a comma. -/
def moreIndices (levels : Nat) : Reader (List Expr) :=
  match levels with
  | 0 => fun _ => none
  | levels + 1 => fun input =>
      if (sign? "]" input).isSome then some ([], input)
      else do
        let (first, rest) ← index levels input
        match sign? "," rest with
        | none => return ([first], rest)
        | some rest =>
            let (more, rest) ← moreIndices levels rest
            return (first :: more, rest)

/-- One index: an expression, or the bounds of a slice. -/
def index (levels : Nat) : Reader Expr :=
  match levels with
  | 0 => fun _ => none
  | levels + 1 => fun input => do
      let (start, rest) ← optional levels input
      match sign? ":" rest with
      | none => start.map (·, rest)
      | some rest =>
          let (stop, rest) ← optional levels rest
          match sign? ":" rest with
          | none => return (.slice start stop none, rest)
          | some rest =>
              let (step, rest) ← optional levels rest
              return (.slice start stop step, rest)

/-- An expression, if one begins here. -/
def optional (levels : Nat) : Reader (Option Expr) :=
  match levels with
  | 0 => fun _ => none
  | levels + 1 => fun input =>
      if mayBegin input then (expression levels input).map fun (e, rest) => (some e, rest)
      else some (none, input)

/-- Expressions with commas between them, and whether there is a comma at all. -/
def several (levels : Nat) : Reader (List Expr × Bool) :=
  match levels with
  | 0 => fun _ => none
  | levels + 1 => fun input => do
      let (first, rest) ← expression levels input
      match sign? "," rest with
      | none => return (([first], false), rest)
      | some rest =>
          if mayBegin rest then
            let ((more, _), rest) ← several levels rest
            return ((first :: more, true), rest)
          else return (([first], true), rest)

/-- Entries of a dictionary with commas between them, up to its closing bracket. -/
def entries (levels : Nat) : Reader (List (Expr × Expr)) :=
  match levels with
  | 0 => fun _ => none
  | levels + 1 => fun input =>
      match sign? "\x7d" input with
      | some rest => some ([], rest)
      | none => do
          let (key, rest) ← expression levels input
          let rest ← sign? ":" rest
          let (value, rest) ← expression levels rest
          match sign? "," rest with
          | some rest =>
              let (more, rest) ← entries levels rest
              return ((key, value) :: more, rest)
          | none => return ([(key, value)], ← sign? "\x7d" rest)

/-- A value that is written out: a constant, a name, or something in brackets. -/
def atom (levels : Nat) : Reader Expr :=
  match levels with
  | 0 => fun _ => none
  | levels + 1 => fun input =>
      match input with
      | .constant value :: rest => some (.constant value, rest)
      | .text first :: rest =>
          (joinTexts first rest).map fun (text, rest) => (.constant (.text text), rest)
      | .bytes first :: rest =>
          (joinBytes first rest).map fun (bytes, rest) => (.constant (.bytes bytes), rest)
      | .name found :: rest =>
          if found = "None".toList then some (.constant .none, rest)
          else if found = "True".toList then some (.constant (.bool true), rest)
          else if found = "False".toList then some (.constant (.bool false), rest)
          else if isReserved found then none
          else some (.name found, rest)
      | input =>
          match sign? "(" input, sign? "[" input, sign? "\x7b" input with
          | some rest, _, _ =>
              match sign? ")" rest with
              | some rest => some (.tuple [], rest)
              | none => do
                  let ((items, isTuple), rest) ← several levels rest
                  let rest ← sign? ")" rest
                  match items, isTuple with
                  | [item], false => return (item, rest)
                  | items, _ => return (.tuple items, rest)
          | _, some rest, _ =>
              match sign? "]" rest with
              | some rest => some (.list [], rest)
              | none => do
                  let ((items, _), rest) ← several levels rest
                  return (.list items, ← sign? "]" rest)
          | _, _, some rest =>
              match sign? "\x7d" rest with
              | some rest => some (.dict [], rest)
              | none => do
                  let (first, after) ← expression levels rest
                  match sign? ":" after with
                  | some rest =>
                      let (value, rest) ← expression levels rest
                      match sign? "," rest with
                      | some rest =>
                          let (more, rest) ← entries levels rest
                          return (.dict ((first, value) :: more), rest)
                      | none => return (.dict [(first, value)], ← sign? "\x7d" rest)
                  | none =>
                      match sign? "," after with
                      | some more =>
                          if mayBegin more then
                            let ((items, _), rest) ← several levels more
                            return (.set (first :: items), ← sign? "\x7d" rest)
                          else return (.set [first], ← sign? "\x7d" more)
                      | none => return (.set [first], ← sign? "\x7d" after)
          | none, none, none => none

end

/-- One expression, or a tuple of several. -/
def expressions (levels : Nat) : Reader Expr := fun input => do
  let ((items, isTuple), rest) ← several levels input
  match items, isTuple with
  | [item], false => return (item, rest)
  | items, _ => return (.tuple items, rest)

/-! ### Places -/

mutual

/-- An expression as a place that can be assigned to. -/
def target? : Expr → Option Target
  | .name name => some (.name name)
  | .subscript object index => some (.subscript object index)
  | .attribute object name => some (.attribute object name)
  | .tuple items => (targets? items).map .items
  | .list items => (targets? items).map .items
  | _ => none

/-- Expressions as places. -/
def targets? : List Expr → Option (List Target)
  | [] => some []
  | item :: rest => do return (← target? item) :: (← targets? rest)

end

/-- A place that can be updated: one that is not taken apart. -/
def single? (e : Expr) : Option Target :=
  (target? e).filter fun | .items _ => false | _ => true

/-! ### Statements -/

/-- The values and the places of an assignment, after its first equality sign. -/
def assignment (levels : Nat) : Nat → List Target → Reader Statement
  | 0, _ => fun _ => none
  | limit + 1, targets => fun input => do
      let (value, rest) ← expressions levels input
      match sign? "=" rest with
      | none => return (.assign targets value, rest)
      | some rest => assignment levels limit (targets ++ [← target? value]) rest

/-- The places of a deletion. -/
def deletion (levels : Nat) : Reader Statement := fun input => do
  let (found, rest) ← expressions levels input
  match found with
  | .tuple items => return (.delete (← targets? items), rest)
  | item => return (.delete [← target? item], rest)

/-- A statement that fits on a line. -/
def simple (levels : Nat) : Reader Statement := fun input =>
  match word? "pass" input, word? "break" input, word? "continue" input, word? "return" input,
      word? "del" input with
  | some rest, _, _, _, _ => some (.pass, rest)
  | _, some rest, _, _, _ => some (.breakLoop, rest)
  | _, _, some rest, _, _ => some (.continueLoop, rest)
  | _, _, _, some rest, _ =>
      if mayBegin rest then (expressions levels rest).map fun (e, rest) => (.result (some e), rest)
      else some (.result none, rest)
  | _, _, _, _, some rest => deletion levels rest
  | none, none, none, none, none => do
      let (first, rest) ← expressions levels input
      match sign? "=" rest, updating? rest with
      | some rest, _ => assignment levels (rest.length + 1) [← target? first] rest
      | none, some (operator, rest) =>
          let (value, rest) ← expressions levels rest
          return (.update (← single? first) operator value, rest)
      | none, none => return (.expression first, rest)

/-- Statements on one line with semicolons between them, up to the end of the line. -/
def line (levels : Nat) : Nat → Reader (List Statement)
  | 0 => fun _ => none
  | limit + 1 => fun input => do
      let (first, rest) ← simple levels input
      match sign? ";" rest with
      | none => return ([first], ← lineEnd? rest)
      | some rest =>
          match lineEnd? rest with
          | some rest => return ([first], rest)
          | none =>
              let (more, rest) ← line levels limit rest
              return (first :: more, rest)

mutual

/-- Statements up to the end of their block. -/
def statements (levels : Nat) : Reader (List Statement) :=
  match levels with
  | 0 => fun _ => none
  | levels + 1 => fun input =>
      match input with
      | [] => some ([], [])
      | .dedent :: _ => some ([], input)
      | input => do
          let (first, rest) ← statement levels input
          let (more, rest) ← statements levels rest
          return (first ++ more, rest)

/-- A line of statements, or a statement with a block. -/
def statement (levels : Nat) : Reader (List Statement) :=
  match levels with
  | 0 => fun _ => none
  | levels + 1 => fun input =>
      match word? "if" input, word? "for" input, word? "while" input with
      | some rest, _, _ => do
          let (found, rest) ← branch levels rest
          return ([found], rest)
      | _, some rest, _ => do
          let (places, rest) ← places levels rest
          let rest ← word? "in" rest
          let (collection, rest) ← expressions levels rest
          let (body, rest) ← block levels rest
          let (otherwise, rest) ← elseBlock levels rest
          return ([.loop places collection body otherwise], rest)
      | _, _, some rest => do
          let (condition, rest) ← expression levels rest
          let (body, rest) ← block levels rest
          let (otherwise, rest) ← elseBlock levels rest
          return ([.repeatWhile condition body otherwise], rest)
      | none, none, none => line levels (input.length + 1) input

/-- A branch after its `if` or `elif`. -/
def branch (levels : Nat) : Reader Statement :=
  match levels with
  | 0 => fun _ => none
  | levels + 1 => fun input => do
      let (condition, rest) ← expression levels input
      let (body, rest) ← block levels rest
      match word? "elif" rest with
      | some rest =>
          let (inner, rest) ← branch levels rest
          return (.branch condition body [inner], rest)
      | none =>
          let (otherwise, rest) ← elseBlock levels rest
          return (.branch condition body otherwise, rest)

/-- A block after `else`, or no statements. -/
def elseBlock (levels : Nat) : Reader (List Statement) :=
  match levels with
  | 0 => fun _ => none
  | levels + 1 => fun input =>
      match word? "else" input with
      | some rest => block levels rest
      | none => some ([], input)

/-- A block after its colon: the rest of the line, or lines that are set in further. -/
def block (levels : Nat) : Reader (List Statement) :=
  match levels with
  | 0 => fun _ => none
  | levels + 1 => fun input => do
      let rest ← sign? ":" input
      match rest with
      | .lineEnd :: .indent :: inside => do
          let (body, rest) ← statements levels inside
          match body, rest with
          | _ :: _, .dedent :: rest => return (body, rest)
          | _, _ => none
      | rest => line levels (rest.length + 1) rest

/-- The places that a loop assigns its items to, up to the word `in`. -/
def places (levels : Nat) : Reader Target :=
  match levels with
  | 0 => fun _ => none
  | levels + 1 => fun input => do
      let (first, rest) ← sum levels input
      match sign? "," rest with
      | none => return (← target? first, rest)
      | some rest =>
          let (more, rest) ← morePlaces levels rest
          return (.items ((← target? first) :: more), rest)

/-- The places that follow a comma. -/
def morePlaces (levels : Nat) : Reader (List Target) :=
  match levels with
  | 0 => fun _ => none
  | levels + 1 => fun input =>
      if mayBegin input then do
        let (first, rest) ← sum levels input
        let first ← target? first
        match sign? "," rest with
        | none => return ([first], rest)
        | some rest =>
            let (more, rest) ← morePlaces levels rest
            return (first :: more, rest)
      else some ([], input)

end

end Grammar

/-- The statements of a source, if it is a script. -/
def ofSource? (source : Text) : Option (List Statement) := do
  let lexemes ← Lexeme.ofSource? source
  let (found, rest) ← Grammar.statements (30 * (lexemes.length + 2)) lexemes
  if rest.isEmpty then some found else none

end Stencil.Script
