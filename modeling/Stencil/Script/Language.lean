import Stencil.Script.Body
import Stencil.Script.Grammar
import Stencil.Script.Host
import Stencil.Script.Run
import Stencil.Text.Lines

/-!
# The language of expressions

How a source is evaluated in a scope. The variables of the scope whose keys are names become the
variables of the script, and the name `context` stands for the scope itself. Assigning to a variable
changes the script's own variable only; a script that wants to change the scope writes to `context`.

A script reads the variable whose key is the very text of the name. The subset of scripts is that of
names in normal form (see `isName`).
-/

namespace Stencil.Script

/-- The name that stands for the scope. -/
def scopeName : Text := ['c', 'o', 'n', 't', 'e', 'x', 't']

/-- A name that is a constant and cannot be assigned to. -/
def constantName : Text := "__debug__".toList

/-- May a key of the scope be the name of a variable? -/
def isParameter (name : Text) : Bool :=
  isName name && !isReserved name && name ≠ scopeName

/-- The keys of a scope that are names of variables, in order. Names are told apart as they are
written, so a key and the names of a script are both in normal form. -/
def parameters (scope : Scope Value Value) : List Text :=
  scope.keys.filterMap fun key => match key with
    | .text name => if isParameter name then some name else none
    | _ => none

/-- The values of the variables, and the scope itself. -/
def arguments (scope : Scope Value Value) (chain : Chain) : Table Text Value :=
  ((parameters scope).filterMap fun name =>
      (scope.get? (.text name)).map fun value => (name, value))
    ++ [(scopeName, .mapping chain)]

/-- The statements of a source. A null character cannot stand in a script. -/
def read (source : Text) : Except Fault (List Statement) :=
  let body := Body.normalize source
  if body.contains '\x00' then .error (.value "source code string cannot contain null bytes")
  else match ofSource? (Body.endLine (Text.unifyLineEnds body)) with
    | some statements => .ok statements
    | none => .error .malformed

/-- The statements, if every one of them makes sense where it stands. -/
def check (parameters : List Text) (statements : List Statement) :
    Except Fault (List Statement) :=
  if areWellFormed 0 statements
      && !(parameters ++ namesOfStatements statements).contains constantName then
    .ok statements
  else .error .malformed

/-- The value of a source in a scope. -/
def run (source : Text) (chain : Chain) : Eval Value := do
  let scope ← Eval.scope chain
  let names := parameters scope
  let statements ← Eval.ofExcept (read source)
  let statements ← Eval.ofExcept (check names statements)
  let values := arguments scope chain
  runScript statements ⟨values.keys ++ namesOfStatements statements, values⟩

/-- The value of a source in a scope, with the source in every failure. -/
def evaluate (source : Text) (chain : Chain) : EStateM Failure Store Value := fun store =>
  match run source chain store with
  | .ok value store => .ok value store
  | .error fault store => .error (.evaluation source fault) store

/-- The language of expressions, as renderers see it. -/
def language : Evaluator Store Chain Value Failure :=
  evaluatorOf evaluate

/-- A script that was made ready to run: its source, and the names of its variables. -/
structure Compilation where
  source : Text
  parameters : List Text
  deriving Repr, DecidableEq

/-- The script that a source in a scope is made into. -/
def compilation? (store : Store) (source : Text) (chain : Chain) : Option Compilation :=
  match read source with
  | .ok _ => some ⟨source, parameters (store.scope chain)⟩
  | .error _ => none

end Stencil.Script
