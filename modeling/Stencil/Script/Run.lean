import Stencil.Script.Binding
import Stencil.Script.Call

/-!
# Running scripts

What expressions and statements mean. An expression has a value, a statement changes the variables
of its script and may leave a loop or the whole script; both may change the store.

Design points:

* The variables of a script are its own: a store never sees them, and they are gone after it.
* A name that the script assigns to anywhere is its own variable everywhere in it. Without a value
  it cannot be read, not even if a function has the same name.
* A loop over a list asks for one item after another, so it sees what is added to the list. A loop
  over a mapping fails as soon as the number of its keys has changed.
* Everything but the rounds of a loop is recursion on the script itself. Rounds are bounded by a
  number that no run reaches.
-/

namespace Stencil.Script

/-- The variables of a script: the names that are its own, and the values they have. -/
structure Locals where
  own : List Text
  values : Table Text Value

namespace Locals

/-- Give a variable a value. -/
def put (locals : Locals) (name : Text) (value : Value) : Locals :=
  { locals with values := Table.put name value locals.values }

/-- Take the value of a variable away. -/
def without (locals : Locals) (name : Text) : Locals :=
  { locals with values := Table.without locals.values name }

/-- The value of a name: that of a variable, or a function that every script knows. The name is in
normal form, as the names of the variables are. -/
def read (locals : Locals) (name : Text) : Eval Value :=
  match Table.get? locals.values name with
  | some value => return value
  | none =>
      if locals.own.contains name then throw (.unassigned name)
      else if name = "__debug__".toList then return .bool true
      else match Builtin.ofName? name with
        | some function => return .builtin function
        | none => throw (.unknownName name)

end Locals

/-! ### Expressions -/

/-- The value of a constant. -/
def Constant.value : Constant → Value
  | none => .none
  | bool b => .bool b
  | int n => .int n
  | float x => .float x
  | text t => .text t
  | bytes b => .bytes b

mutual

/-- The value of an expression. -/
def Expr.eval (locals : Locals) : Expr → Eval Value
  | .constant c => return c.value
  | .name name => locals.read name
  | .tuple items => do return .tuple (← evalAll locals items)
  | .list items => do Eval.newList (← evalAll locals items)
  | .set items => do
      let values ← evalAll locals items
      for value in values do Eval.checkKey value
      modifyGet (Store.newSet values)
  | .dict entries => do
      let table ← evalEntries locals entries
      for (key, _) in table do Eval.checkKey key
      modifyGet (Store.newDict (Table.ofEntries table))
  | .subscript object index => do
      let object ← object.eval locals
      let index ← index.eval locals
      Operation.subscript object index
  | .slice start stop step => do
      let start ← evalOption locals start
      let stop ← evalOption locals stop
      return .slice start stop (← evalOption locals step)
  | .attribute object name => do Call.member (← object.eval locals) name
  | .call function arguments named => do
      let function ← function.eval locals
      let positional ← evalAll locals arguments
      Call.call function ⟨positional, ← evalNamed locals named⟩
  | .binary operator left right => do
      let left ← left.eval locals
      let right ← right.eval locals
      Operation.binary operator operator.messageLabel left right
  | .negative operand => do Eval.ofExcept (Arithmetic.negate (← operand.eval locals))
  | .positive operand => do Eval.ofExcept (Arithmetic.keepSign (← operand.eval locals))
  | .not operand => do
      let value ← operand.eval locals
      return .bool (!(← get).isTrue value)
  | .and left right => do
      let value ← left.eval locals
      if (← get).isTrue value then right.eval locals else return value
  | .or left right => do
      let value ← left.eval locals
      if (← get).isTrue value then return value else right.eval locals
  | .compare first rest => do
      let value ← first.eval locals
      evalComparisons locals value rest
  | .choice condition ifTrue ifFalse => do
      let value ← condition.eval locals
      if (← get).isTrue value then ifTrue.eval locals else ifFalse.eval locals

/-- The values of expressions in order. -/
def evalAll (locals : Locals) : List Expr → Eval (List Value)
  | [] => return []
  | item :: rest => do
      let value ← item.eval locals
      return value :: (← evalAll locals rest)

/-- The values of named expressions in order. -/
def evalNamed (locals : Locals) : List (Text × Expr) → Eval (List (Text × Value))
  | [] => return []
  | (name, item) :: rest => do
      let value ← item.eval locals
      return (name, value) :: (← evalNamed locals rest)

/-- The entries of a dictionary in order. -/
def evalEntries (locals : Locals) : List (Expr × Expr) → Eval (List (Value × Value))
  | [] => return []
  | (key, item) :: rest => do
      let key ← key.eval locals
      let value ← item.eval locals
      return (key, value) :: (← evalEntries locals rest)

/-- The value of an expression that may be missing. -/
def evalOption (locals : Locals) : Option Expr → Eval Value
  | none => return .none
  | some item => item.eval locals

/-- The answer of a chain of comparisons after its first operand: they are made up to the first one
that does not hold. -/
def evalComparisons (locals : Locals) (left : Value) : List (Comparison × Expr) → Eval Value
  | [] => return left
  | (comparison, item) :: rest => do
      let right ← item.eval locals
      let holds ← Operation.compare comparison left right
      match rest with
      | [] => return .bool holds
      | rest => if holds then evalComparisons locals right rest else return .bool false

end

/-! ### Places -/

mutual

/-- Assign a value to a place. -/
def Target.assign (locals : Locals) (value : Value) : Target → Eval Locals
  | .name n => return locals.put n value
  | .subscript object index => do
      let object ← object.eval locals
      let index ← index.eval locals
      Operation.assign object index value
      return locals
  | .attribute object member => do
      let object ← object.eval locals
      throw (.noAttribute object.typeName member)
  | .items targets => do
      let values ← Operation.unpack targets.length value
      assignAll locals values targets

/-- Assign values to places, one by one. -/
def assignAll (locals : Locals) : List Value → List Target → Eval Locals
  | value :: values, target :: targets => do
      let locals ← target.assign locals value
      assignAll locals values targets
  | _, _ => return locals

end

/-- Assign one value to several places. -/
def assignEach (locals : Locals) (value : Value) : List Target → Eval Locals
  | [] => return locals
  | target :: rest => do
      let locals ← target.assign locals value
      assignEach locals value rest

mutual

/-- Delete what a place holds. -/
def Target.delete (locals : Locals) : Target → Eval Locals
  | .name n =>
      if Table.has locals.values n then return locals.without n
      else throw (.unassigned n)
  | .subscript object index => do
      let object ← object.eval locals
      let index ← index.eval locals
      Operation.delete object index
      return locals
  | .attribute object member => do
      let object ← object.eval locals
      throw (.noAttribute object.typeName member)
  | .items targets => deleteAll locals targets

/-- Delete what several places hold. -/
def deleteAll (locals : Locals) : List Target → Eval Locals
  | [] => return locals
  | target :: rest => do
      let locals ← target.delete locals
      deleteAll locals rest

end

/-- Update a place: what it holds is read once, and the result put back. -/
def Target.update (locals : Locals) (operator : Operator) (value : Expr) : Target → Eval Locals
  | .name n => do
      let old ← locals.read n
      let operand ← value.eval locals
      return locals.put n (← Operation.update operator old operand)
  | .subscript object index => do
      let object ← object.eval locals
      let index ← index.eval locals
      let old ← Operation.subscript object index
      let operand ← value.eval locals
      Operation.assign object index (← Operation.update operator old operand)
      return locals
  | .attribute object member => do
      let object ← object.eval locals
      let _ ← Call.member object member
      throw (.noAttribute object.typeName member)
  | .items _ => return locals

/-! ### Statements -/

/-- How a statement ends. -/
inductive Flow
  | next
  | leaveLoop
  | continueLoop
  /-- The script is over, with a result. -/
  | result (value : Value)

/-- The number of rounds that a loop may have: more than any run has. -/
def roundLimit : Nat := Nat.pow 2 60

/-- The end of a loop: its last statements run unless it was left. -/
def afterLoop (otherwise : Locals → Eval (Flow × Locals)) (flow : Flow) (locals : Locals) :
    Eval (Flow × Locals) :=
  match flow with
  | .next | .continueLoop => otherwise locals
  | .leaveLoop => return (.next, locals)
  | .result value => return (.result value, locals)

/-- Rounds over visits, up to one that leaves the loop. -/
def visitAll (round : Locals → Value → Eval (Flow × Locals)) (locals : Locals) :
    List Visit → Eval (Flow × Locals)
  | [] => return (.next, locals)
  | visit :: rest => do
      match ← visit.item? with
      | none => visitAll round locals rest
      | some value => do
          let (flow, locals) ← round locals value
          match flow with
          | .next | .continueLoop => visitAll round locals rest
          | flow => return (flow, locals)

/-- Rounds over stretches, up to one that leaves the loop. -/
def visitEach (round : Locals → Value → Eval (Flow × Locals)) (locals : Locals) :
    List Stretch → Eval (Flow × Locals)
  | [] => return (.next, locals)
  | stretch :: rest => do
      let (flow, locals) ← visitAll round locals (stretch.visits (← get))
      match flow with
      | .next | .continueLoop => visitEach round locals rest
      | flow => return (flow, locals)

/-- Rounds over the items that a list has, one after another, from an index on. -/
def visitList (round : Locals → Value → Eval (Flow × Locals)) (address : Address) :
    Nat → Nat → Locals → Eval (Flow × Locals)
  | 0, _, locals => return (.next, locals)
  | limit + 1, index, locals => do
      match ((← get).list address)[index]? with
      | none => return (.next, locals)
      | some value => do
          let (flow, locals) ← round locals value
          match flow with
          | .next | .continueLoop => visitList round address limit (index + 1) locals
          | flow => return (flow, locals)

/-- Rounds over a value that is not a list. -/
def visitValue (round : Locals → Value → Eval (Flow × Locals)) (collection : Value)
    (locals : Locals) : Eval (Flow × Locals) := do
  match Stretch.ofValue? (← get) collection with
  | some stretches => visitEach round locals stretches
  | none => throw (.object collection.typeName "is not iterable")

/-- Rounds over a value. -/
def visit (round : Locals → Value → Eval (Flow × Locals)) (collection : Value) (locals : Locals) :
    Eval (Flow × Locals) :=
  match collection with
  | .list address => visitList round address roundLimit 0 locals
  | collection => visitValue round collection locals

/-- Rounds as long as a condition holds. -/
def roundsWhile (condition : Locals → Eval Bool) (round : Locals → Eval (Flow × Locals)) :
    Nat → Locals → Eval (Flow × Locals)
  | 0, locals => return (.next, locals)
  | limit + 1, locals => do
      if ← condition locals then
        let (flow, locals) ← round locals
        match flow with
        | .next | .continueLoop => roundsWhile condition round limit locals
        | flow => return (flow, locals)
      else return (.next, locals)

mutual

/-- Run a statement. -/
def Statement.run : Statement → Locals → Eval (Flow × Locals)
  | .expression value, locals => do
      let _ ← value.eval locals
      return (.next, locals)
  | .assign targets value, locals => do
      let value ← value.eval locals
      return (.next, ← assignEach locals value targets)
  | .update target operator value, locals => do
      return (.next, ← target.update locals operator value)
  | .delete targets, locals => do return (.next, ← deleteAll locals targets)
  | .branch condition body otherwise, locals => do
      let value ← condition.eval locals
      if (← get).isTrue value then runAll body locals else runAll otherwise locals
  | .loop target collection body otherwise, locals => do
      let collection ← collection.eval locals
      let round (locals : Locals) (value : Value) : Eval (Flow × Locals) := do
        runAll body (← target.assign locals value)
      let (flow, locals) ← visit round collection locals
      afterLoop (runAll otherwise) flow locals
  | .repeatWhile condition body otherwise, locals => do
      let holds (locals : Locals) : Eval Bool := do
        let value ← condition.eval locals
        return (← get).isTrue value
      let (flow, locals) ← roundsWhile holds (runAll body) roundLimit locals
      afterLoop (runAll otherwise) flow locals
  | .breakLoop, locals => return (.leaveLoop, locals)
  | .continueLoop, locals => return (.continueLoop, locals)
  | .pass, locals => return (.next, locals)
  | .result value, locals => do return (.result (← evalOption locals value), locals)

/-- Run statements one after another, up to one that does not go on. -/
def runAll : List Statement → Locals → Eval (Flow × Locals)
  | [], locals => return (.next, locals)
  | statement :: rest, locals => do
      let (flow, locals) ← statement.run locals
      match flow with
      | .next => runAll rest locals
      | flow => return (flow, locals)

end

/-- Run a whole script; without a result it yields nothing. -/
def runScript (statements : List Statement) (locals : Locals) : Eval Value := do
  match (← runAll statements locals).1 with
  | .result value => return value
  | _ => return .none

end Stencil.Script
