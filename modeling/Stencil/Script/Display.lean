import Stencil.Script.Store

/-!
# Written values

Every value has a written form. `Store.repr` writes texts in quotes, so that the form shows what
kind of value it is of; `Store.display` is what a template inserts, where a text stands for itself.

A list or a dictionary inside itself is written as three dots in brackets. A method is written with
what it belongs to, and without the address of it.
-/

namespace Stencil.Script.Store

/-- The greatest number of digits that an integer is written with. -/
def digitLimit : Nat := 4300

/-- The fault of an integer with too many digits. -/
def tooManyDigits : Fault :=
  .value ("Exceeds the limit (4300 digits) for integer string conversion; "
    ++ "use sys.set_int_max_str_digits() to increase the limit")

/-- An integer in decimal. -/
def integerText (n : Int) : Except Fault Text :=
  if n.natAbs < Nat.pow 10 digitLimit then .ok (Text.ofInt n) else .error tooManyDigits

/-- Texts with commas between them, inside brackets. -/
def bracketed (opening : String) (items : List Text) (closing : String) : Text :=
  opening.toList ++ Text.join [',', ' '] items ++ closing.toList

/-- The words around the contents of a view. -/
def viewBrackets (kind : ViewKind) : String :=
  match kind with
  | .keys => "dict_keys(["
  | .values => "dict_values(["
  | .items => "dict_items(["

mutual

/-- The written form of a value inside the cells of `seen`, at most `depth` values deep. -/
def reprIn (store : Store) (seen : List Address) : Nat → Value → Except Fault Text
  | 0, _ => .ok ['.', '.', '.']
  | depth + 1, value =>
      match value with
      | .none => .ok "None".toList
      | .bool true => .ok "True".toList
      | .bool false => .ok "False".toList
      | .int n => integerText n
      | .float x => .ok (Text.ofFloat x)
      | .text t => .ok (Text.quoted t)
      | .bytes b => .ok (Text.quotedBytes b)
      | .tuple [item] => do
          return bracketed "(" [← reprIn store seen depth item] ",)"
      | .tuple items => do
          return bracketed "(" (← reprAll store seen depth items) ")"
      | .range start stop step => do
          let bounds ← [start, stop].mapM integerText
          let more ← if step = 1 then pure [] else [step].mapM integerText
          return bracketed "range(" (bounds ++ more) ")"
      | .list address =>
          if seen.contains address then .ok "[...]".toList
          else do
            return bracketed "[" (← reprAll store (address :: seen) depth (store.list address)) "]"
      | .set address => do
          match store.set address with
          | [] => return "set()".toList
          | items => return bracketed "\x7b" (← reprAll store (address :: seen) depth items) "\x7d"
      | .mapping chain => reprChain store seen depth chain
      | .view kind chain => do
          match chain with
          | [address] =>
              let items := (store.items? (.view kind [address])).getD []
              return bracketed (viewBrackets kind) (← reprAll store seen depth items) "])"
          | chain =>
              return (Value.typeName (.view kind chain)) ++
                bracketed "(" [← reprChain store seen depth chain] ")"
      | .builtin function =>
          if function.isType then .ok ("<class '".toList ++ function.label ++ "'>".toList)
          else .ok ("<built-in function ".toList ++ function.label ++ ['>'])
      | .method (.mapping (inner :: next :: outer)) method => do
          return "<bound method ".toList ++ method.nameInScope ++ " of ".toList
            ++ (← reprChain store seen depth (inner :: next :: outer)) ++ ['>']
      | .method receiver method =>
          .ok ("<built-in method ".toList ++ method.label ++ " of ".toList
            ++ receiver.typeName ++ " object>".toList)
      | .slice start stop step => do
          return bracketed "slice(" (← reprAll store seen depth [start, stop, step]) ")"
      | .other typeName => .ok ('<' :: typeName ++ " object>".toList)
  termination_by structural depth => depth

/-- The written forms of several values. -/
def reprAll (store : Store) (seen : List Address) : Nat → List Value → Except Fault (List Text)
  | 0, _ => .ok []
  | depth + 1, items => items.mapM (reprIn store seen depth)
  termination_by structural depth => depth

/-- The written form of a mapping: a dictionary, or a scope with the one around it. -/
def reprChain (store : Store) (seen : List Address) : Nat → List Address → Except Fault Text
  | 0, _ => .ok ['.', '.', '.']
  | _, [] => .ok []
  | depth + 1, [address] =>
      if seen.contains address then .ok "\x7b...\x7d".toList
      else do
        let entries := store.dict address
        let keys ← reprAll store (address :: seen) depth (entries.map (·.1))
        let values ← reprAll store (address :: seen) depth (entries.map (·.2))
        let written := (keys.zip values).map fun (key, value) => key ++ ':' :: ' ' :: value
        return bracketed "\x7b" written "\x7d"
  | depth + 1, address :: outer => do
      let inner ← reprChain store seen depth [address]
      let around ← reprChain store seen depth outer
      return "LoopScope(".toList ++ inner ++ ", parent=".toList ++ around ++ [')']
  termination_by structural depth => depth

end

/-- The number of values that writing follows one inside another. -/
def writingDepth : Nat := 1000

/-- The written form of a value. -/
def repr (store : Store) (value : Value) : Except Fault Text :=
  store.reprIn [] writingDepth value

/-- The text of a value: a text as it is, and everything else in its written form. -/
def str (store : Store) (value : Value) : Except Fault Text :=
  match value with
  | .text t => .ok t
  | value => store.repr value

/-- The text that a template inserts for a value: nothing inserts nothing. -/
def display (store : Store) (value : Value) : Except Fault Text :=
  match value with
  | .none => .ok []
  | value => store.str value

end Stencil.Script.Store
