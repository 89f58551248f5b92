import Stencil.Number.Layout
import Stencil.Script.Fault
import Stencil.Table

/-!
# Values of scripts

What variables hold and expressions yield. Numbers, texts, tuples and ranges are values in
themselves; lists, dictionaries and sets can change, so their values are addresses of cells in a
store (`Stencil.Script.Store`).

A mapping is the chain of the dictionaries that it looks into, innermost first. A plain dictionary
is a chain of one; a longer chain is the scope of a loop body.

Two values are one key when they are equal, where truth values and numbers count as numbers.
-/

namespace Stencil.Script

/-- Where a value that can change is kept. -/
abbrev Address := Nat

/-- The functions that every script knows. -/
inductive Builtin
  | abs | bool | int | len | list | max | min | range | repr | sorted | str | sum
  deriving Repr, DecidableEq

/-- The operations that belong to values. -/
inductive Method
  | upper | lower | split | join | replace | startswith | endswith | find | strip
  | append | pop | sort | reverse | index | count
  | get | keys | values | items | setdefault | update | clear | popitem
  deriving Repr, DecidableEq

/-- The three ways to look at a mapping. -/
inductive ViewKind
  | keys | values | items
  deriving Repr, DecidableEq

/-- A value of a script. -/
inductive Value
  | none
  | bool (value : Bool)
  | int (value : Int)
  | float (value : Float)
  | text (value : Text)
  | bytes (value : List UInt8)
  | tuple (items : List Value)
  | range (start stop step : Int)
  | list (address : Address)
  | set (address : Address)
  /-- A dictionary, or the scope of a loop body over one. -/
  | mapping (chain : List Address)
  | view (kind : ViewKind) (chain : List Address)
  | builtin (function : Builtin)
  /-- An operation of a value, ready to be called. -/
  | method (receiver : Value) (method : Method)
  /-- The bounds of a slice. -/
  | slice (start stop step : Value)
  /-- A value of which only the name of its type is known. -/
  | other (typeName : Text)
  deriving Inhabited

namespace Builtin

/-- The name of a function. -/
def label : Builtin → Text
  | abs => "abs".toList
  | bool => "bool".toList
  | int => "int".toList
  | len => "len".toList
  | list => "list".toList
  | max => "max".toList
  | min => "min".toList
  | range => "range".toList
  | repr => "repr".toList
  | sorted => "sorted".toList
  | str => "str".toList
  | sum => "sum".toList

/-- All functions that every script knows. -/
def all : List Builtin :=
  [abs, bool, int, len, list, max, min, range, repr, sorted, str, sum]

/-- The function of a name. -/
def ofName? (name : Text) : Option Builtin :=
  all.find? fun function => function.label = name

/-- Is the function the maker of the values of a type? -/
def isType : Builtin → Bool
  | bool | int | list | range | str => true
  | _ => false

end Builtin

namespace Method

/-- The name of an operation. -/
def label : Method → Text
  | upper => "upper".toList
  | lower => "lower".toList
  | split => "split".toList
  | join => "join".toList
  | replace => "replace".toList
  | startswith => "startswith".toList
  | endswith => "endswith".toList
  | find => "find".toList
  | strip => "strip".toList
  | append => "append".toList
  | pop => "pop".toList
  | sort => "sort".toList
  | reverse => "reverse".toList
  | index => "index".toList
  | count => "count".toList
  | get => "get".toList
  | keys => "keys".toList
  | values => "values".toList
  | items => "items".toList
  | setdefault => "setdefault".toList
  | update => "update".toList
  | clear => "clear".toList
  | popitem => "popitem".toList

/-- The name of an operation of scopes, behind that of the family of mappings which has it: those
that can be looked at, or those that can be changed. -/
def nameInScope : Method → Text
  | get => "Mapping.get".toList
  | keys => "Mapping.keys".toList
  | values => "Mapping.values".toList
  | items => "Mapping.items".toList
  | method => "MutableMapping.".toList ++ method.label

/-- The operations of texts. -/
def ofText : List Method :=
  [upper, lower, split, join, replace, startswith, endswith, find, strip, index, count]

/-- The operations of lists. -/
def ofList : List Method := [append, pop, sort, reverse, index, count, clear]

/-- The operations of mappings. -/
def ofMapping : List Method :=
  [get, pop, keys, values, items, setdefault, update, clear, popitem]

end Method

namespace Value

/-- The name of a value's type, as messages give it. -/
def typeName : Value → Text
  | none => "NoneType".toList
  | bool _ => "bool".toList
  | int _ => "int".toList
  | float _ => "float".toList
  | text _ => "str".toList
  | bytes _ => "bytes".toList
  | tuple _ => "tuple".toList
  | range _ _ _ => "range".toList
  | list _ => "list".toList
  | set _ => "set".toList
  | mapping [_] => "dict".toList
  | mapping _ => "LoopScope".toList
  | view .keys [_] => "dict_keys".toList
  | view .values [_] => "dict_values".toList
  | view .items [_] => "dict_items".toList
  | view .keys _ => "KeysView".toList
  | view .values _ => "ValuesView".toList
  | view .items _ => "ItemsView".toList
  | builtin function =>
      if function.isType then "type".toList else "builtin_function_or_method".toList
  | method (.mapping (_ :: _ :: _)) _ => "method".toList
  | method _ _ => "builtin_function_or_method".toList
  | slice _ _ _ => "slice".toList
  | other name => name

/-- The operations of a value. -/
def methods : Value → List Method
  | text _ => Method.ofText
  | list _ => Method.ofList
  | tuple _ => [.index, .count]
  | mapping _ => Method.ofMapping
  | _ => []

/-- The number of terms of a range. -/
def rangeLength (start stop step : Int) : Nat :=
  if 0 < step then
    if start < stop then ((stop - start - 1) / step + 1).toNat else 0
  else if stop < start then ((start - stop - 1) / -step + 1).toNat else 0

/-- Can the integer count the items of a sequence, forwards or backwards? -/
def isIndexSized (n : Int) : Bool :=
  -(Nat.pow 2 63) ≤ n && n < Nat.pow 2 63

/-- The terms of a range. -/
def rangeItems (start stop step : Int) : List Value :=
  (List.range (rangeLength start stop step)).map fun i : Nat => .int (start + step * i)

/-! ### Numbers -/

/-- A number as an exact fraction with a positive denominator; truth values are numbers. -/
def ratio? : Value → Option (Int × Nat)
  | bool value => some (if value then 1 else 0, 1)
  | int value => some (value, 1)
  | float value => (Binary.ofFloat? value).map Binary.toSignedRatio
  | _ => Option.none

/-- Is the value a number? -/
def isNumber : Value → Bool
  | bool _ | int _ | float _ => true
  | _ => false

/-- The integer that a value stands for where an integer is called for. -/
def integer? : Value → Option Int
  | bool value => some (if value then 1 else 0)
  | int value => some value
  | _ => Option.none

/-- Are two numbers equal? Numbers that are not finite are compared as they are. -/
def numbersEqual (a b : Value) : Bool :=
  match ratio? a, ratio? b with
  | some (n, d), some (n', d') => n * d' == n' * d
  | _, _ =>
      match a, b with
      | float x, float y => x == y
      | _, _ => false

/-- Is the first number less than the second? -/
def numberLess (a b : Value) : Bool :=
  match ratio? a, ratio? b with
  | some (n, d), some (n', d') => n * d' < n' * d
  | _, _ =>
      match a, b with
      | float x, float y => x < y
      | float x, _ => x < 0
      | _, float y => 0 < y
      | _, _ => false

/-! ### Keys -/

mutual

/-- The type of a part of the value that cannot be a key. -/
def notHashable? : Value → Option Text
  | list a => some (typeName (list a))
  | set a => some (typeName (set a))
  | mapping chain => some (typeName (mapping chain))
  | view .keys chain => some (typeName (view .keys chain))
  | view .items chain => some (typeName (view .items chain))
  | slice a b c => some (typeName (slice a b c))
  | tuple items => notHashableIn? items
  | _ => Option.none

/-- The first part among several values that cannot be a key. -/
def notHashableIn? : List Value → Option Text
  | [] => Option.none
  | item :: rest => notHashable? item <|> notHashableIn? rest

end

mutual

/-- Are two values one key? Cells count as the same only if they are one cell. -/
def sameKey : Value → Value → Bool
  | none, none => true
  | text s, text t => s = t
  | bytes s, bytes t => s = t
  | tuple items, tuple items' => sameKeys items items'
  | range a b c, range a' b' c' =>
      let n := rangeLength a b c
      n == rangeLength a' b' c' && (n == 0 || (a == a' && (n == 1 || c == c')))
  | list a, list b => a == b
  | set a, set b => a == b
  | mapping chain, mapping chain' => chain == chain'
  | view kind chain, view kind' chain' => decide (kind = kind') && chain == chain'
  | builtin f, builtin g => decide (f = g)
  | method receiver m, method receiver' m' => sameKey receiver receiver' && decide (m = m')
  | slice a b c, slice a' b' c' => sameKey a a' && sameKey b b' && sameKey c c'
  | other name, other name' => name == name'
  | float x, float y => x.toBits == y.toBits || numbersEqual (float x) (float y)
  | bool x, bool y => x == y
  | int x, int y => x == y
  | bool x, int y => numbersEqual (bool x) (int y)
  | int x, bool y => numbersEqual (int x) (bool y)
  | bool x, float y => numbersEqual (bool x) (float y)
  | float x, bool y => numbersEqual (float x) (bool y)
  | int x, float y => numbersEqual (int x) (float y)
  | float x, int y => numbersEqual (float x) (int y)
  | _, _ => false

/-- Are two lists of values the same keys in the same order? -/
def sameKeys : List Value → List Value → Bool
  | [], [] => true
  | a :: rest, b :: more => sameKey a b && sameKeys rest more
  | _, _ => false

end

instance : BEq Value := ⟨sameKey⟩

end Value

end Stencil.Script
