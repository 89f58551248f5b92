import Stencil.Script.Format

/-!
# Operations on values

What the operators, the comparisons and the subscripts of scripts do. Every operation runs on a
store: it may make new values, and those that put something into a list or a mapping change it.
-/

namespace Stencil.Script

namespace Operation

/-! ### Going through values -/

/-- The values that going through a value yields. -/
def items (value : Value) : Eval (List Value) := do
  match (← get).items? value with
  | some items => return items
  | none => throw (.object value.typeName "is not iterable")

/-! ### Operators -/

/-- The greatest number of items that a value can have. -/
def lengthLimit : Nat := Nat.pow 2 33

/-- A sequence repeated; `tooLong` is the fault of a length that cannot be counted. -/
def repeated {α : Type} (tooLong : Fault) (items : List α) (count : Int) : Eval (List α) :=
  if !Value.isIndexSized count then
    throw (.overflow "cannot fit 'int' into an index-sized integer")
  else if !Value.isIndexSized (items.length * count.toNat) then throw tooLong
  else if lengthLimit ≤ items.length * count.toNat then throw .memory
  else return (List.replicate count.toNat items).flatten

/-- Is the value a sequence that can be repeated? -/
def isRepeatable : Value → Bool
  | .text _ | .bytes _ | .tuple _ | .list _ => true
  | _ => false

/-- A sequence repeated as often as a value says. -/
def repeatSequence (sequence count : Value) : Eval Value :=
  match count.integer? with
  | none => throw (.typeNamed "can't multiply sequence by non-int of type " count.typeName)
  | some n => do
      match sequence with
      | .text t => return .text (← repeated (.overflow "repeated string is too long") t n)
      | .bytes b => return .bytes (← repeated (.overflow "repeated bytes are too long") b n)
      | .tuple items => return .tuple (← repeated .memory items n)
      | .list address => Eval.newList (← repeated .memory ((← get).list address) n)
      | value => return value

/-- Two sequences of one type joined, where the first one is a sequence. -/
def concatenate? (a b : Value) : Option (Eval Value) :=
  match a, b with
  | .text s, .text t => some (pure (.text (s ++ t)))
  | .bytes s, .bytes t => some (pure (.bytes (s ++ t)))
  | .tuple s, .tuple t => some (pure (.tuple (s ++ t)))
  | .list s, .list t => some do
      let store ← get
      Eval.newList (store.list s ++ store.list t)
  | .text _, b | .tuple _, b | .list _, b =>
      some (throw (.concatenation a.typeName b.typeName))
  | .bytes _, b => some (throw (.typeBare ("can't concat " ++ String.ofList b.typeName ++ " to ")
      "bytes".toList))
  | _, _ => none

/-- The result of an operator; `sign` is how messages name it. -/
def binary (operator : Operator) (sign : Text) (a b : Value) : Eval Value :=
  if a.isNumber && b.isNumber then Eval.ofExcept (Arithmetic.onNumbers operator a b)
  else
    let unsupported : Eval Value := throw (.operands sign a.typeName b.typeName)
    match operator with
    | .add => (concatenate? a b).getD unsupported
    | .mul =>
        if isRepeatable a then repeatSequence a b
        else if isRepeatable b then repeatSequence b a
        else unsupported
    | .mod =>
        match a with
        | .text t => Format.format t b
        | _ => unsupported
    | .sub =>
        match a, b with
        | .set s, .set t => do
            let store ← get
            modifyGet (Store.newSet ((store.set s).filter (!(store.set t).contains ·)))
        | _, _ => unsupported
    | _ => unsupported

/-- The result of an operator that updates a place. A list takes up what is added to it. -/
def update (operator : Operator) (a b : Value) : Eval Value :=
  match operator, a with
  | .add, .list address => do
      let more ← items b
      let store ← get
      Eval.write address (.list (store.list address ++ more))
      return a
  | .mul, .list address =>
      match b.integer? with
      | some n => do
          let store ← get
          Eval.write address (.list (← repeated .memory (store.list address) n))
          return a
      | none => repeatSequence a b
  | operator, a => binary operator (operator.label ++ ['=']) a b

/-! ### Comparisons -/

/-- Are two values one and the same? A list, a set or a mapping is the cell that it lives in. A value
that cannot change has no identity of its own: two of them are the same when they are equal and of
one type. -/
def isSame (a b : Value) : Bool :=
  a.typeName = b.typeName && a.sameKey b

/-- The answer of a comparison of two lengths. -/
def byLength (comparison : Comparison) (m n : Nat) : Bool :=
  match comparison with
  | .lt => m < n
  | .le => m ≤ n
  | .gt => n < m
  | _ => n ≤ m

/-- The answer of a comparison of two numbers. -/
def byNumber (comparison : Comparison) (a b : Value) : Bool :=
  match comparison with
  | .lt => a.numberLess b
  | .le => a.numberLess b || a.numbersEqual b
  | .gt => b.numberLess a
  | _ => b.numberLess a || a.numbersEqual b

/-- The answer of a comparison of two texts. -/
def byText (comparison : Comparison) (s t : Text) : Bool :=
  match comparison with
  | .lt => Text.isBefore s t
  | .le => !Text.isBefore t s
  | .gt => Text.isBefore t s
  | _ => !Text.isBefore s t

/-- The answer of a comparison of two sets, which is whether one lies within the other. -/
def byElements (comparison : Comparison) (xs ys : List Value) : Bool :=
  let within := xs.all ys.contains
  let around := ys.all xs.contains
  match comparison with
  | .lt => within && xs.length < ys.length
  | .le => within
  | .gt => around && ys.length < xs.length
  | _ => around

/-- The answer of a comparison of two sequences: that for the first items that differ, or else that
for the lengths. -/
def lexical (comparison : Comparison) (order : Value → Value → Eval Bool) :
    List Value → List Value → Eval Bool
  | x :: xs, y :: ys => do
      let same ← Eval.ask fun store =>
        if x.sameKey y then .ok true else store.equal x y
      if same then lexical comparison order xs ys else order x y
  | xs, ys => return byLength comparison xs.length ys.length

/-- The answer of a comparison of two values that have an order, at most `depth` values deep. -/
def ordered (comparison : Comparison) : Nat → Value → Value → Eval Bool
  | 0, _, _ => throw .nesting
  | depth + 1, a, b =>
      match a, b with
      | .text s, .text t => return byText comparison s t
      | .bytes s, .bytes t =>
          lexical comparison (ordered comparison depth) (s.map fun x => .int x.toNat)
            (t.map fun x => .int x.toNat)
      | .tuple s, .tuple t => lexical comparison (ordered comparison depth) s t
      | .list s, .list t => do
          let store ← get
          lexical comparison (ordered comparison depth) (store.list s) (store.list t)
      | .set s, .set t => do
          let store ← get
          return byElements comparison (store.set s) (store.set t)
      | a, b =>
          if a.isNumber && b.isNumber then return byNumber comparison a b
          else throw (.noOrder comparison.label a.typeName b.typeName)

/-- Are two values equal? -/
def equal (a b : Value) : Eval Bool :=
  Eval.ask fun store => store.equal a b

/-- Is a value equal to one of the items, or the same? -/
def isAmong (value : Value) : List Value → Eval Bool
  | [] => return false
  | item :: rest => do
      if value.sameKey item then return true
      else if ← equal item value then return true
      else isAmong value rest

/-- Is a value among those that going through another one yields? -/
def isWithin (container value : Value) : Eval Bool := do
  match (← get).items? container with
  | some items => isAmong value items
  | none => throw (⟨.type, "argument of type '".toList ++ container.typeName
      ++ "' is not iterable".toList⟩)

/-- Is a byte with the number among some bytes? -/
def hasByte (bytes : List UInt8) (n : Int) : Eval Bool :=
  if 0 ≤ n && n < 256 then return bytes.contains n.toNat.toUInt8
  else throw (.value "byte must be in range(0, 256)")

/-- Is a value in another one? -/
def contains (container value : Value) : Eval Bool := do
  match container with
  | .mapping chain => do
      Eval.checkKey value
      return (← Eval.scope chain).has value
  | .set address => do
      Eval.checkKey value
      return ((← get).set address).contains value
  | .text t =>
      match value with
      | .text part => return Text.occurs part t
      | value => throw (.typeBare "'in <string>' requires string as left operand, not "
          value.typeName)
  | .bytes b =>
      match value, value.integer? with
      | .bytes part, _ =>
          return (List.range (b.length + 1)).any fun place => part.isPrefixOf (b.drop place)
      | _, some n => hasByte b n
      | value, none => throw (.typeNamed "a bytes-like object is required, not " value.typeName)
  | .range start stop step =>
      match value with
      | .int _ | .bool _ =>
          let n := value.integer?.getD 0
          let isBetween := if 0 < step then start ≤ n && n < stop else stop < n && n ≤ start
          return isBetween && (n - start) % step = 0
      | value => isAmong value (Value.rangeItems start stop step)
  | container => isWithin container value

/-- The answer of a comparison. -/
def compare (comparison : Comparison) (a b : Value) : Eval Bool := do
  match comparison with
  | .eq => equal a b
  | .ne => return !(← equal a b)
  | .isIn => contains b a
  | .notIn => return !(← contains b a)
  | .is => return isSame a b
  | .isNot => return !isSame a b
  | comparison => ordered comparison Store.comparisonDepth a b

/-! ### Subscripts -/

/-- The place that an index means in a sequence; negative ones count from the end. -/
def place? (length : Nat) (index : Int) : Option Nat :=
  let index := if index < 0 then index + length else index
  if 0 ≤ index && index < length then some index.toNat else none

/-- The place that an index means in a sequence; `range` is the name of a sequence in messages about
an index that it does not have. -/
def placeIn (range : String) (length : Nat) (index : Int) : Eval Nat :=
  if !Value.isIndexSized index then
    throw ⟨.index, "cannot fit 'int' into an index-sized integer".toList⟩
  else match place? length index with
    | some place => return place
    | none => throw (.outOfRange range)

/-- A bound of a slice, moved into the range that it can have. -/
def bound (length : Nat) (low high : Int) (value : Value) (default : Int) : Eval Int :=
  match value with
  | .none => return default
  | value => match value.integer? with
    | none => throw (.type
        "slice indices must be integers or None or have an __index__ method")
    | some n =>
        let n := if n < 0 then n + length else n
        return max low (min high n)

/-- The step between the places of a slice. -/
def sliceStep (value : Value) : Eval Int :=
  match value with
  | .none => return 1
  | value => match value.integer? with
    | some 0 => throw (.value "slice step cannot be zero")
    | some n => return n
    | none => throw (.type
        "slice indices must be integers or None or have an __index__ method")

/-- Where a slice of a sequence starts and stops, and the step between its places. -/
def sliceBounds (length : Nat) (start stop step : Value) : Eval (Int × Int × Int) := do
  let step ← sliceStep step
  let (low, high) : Int × Int := if 0 < step then (0, length) else (-1, (length : Int) - 1)
  let start ← bound length low high start (if 0 < step then 0 else (length : Int) - 1)
  let stop ← bound length low high stop (if 0 < step then length else -1)
  return (start, stop, step)

/-- The places between two bounds, by steps. -/
def placesBetween (start stop step : Int) : List Nat :=
  (List.range (Value.rangeLength start stop step)).map fun i : Nat => (start + step * i).toNat

/-- The places that a slice takes from a sequence, in order. -/
def slicePlaces (length : Nat) (start stop step : Value) : Eval (List Nat) := do
  let (start, stop, step) ← sliceBounds length start stop step
  return placesBetween start stop step

/-- The items at the places of a slice. -/
def takeSlice {α : Type} (items : List α) (start stop step : Value) : Eval (List α) := do
  let places ← slicePlaces items.length start stop step
  return places.filterMap fun place => items[place]?

/-- The item of a sequence at an index; `range` is the name of the sequence in messages about an index
that it does not have. -/
def itemAt {α : Type} (range : String) (items : List α) (index : Int) : Eval α := do
  match items[← placeIn range items.length index]? with
  | some item => return item
  | none => throw (.outOfRange range)

/-- The item of a sequence at an index, or its items at a slice. `what` is the name of the sequence
in messages about a wrong index, and `range` in messages about one that it does not have. -/
def fromSequence {α : Type} (what range : String) (items : List α) (one : α → Value)
    (many : List α → Eval Value) (index : Value) : Eval Value :=
  match index with
  | .slice start stop step => do many (← takeSlice items start stop step)
  | index => do match index.integer? with
    | none => throw (.typeBare (what ++ ", not ") index.typeName)
    | some n => return one (← itemAt range items n)

/-- What a value holds at an index. -/
def subscript (object index : Value) : Eval Value := do
  match object with
  | .mapping chain => do
      Eval.checkKey index
      match (← Eval.scope chain).get? index with
      | some value => return value
      | none => Eval.missing index
  | .list address => do
      let items := (← get).list address
      fromSequence "list indices must be integers or slices" "list index" items id
        Eval.newList index
  | .tuple items =>
      fromSequence "tuple indices must be integers or slices" "tuple index" items id
        (fun items => return .tuple items) index
  | .text t =>
      match index, index.integer? with
      | .slice _ _ _, _ | _, some _ =>
          fromSequence "" "string index" t (fun c => .text [c]) (fun t => return .text t) index
      | index, none => throw (.typeNamed "string indices must be integers, not "
          index.typeName)
  | .bytes b =>
      fromSequence "byte indices must be integers or slices" "index" b
        (fun x => .int x.toNat) (fun b => return .bytes b) index
  | .range start stop step =>
      match index with
      | .slice first last by_ => do
          let (first, last, stride) ←
            sliceBounds (Value.rangeLength start stop step) first last by_
          return .range (start + step * first) (start + step * last) (step * stride)
      | index => match index.integer? with
        | none => throw (.typeBare "range indices must be integers or slices, not "
            index.typeName)
        | some n => match place? (Value.rangeLength start stop step) n with
          | some place => return .int (start + step * place)
          | none => throw (.outOfRange "range object index")
  | object => throw (.object object.typeName "is not subscriptable")

/-- Items with new ones at some places. -/
def setPlaces (items : List Value) (places : List Nat) (news : List Value) : List Value :=
  (places.zip news).foldl (fun items (place, item) => items.set place item) items

/-- Items with those at the places of a slice replaced. Without steps between the places there may be
any number of new ones. -/
def replaceSlice (items : List Value) (start stop step : Value) (news : List Value) :
    Eval (List Value) := do
  let (start, stop, step) ← sliceBounds items.length start stop step
  let places := placesBetween start stop step
  if step = 1 then
    return items.take start.toNat ++ news ++ items.drop (max start.toNat stop.toNat)
  else if places.length = news.length then return setPlaces items places news
  else throw (.typeBare ("attempt to assign sequence of size " ++ toString news.length
    ++ " to extended slice of size " ++ toString places.length) [])

/-- Put a value into another one at an index. -/
def assign (object index value : Value) : Eval Unit := do
  match object with
  | .mapping chain => do
      Eval.checkKey index
      Eval.writeScope chain ((← Eval.scope chain).put index value)
  | .list address => do
      let items := (← get).list address
      match index with
      | .slice start stop step => do
          let news ← match (← get).items? value with
            | some news => pure news
            | none => throw (.type "can only assign an iterable")
          Eval.write address (.list (← replaceSlice items start stop step news))
      | index => match index.integer? with
        | none => throw (.typeBare "list indices must be integers or slices, not "
            index.typeName)
        | some n => do
            let place ← placeIn "list assignment index" items.length n
            Eval.write address (.list (items.set place value))
  | object => throw (.object object.typeName "does not support item assignment")

/-- Items without those at some places. -/
def dropPlaces (items : List Value) (places : List Nat) : List Value :=
  (items.zipIdx.filter fun (_, i) => !places.contains i).map (·.1)

/-- Take out what a value holds at an index. -/
def delete (object index : Value) : Eval Unit := do
  match object with
  | .mapping chain => do
      Eval.checkKey index
      match (← Eval.scope chain).erase? index with
      | some layers => Eval.writeScope chain layers
      | none => Eval.missing index
  | .list address => do
      let items := (← get).list address
      match index with
      | .slice start stop step => do
          let places ← slicePlaces items.length start stop step
          Eval.write address (.list (dropPlaces items places))
      | index => match index.integer? with
        | none => throw (.typeBare "list indices must be integers or slices, not "
            index.typeName)
        | some n => do
            let place ← placeIn "list assignment index" items.length n
            Eval.write address (.list (items.eraseIdx place))
  | .text _ | .bytes _ | .tuple _ | .range _ _ _ | .set _ =>
      throw (.object object.typeName (if index.integer?.isSome
        then "doesn't support item deletion" else "does not support item deletion"))
  | object => throw (.object object.typeName "does not support item deletion")

/-- The values that a sequence is taken apart into, exactly as many as wanted. -/
def unpack (count : Nat) (value : Value) : Eval (List Value) := do
  match (← get).items? value with
  | none => throw (.typeBare
      ("cannot unpack non-iterable " ++ String.ofList value.typeName ++ " object") [])
  | some items =>
      if items.length < count then
        throw (.value s!"not enough values to unpack (expected {count}, got {items.length})")
      else if count < items.length then
        throw (.value s!"too many values to unpack (expected {count})")
      else return items

end Operation

end Stencil.Script
