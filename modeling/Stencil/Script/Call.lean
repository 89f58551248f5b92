import Stencil.Script.Sorting
import Stencil.Script.TextMethod
import Stencil.Script.Visit

/-!
# Calls

What the functions that every script knows and the methods of values do with their arguments.
Arguments may be given by position or by name; each function says which names it knows.

A function that takes another one to compute sort keys hands it single values, so calls never lie
more than two deep: `callWith` is given the way to apply a key function.
-/

namespace Stencil.Script.Call

/-! ### Arguments -/

/-- The arguments of a call. -/
structure Arguments where
  positional : List Value
  named : List (Text × Value) := []

/-- Arguments without names. -/
def refuseNames (what : String) (args : Arguments) : Eval (List Value) :=
  if args.named.isEmpty then return args.positional
  else throw (.type (what ++ " takes no keyword arguments"))

/-- The one argument of a function. -/
def single (what : String) (args : Arguments) : Eval Value := do
  match ← refuseNames what args with
  | [value] => return value
  | values => throw (.type s!"{what} takes exactly one argument ({values.length} given)")

/-- No arguments. -/
def nothing (what : String) (args : Arguments) : Eval Unit := do
  match ← refuseNames what args with
  | [] => return ()
  | values => throw (.type s!"{what} takes no arguments ({values.length} given)")

/-- A number of things, in words. -/
def counted (count : Nat) : String :=
  if count = 1 then "1 argument" else s!"{count} arguments"

/-- Between `low` and `high` arguments of a function, or of a method of the type `owner`. -/
def between (owner name : String) (low high : Nat) (args : Arguments) : Eval (List Value) := do
  let values ← refuseNames (owner ++ name ++ "()") args
  if values.length < low then
    let bound := if low = high then "" else "at least "
    throw (.type s!"{name} expected {bound}{counted low}, got {values.length}")
  else if high < values.length then
    let bound := if low = high then "" else "at most "
    throw (.type s!"{name} expected {bound}{counted high}, got {values.length}")
  else return values

/-- Arguments by name that a function knows. -/
def knownNames (what : String) (known : List String) (args : Arguments) : Eval Unit :=
  if known.length < args.named.length then throw (.type
    s!"{what}() takes at most {known.length} keyword arguments ({args.named.length} given)")
  else match args.named.find? fun (name, _) => !known.any (·.toList = name) with
  | none => return ()
  | some (name, _) => throw (.type
      s!"'{String.ofList name}' is an invalid keyword argument for {what}()")

/-- An argument by its name. -/
def byName? (args : Arguments) (name : String) : Option Value :=
  args.named.lookup name.toList

/-- The type of an argument, as messages about a wrong argument name it. -/
def givenType : Value → Text
  | .none => "None".toList
  | value => value.typeName

/-- An argument by its position or its name. -/
def argument? (args : Arguments) (position : Nat) (name : String) : Option Value :=
  (args.positional[position]?).orElse fun _ => byName? args name

/-- At most as many arguments as there are names, and `least` of them by position. Arguments without
a name can only be given by position, and none can be given twice. -/
def mixed (what : String) (least : Nat) (names : List String) (args : Arguments) : Eval Unit := do
  let count := args.positional.length
  let given := count + args.named.length
  if names.length < given then
    let most := if count = 0 then s!"{names.length} keyword arguments" else counted names.length
    throw (.type s!"{what}() takes at most {most} ({given} given)")
  else if count < least then
    throw (.type s!"{what}() takes at least {least} positional argument ({count} given)")
  else
    match names.zipIdx.find? fun (name, place) => place < count && (byName? args name).isSome with
    | some (name, place) => throw (.type
        s!"argument for {what}() given by name ('{name}') and position ({place + 1})")
    | none => knownNames what (names.filter (· ≠ "")) args

/-- An integer where one is called for. -/
def toInteger (value : Value) : Eval Int :=
  match value.integer? with
  | some n => return n
  | none => throw (.object value.typeName "cannot be interpreted as an integer")

/-- An integer that can count the items of a sequence. -/
def toCount (value : Value) : Eval Int := do
  let n ← toInteger value
  if Value.isIndexSized n then return n else throw .tooLarge

/-! ### Functions -/

/-- The value of a digit; letters are the digits beyond nine. -/
def digitOf? (c : Char) : Option Nat :=
  if 'a' ≤ c ∧ c ≤ 'z' then some (c.toNat - 'a'.toNat + 10)
  else if 'A' ≤ c ∧ c ≤ 'Z' then some (c.toNat - 'A'.toNat + 10)
  else digitValue? c

/-- The base that the first characters of a number stand for. -/
def markedBase? : Text → Option Nat
  | '0' :: c :: _ =>
      if c = 'x' || c = 'X' then some 16
      else if c = 'o' || c = 'O' then some 8
      else if c = 'b' || c = 'B' then some 2
      else none
  | _ => none

/-- The integer that digits to a base stand for, with a sign and single underscores. The digits may
follow a mark for their base; base zero is the base of the mark, or else ten. -/
def readInteger? (base : Nat) (text : Text) : Option Int := do
  let body := Text.trim text
  let (isNegative, size) := match body with
    | '-' :: rest => (true, rest)
    | '+' :: rest => (false, rest)
    | body => (false, body)
  let isMarked := (markedBase? size).any fun marked => base = 0 || marked = base
  let radix := if base ≠ 0 then base else (markedBase? size).getD 10
  let digits := match isMarked, size.drop 2 with
    | true, '_' :: digits | true, digits => digits
    | false, _ => size
  let pieces := Text.pieces '_' digits
  if pieces.any (·.isEmpty) then none
  else
    let values ← pieces.flatten.mapM fun c => (digitOf? c).filter (· < radix)
    let n : Int := values.foldl (fun n (digit : Nat) => n * radix + digit) 0
    if base = 0 && !isMarked && values.head? = some 0 && n ≠ 0 then none
    else return if isNegative then -n else n

/-- The bases that are powers of two: numbers to these bases may have any number of digits. -/
def powerBases : List Nat := [2, 4, 8, 16, 32]

/-- The integer that a text spells; `written` is how messages show the text. -/
def spelledInteger (base : Nat) (text written : Text) : Eval Value := do
  match readInteger? base text with
  | some n =>
      let count := (text.filter isDigit).length
      if Store.digitLimit < count && !(powerBases.contains base) then
        throw (.value (s!"Exceeds the limit (4300 digits) for integer string conversion: "
          ++ s!"value has {count} digits; use sys.set_int_max_str_digits() to increase "
          ++ "the limit"))
      else return .int n
  | none => throw ⟨.value, s!"invalid literal for int() with base {base}: ".toList ++ written⟩

/-- The characters of bytes. -/
def charsOf (bytes : List UInt8) : Text :=
  bytes.map fun byte => Char.ofNat byte.toNat

/-- The integer that a value stands for or that a text spells. -/
def toInt (value : Value) : Eval Value := do
  match value with
  | .float x => Eval.ofExcept (Arithmetic.truncate x)
  | .text t => spelledInteger 10 t (Text.quoted t)
  | .bytes b => spelledInteger 10 (charsOf b) (Text.quotedBytes b)
  | value => match value.integer? with
    | some n => return .int n
    | none => throw (.typeNamed ("int() argument must be a string, a bytes-like object "
        ++ "or a real number, not ") value.typeName)

/-- The integer that a text spells to a base. -/
def toIntIn (base value : Value) : Eval Value := do
  let n ← toInteger base
  if n ≠ 0 && (n < 2 || 36 < n) then throw (.value "int() base must be >= 2 and <= 36, or 0")
  else match value with
    | .text t => spelledInteger n.toNat t (Text.quoted t)
    | .bytes b => spelledInteger n.toNat (charsOf b) (Text.quotedBytes b)
    | _ => throw (.type "int() can't convert non-string with explicit base")

/-- A named argument that must be a text, if it is given. -/
def checkText (name : String) (given : Option Value) : Eval Unit :=
  match given with
  | none | some (.text _) => pure ()
  | some other => throw (.typeBare s!"str() argument '{name}' must be str, not " (givenType other))

/-- The text that bytes spell. -/
def decode (value encoding errors : Option Value) : Eval Value := do
  checkText "encoding" encoding
  checkText "errors" errors
  match value with
  | none => return .text []
  | some (.text _) => throw (.type "decoding str is not supported")
  | some (.bytes b) =>
      match String.fromUTF8? ⟨b.toArray⟩ with
      | some t => return .text t.toList
      | none => throw (.value "invalid bytes")
  | some value => throw ⟨.type, "decoding to str: need a bytes-like object, ".toList
      ++ value.typeName ++ " found".toList⟩

/-- The length of a value. -/
def len (value : Value) : Eval Value := do
  match (← get).length? value with
  | some n => if Value.isIndexSized n then return .int n else throw .tooLarge
  | none => throw ⟨.type, "object of type '".toList ++ value.typeName ++ "' has no len()".toList⟩

/-- A range from its bounds. -/
def range (values : List Value) : Eval Value := do
  let bounds ← values.mapM toInteger
  match bounds with
  | [stop] => return .range 0 stop 1
  | [start, stop] => return .range start stop 1
  | [start, stop, step] =>
      if step = 0 then throw (.value "range() arg 3 must not be zero")
      else return .range start stop step
  | _ => return .none

/-- A sum that begins with a value. -/
def sum (start : Value) (items : List Value) : Eval Value :=
  items.foldlM (fun total item => Operation.binary .add ['+'] total item) start

/-- Values with their sort keys. -/
def keyed (apply : Value → Value → Eval Value) (key : Option Value) (items : List Value) :
    Eval (List Sorting.Keyed) :=
  match key with
  | none | some .none => return items.map fun item => (item, item)
  | some function => items.mapM fun item => do return (← apply function item, item)

/-- The items of a sequence in order. -/
def sorted (apply : Value → Value → Eval Value) (args : Arguments) (items : List Value) :
    Eval (List Value) := do
  knownNames "sort" ["key", "reverse"] args
  let isReverse := (byName? args "reverse").any (← get).isTrue
  Sorting.sort isReverse (← keyed apply (byName? args "key") items)

/-- The item with the greatest or the least key; of equal ones the first. -/
def extreme (comparison : Comparison) : Sorting.Keyed → List Sorting.Keyed → Eval Value
  | best, [] => return best.2
  | best, item :: rest => do
      let isBetter ← Operation.ordered comparison Store.comparisonDepth item.1 best.1
      extreme comparison (if isBetter then item else best) rest

/-- The values among which the greatest or the least is looked for: the arguments, or the items of the
only one. -/
def candidates (name : String) (args : Arguments) : Eval (List Value) :=
  match args.positional, byName? args "default" with
  | [collection], _ => Operation.items collection
  | items, none => return items
  | _, some _ => throw (.type
      s!"Cannot specify a default for {name}() with multiple positional arguments")

/-- The greatest or the least of the arguments, or of the items of the only one. -/
def choose (apply : Value → Value → Eval Value) (name : String) (comparison : Comparison)
    (args : Arguments) : Eval Value := do
  if args.positional.isEmpty then throw (.type s!"{name} expected at least 1 argument, got 0")
  else
    knownNames name ["key", "default"] args
    match ← keyed apply (byName? args "key") (← candidates name args), byName? args "default" with
    | [], some default => return default
    | [], none => throw (.value s!"{name}() arg is an empty sequence")
    | first :: rest, _ => extreme comparison first rest

/-- A call of a function that every script knows. -/
def function (apply : Value → Value → Eval Value) (builtin : Builtin) (args : Arguments) :
    Eval Value := do
  match builtin with
  | .abs => Eval.ofExcept (Arithmetic.absolute (← single "abs()" args))
  | .len => len (← single "len()" args)
  | .repr => do
      let value ← single "repr()" args
      return .text (← Eval.ask fun store => store.repr value)
  | .bool => do
      match ← between "" "bool" 0 1 args with
      | [value] => return .bool ((← get).isTrue value)
      | _ => return .bool false
  | .int => do
      mixed "int" 0 ["", "base"] args
      match argument? args 0 "", argument? args 1 "base" with
      | none, none => return .int 0
      | none, some _ => throw (.type "int() missing string argument")
      | some value, none => toInt value
      | some value, some base => toIntIn base value
  | .str => do
      mixed "str" 0 ["object", "encoding", "errors"] args
      match argument? args 0 "object", argument? args 1 "encoding", argument? args 2 "errors" with
      | some value, none, none => return .text (← Eval.ask fun store => store.str value)
      | value, encoding, errors => decode value encoding errors
  | .list => do
      match ← between "" "list" 0 1 args with
      | [value] => Eval.newList (← Operation.items value)
      | _ => Eval.newList []
  | .range => range (← between "" "range" 1 3 args)
  | .max => choose apply "max" .gt args
  | .min => choose apply "min" .lt args
  | .sorted => do
      match args.positional with
      | [value] => Eval.newList (← sorted apply args (← Operation.items value))
      | values => throw (.type s!"sorted expected 1 argument, got {values.length}")
  | .sum => do
      mixed "sum" 1 ["", "start"] args
      let items ← Operation.items ((argument? args 0 "").getD .none)
      match (argument? args 1 "start").getD (.int 0) with
      | .text _ => throw (.type "sum() can't sum strings [use ''.join(seq) instead]")
      | .bytes _ => throw (.type "sum() can't sum bytes [use b''.join(seq) instead]")
      | start => sum start items

/-! ### Methods of texts -/

/-- Where a search starts. An integer may lie beyond the end. -/
def searchStart (length : Nat) : Option Value → Eval Int
  | some (.int n) => return max 0 (if n < 0 then n + length else n)
  | some value => Operation.bound length 0 length value 0
  | none => return 0

/-- The places that the optional bounds of a search mean. -/
def searchBounds (length : Nat) (values : List Value) : Eval (Nat × Nat) := do
  let start ← searchStart length values.head?
  let stop ← Operation.bound length 0 length (values[1]?.getD .none) length
  return (start.toNat, stop.toNat)

/-- Does a text begin, or end, with one of some texts? -/
def atEnd (isEnd : Bool) (name : String) (text : Text) (values : List Value) : Eval Value := do
  match values with
  | [] => throw (.type s!"{name}() takes at least 1 argument (0 given)")
  | wanted :: bounds => do
      let (start, stop) ← searchBounds text.length bounds
      let part := TextMethod.between start stop text
      let matched (t : Text) : Bool :=
        start ≤ text.length && start ≤ stop &&
          (if isEnd then t.isSuffixOf part else t.isPrefixOf part)
      match wanted with
      | .text t => return .bool (matched t)
      | .tuple options => do
          let found ← options.anyM fun option => match option with
            | .text t => pure (matched t)
            | option => throw (.typeBare
                s!"tuple for {name} must only contain str, not " option.typeName)
          return .bool found
      | wanted => throw (.typeBare s!"{name} first arg must be str or a tuple of str, not "
          wanted.typeName)

/-- The bound on the number of cuts that a value means; without one there is none. -/
def cutLimit (length : Nat) (value : Option Value) : Eval Nat :=
  match value with
  | none => return length + 1
  | some value => do
      let n ← toCount value
      return if n < 0 then length + 1 else n.toNat

/-- A search for a text between optional bounds. -/
def search (name : String) (text : Text) (args : Arguments) : Eval (Option Nat) := do
  match ← refuseNames s!"str.{name}()" args with
  | [] => throw (.type s!"{name}() takes at least 1 argument (0 given)")
  | .text part :: bounds => do
      let (start, stop) ← searchBounds text.length bounds
      if text.length < start then return none
      else return TextMethod.find? part start stop text
  | value :: _ => throw (.typeBare "must be str, not " value.typeName)

/-- The texts of the items of a sequence. -/
def joinable (items : List Value) : Eval (List Text) :=
  items.zipIdx.mapM fun (item, place) => match item with
    | .text t => pure t
    | item => throw ⟨.type, s!"sequence item {place}: expected str instance, ".toList
        ++ item.typeName ++ " found".toList⟩

/-- A call of a method of a text. -/
def ofText (text : Text) (method : Method) (args : Arguments) : Eval Value := do
  match method with
  | .upper => nothing "str.upper()" args; return .text (TextMethod.upper text)
  | .lower => nothing "str.lower()" args; return .text (TextMethod.lower text)
  | .split => do
      mixed "split" 0 ["sep", "maxsplit"] args
      let mark := argument? args 0 "sep"
      let limit ← cutLimit text.length (argument? args 1 "maxsplit")
      match mark with
      | none | some .none => do
          let pieces := TextMethod.splitBlanks limit text
          Eval.newList (pieces.map .text)
      | some (.text []) => throw (.value "empty separator")
      | some (.text mark) => Eval.newList ((TextMethod.splitAt mark limit text).map .text)
      | some value => throw (.typeBare "must be str or None, not " value.typeName)
  | .join => do
      let value ← single "str.join()" args
      match (← get).items? value with
      | none => throw (.type "can only join an iterable")
      | some items => return .text (Text.join text (← joinable items))
  | .replace => do
      match ← between "str." "replace" 2 3 args with
      | .text old :: .text new :: limit =>
          let limit ← cutLimit text.length limit.head?
          return .text (TextMethod.replace old new limit text)
      | .text _ :: value :: _ =>
          throw (.typeBare "replace() argument 2 must be str, not " (givenType value))
      | value :: _ => throw (.typeBare "replace() argument 1 must be str, not " (givenType value))
      | [] => return .none
  | .startswith => do
      atEnd false "startswith" text (← refuseNames "str.startswith()" args)
  | .endswith => do atEnd true "endswith" text (← refuseNames "str.endswith()" args)
  | .find => do
      match ← search "find" text args with
      | some place => return .int place
      | none => return .int (-1)
  | .index => do
      match ← search "index" text args with
      | some place => return .int place
      | none => throw (.value "substring not found")
  | .count => do
      match ← refuseNames "str.count()" args with
      | .text part :: bounds => do
          let (start, stop) ← searchBounds text.length bounds
          return .int (TextMethod.count part (TextMethod.between start stop text))
      | value :: _ => throw (.typeBare "must be str, not " value.typeName)
      | [] => throw (.type "count() takes at least 1 argument (0 given)")
  | .strip => do
      match ← between "str." "strip" 0 1 args with
      | [] | [.none] => return .text (Text.trim text)
      | .text chars :: _ => return .text (TextMethod.strip chars text)
      | _ => throw (.type "strip arg must be None or str")
  | _ => return .none

/-! ### Methods of lists -/

/-- The places that the optional bounds of a search for an item mean, which must be integers. -/
def indexBounds (length : Nat) (values : List Value) : Eval (Nat × Nat) :=
  if values.all (·.integer?.isSome) then searchBounds length values
  else throw (.type "slice indices must be integers or have an __index__ method")

/-- The place of the first item that equals a value. -/
def placeOf (value : Value) : Nat → List Value → Eval (Option Nat)
  | _, [] => return none
  | place, item :: rest => do
      if ← Operation.isAmong value [item] then return some place
      else placeOf value (place + 1) rest

/-- The number of items that equal a value. -/
def countOf (value : Value) (items : List Value) : Eval Value := do
  let found ← items.filterM fun item => Operation.isAmong value [item]
  return .int found.length

/-- The index of the item that is taken out of a list: the last one, if none is given. -/
def popIndex : List Value → Eval Int
  | [value] => toCount value
  | _ => return -1

/-- A call of a method of a list. -/
def ofList (apply : Value → Value → Eval Value) (address : Address) (method : Method)
    (args : Arguments) : Eval Value := do
  let items := (← get).list address
  let write (items : List Value) : Eval Unit := Eval.write address (.list items)
  match method with
  | .append => do
      let value ← single "list.append()" args
      write (items ++ [value])
      return .none
  | .pop => do
      let values ← between "list." "pop" 0 1 args
      let index ← popIndex values
      if items.isEmpty then throw ⟨.index, "pop from empty list".toList⟩
      else match Operation.place? items.length index with
        | none => throw (.outOfRange "pop index")
        | some place => do
            write (items.eraseIdx place)
            return items[place]?.getD .none
  | .sort => do
      match args.positional with
      | [] => do
          let sorted ← sorted apply args items
          write sorted
          return .none
      | _ => throw (.type "sort() takes no positional arguments")
  | .reverse => do
      nothing "list.reverse()" args
      write items.reverse
      return .none
  | .clear => do
      nothing "list.clear()" args
      write []
      return .none
  | .index => do
      match ← between "list." "index" 1 3 args with
      | value :: bounds => do
          let (start, stop) ← indexBounds items.length bounds
          match ← placeOf value start ((items.take stop).drop start) with
          | some place => return .int place
          | none => do
              let written ← Eval.ask fun store => store.repr value
              throw ⟨.value, written ++ " is not in list".toList⟩
      | [] => return .none
  | .count => do countOf (← single "list.count()" args) items
  | _ => return .none

/-- A call of a method of a tuple. -/
def ofTuple (items : List Value) (method : Method) (args : Arguments) : Eval Value := do
  match method with
  | .index => do
      match ← between "tuple." "index" 1 3 args with
      | value :: bounds => do
          let (start, stop) ← indexBounds items.length bounds
          match ← placeOf value start ((items.take stop).drop start) with
          | some place => return .int place
          | none => throw (.value "tuple.index(x): x not in tuple")
      | [] => return .none
  | _ => do countOf (← single "tuple.count()" args) items

/-! ### Methods of mappings -/

/-- The arguments of a method of a scope, by its parameters: those in `required` must be given. The
scope itself is an argument in front of them, and counts as one. -/
def parameters (what : String) (required optional : List String) (args : Arguments) :
    Eval (List (Option Value)) := do
  let names := required ++ optional
  let given := args.positional.length
  let taken := "self" :: names.take given
  for (name, _) in args.named do
    let name := String.ofList name
    if taken.contains name then
      throw (.type s!"{what}() got multiple values for argument '{name}'")
    else if !names.contains name then
      throw (.type s!"{what}() got an unexpected keyword argument '{name}'")
  if names.length < given then
    let least := required.length + 1
    let most := names.length + 1
    let expected := if least = most then s!"{most} positional argument"
      else s!"from {least} to {most} positional arguments"
    throw (.type s!"{what}() takes {expected} but {given + 1} were given")
  let values := names.zipIdx.map fun (name, place) => argument? args place name
  match (required.zip values).find? fun (_, value) => value.isNone with
  | some (name, _) => throw (.type s!"{what}() missing 1 required positional argument: '{name}'")
  | none => return values

/-- The key that a method of a mapping is about, and what stands in for a missing value. -/
def keyArguments (chain : List Address) (method : Method) (args : Arguments) :
    Eval (Value × Option Value) := do
  let values ← match chain with
    | [_] => do pure ((← between "dict." (String.ofList method.label) 1 2 args).map some)
    | _ => parameters (String.ofList method.nameInScope) ["key"] ["default"] args
  match values with
  | some key :: default => do
      Eval.checkKey key
      return (key, default.head?.join)
  | _ => return (.none, none)

/-- No arguments of a method of a mapping. -/
def noArguments (chain : List Address) (method : Method) (args : Arguments) : Eval Unit := do
  match chain with
  | [_] => nothing ("dict." ++ String.ofList method.label ++ "()") args
  | _ => do
      let _ ← parameters (String.ofList method.nameInScope) [] [] args
      return ()

/-- The key and the value that an item gives to a mapping; `place` is the item's place among those
that are given. -/
def entryOf (chain : List Address) (item : Value) (place : Nat) : Eval (Value × Value) := do
  match chain, (← get).items? item with
  | [_], none => throw (.type
      s!"cannot convert dictionary update sequence element #{place} to a sequence")
  | [_], some [key, value] => return (key, value)
  | [_], some parts => throw (.value
      (s!"dictionary update sequence element #{place} has length {parts.length}; "
        ++ "2 is required"))
  | _, _ => match ← Operation.unpack 2 item with
    | [key, value] => return (key, value)
    | _ => return (.none, .none)

/-- Put the entries that visits come to into a mapping; `place` is the number of items before them.
-/
def putVisited (chain : List Address) (place : Nat) : List Visit → Eval Unit
  | [] => return ()
  | visit :: rest => do
      match ← visit.item? with
      | none => putVisited chain place rest
      | some item => do
          let (key, value) ← entryOf chain item place
          Eval.checkKey key
          Eval.writeScope chain ((← Eval.scope chain).put key value)
          putVisited chain (place + 1) rest

/-- Put the entries that stretches come to into a mapping. Of several stretches every item is an
entry, for which its number does not matter, so each begins to count anew. -/
def putStretches (chain : List Address) : List Stretch → Eval Unit
  | [] => return ()
  | stretch :: rest => do
      putVisited chain 0 (stretch.visits (← get))
      putStretches chain rest

/-- What shows the entries that a value gives one after another. -/
def pairsOf : Value → Value
  | .mapping chain => .view .items chain
  | value => value

/-- Put the entries that a value gives into a mapping: those of another mapping, or pairs. A
dictionary takes the entries of another mapping all at once; a scope goes through them. -/
def putEntries (chain : List Address) (value : Value) : Eval Unit := do
  match chain, value with
  | [_], .mapping other => do
      let entries := (← Eval.scope other).items
      Eval.writeScope chain ((← Eval.scope chain).putAll entries)
  | chain, value => do
      match Stretch.ofValue? (← get) (pairsOf value) with
      | some stretches => putStretches chain stretches
      | none => throw (.object value.typeName "is not iterable")

/-- A call of a method of a mapping. -/
def ofMapping (chain : List Address) (method : Method) (args : Arguments) : Eval Value := do
  let scope ← Eval.scope chain
  match method with
  | .get => do
      let (key, default) ← keyArguments chain .get args
      return (scope.get? key).getD (default.getD .none)
  | .pop => do
      let (key, default) ← keyArguments chain .pop args
      match scope.pop? key, default with
      | some (value, rest), _ => do
          Eval.writeScope chain rest
          return value
      | none, some value => return value
      | none, none => Eval.missing key
  | .keys => noArguments chain .keys args; return .view .keys chain
  | .values => noArguments chain .values args; return .view .values chain
  | .items => noArguments chain .items args; return .view .items chain
  | .setdefault => do
      let (key, default) ← keyArguments chain .setdefault args
      let (value, rest) := scope.getOrPut key (default.getD .none)
      Eval.writeScope chain rest
      return value
  | .update => do
      match chain, args.positional with
      | _, [] => pure ()
      | _, [value] => putEntries chain value
      | [_], values => throw (.type s!"update expected at most 1 argument, got {values.length}")
      | _, values => throw (.type ("MutableMapping.update() takes from 1 to 2 positional arguments "
          ++ s!"but {values.length + 1} were given"))
      let named := args.named.map fun (name, value) => (Value.text name, value)
      Eval.writeScope chain ((← Eval.scope chain).putAll named)
      return .none
  | .clear => do
      noArguments chain .clear args
      Eval.writeScope chain scope.clear
      return .none
  | .popitem => do
      noArguments chain .popitem args
      match chain, scope with
      | [_], [entries] =>
          match entries.getLast? with
          | none => throw (.noKey "'popitem(): dictionary is empty'".toList)
          | some (key, value) => do
              Eval.writeScope chain [entries.dropLast]
              return .tuple [key, value]
      | _, scope =>
          match scope.popFirst? with
          | none => throw (.noKey [])
          | some ((key, value), rest) => do
              Eval.writeScope chain rest
              return .tuple [key, value]
  | _ => return .none

/-! ### Values as functions -/

/-- A call of a value, where `apply` computes sort keys. -/
def callWith (apply : Value → Value → Eval Value) (value : Value) (args : Arguments) :
    Eval Value :=
  match value with
  | .builtin builtin => function apply builtin args
  | .method (.text text) method => ofText text method args
  | .method (.list address) method => ofList apply address method args
  | .method (.tuple items) method => ofTuple items method args
  | .method (.mapping chain) method => ofMapping chain method args
  | value => throw (.object value.typeName "is not callable")

/-- A call of a value. -/
def call (value : Value) (args : Arguments) : Eval Value :=
  let apply (function item : Value) : Eval Value :=
    callWith (fun function _ => throw (.object function.typeName "is not callable")) function
      ⟨[item], []⟩
  callWith apply value args

/-- What stands behind a point after a value: a method, or a part of a scope. -/
def member (object : Value) (name : Text) : Eval Value :=
  match object.methods.find? fun method => method.label = name with
  | some method => return .method object method
  | none =>
      match object with
      | .mapping (inner :: next :: outer) =>
          if name = "bindings".toList then return .mapping [inner]
          else if name = "parent".toList then return .mapping (next :: outer)
          else throw (.noAttribute object.typeName name)
      | object => throw (.noAttribute object.typeName name)

end Stencil.Script.Call
