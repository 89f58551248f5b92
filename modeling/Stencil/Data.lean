import Stencil.Number.Layout

/-!
# Data

What a configuration file or a file of variables holds: a finite tree of scalars, lists and
mappings. A mapping keeps its entries in the order in which they were written.
-/

namespace Stencil

/-- A tree of data. -/
inductive Data
  | null
  | bool (value : Bool)
  | int (value : Int)
  | float (value : Float)
  | text (value : Text)
  | list (items : List Data)
  | mapping (entries : List (Data × Data))
  /-- A scalar of a kind that is only known by its name. -/
  | other (typeName : Text)
  deriving Inhabited

namespace Data

/-- The name of the kind of a value, as messages give it. -/
def typeName : Data → Text
  | null => "NoneType".toList
  | bool _ => "bool".toList
  | int _ => "int".toList
  | float _ => "float".toList
  | text _ => "str".toList
  | list _ => "list".toList
  | mapping _ => "dict".toList
  | other name => name

/-- Does the value count as given? Nothing, false, zero and whatever is empty do not. -/
def isGiven : Data → Bool
  | null => false
  | bool value => value
  | int value => value != 0
  | float value => value != 0.0
  | text value => !value.isEmpty
  | list items => !items.isEmpty
  | mapping entries => !entries.isEmpty
  | other _ => true

/-- The text that a scalar is shown as when it is a key. -/
def keyText : Data → Text
  | null => "None".toList
  | bool true => "True".toList
  | bool false => "False".toList
  | int value => Text.ofInt value
  | float value => Text.ofFloat value
  | text value => value
  | list _ => "list".toList
  | mapping _ => "dict".toList
  | other name => name

/-- The number that a key counts as: truth values are numbers too. -/
def keyNumber? : Data → Option (Int × Nat)
  | bool value => some (if value then 1 else 0, 1)
  | int value => some (value, 1)
  | float value => (Binary.ofFloat? value).map Binary.toSignedRatio
  | _ => none

/-- Are two scalars one key? Equal numbers of different kinds are. -/
def sameKey (a b : Data) : Bool :=
  match keyNumber? a, keyNumber? b with
  | some (n, d), some (n', d') => n * d' == n' * d
  | none, none =>
      match a, b with
      | null, null => true
      | text s, text t => s = t
      | float x, float y => x.toBits == y.toBits
      | _, _ => false
  | _, _ => false

/-- Can the value be a key or an element of a set? -/
def isKey : Data → Bool
  | list _ | mapping _ => false
  | _ => true

/-- The value that a mapping gives to a key that is a text. -/
def lookup? (entries : List (Data × Data)) (key : Text) : Option Data :=
  (entries.find? fun entry => match entry.1 with | text name => name = key | _ => false).map (·.2)

end Data

end Stencil
