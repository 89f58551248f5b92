import Stencil.Text.Quoted

/-!
# Faults of scripts

How the evaluation of a script can fail: the kind of fault, and its message. All wordings that
several operations share are made here.
-/

namespace Stencil.Script

/-- The kinds of faults. -/
inductive FaultKind
  /-- The source is not a script. -/
  | malformed
  | unknownName
  /-- A local variable without a value. -/
  | unassigned
  | noAttribute
  | key
  | index
  | type
  | value
  | zeroDivision
  | overflow
  /-- A value too large to be kept. -/
  | memory
  /-- A mapping that changed while it was gone through. -/
  | changed
  /-- Values nested without end. -/
  | nesting
  deriving Repr, DecidableEq

/-- The name of a kind of fault in error reports. -/
def FaultKind.label : FaultKind → Text
  | malformed => "SyntaxError".toList
  | unknownName => "NameError".toList
  | unassigned => "UnboundLocalError".toList
  | noAttribute => "AttributeError".toList
  | key => "KeyError".toList
  | index => "IndexError".toList
  | type => "TypeError".toList
  | value => "ValueError".toList
  | zeroDivision => "ZeroDivisionError".toList
  | overflow => "OverflowError".toList
  | memory => "MemoryError".toList
  | changed => "RuntimeError".toList
  | nesting => "RecursionError".toList

/-- A failed evaluation. -/
structure Fault where
  kind : FaultKind
  message : Text
  deriving Repr, DecidableEq

namespace Fault

/-- The source is not a script. -/
def malformed : Fault := ⟨.malformed, []⟩

/-- Nothing has this name. -/
def unknownName (name : Text) : Fault :=
  ⟨.unknownName, "name '".toList ++ name ++ "' is not defined".toList⟩

/-- A variable of the script has no value yet, or no longer. -/
def unassigned (name : Text) : Fault :=
  ⟨.unassigned, "cannot access local variable '".toList ++ name
    ++ "' where it is not associated with a value".toList⟩

/-- A value of this type has no such attribute. -/
def noAttribute (typeName name : Text) : Fault :=
  ⟨.noAttribute, '\'' :: typeName ++ "' object has no attribute '".toList ++ name ++ ['\'']⟩

/-- A key, as it is written, that is not in a mapping. -/
def noKey (written : Text) : Fault := ⟨.key, written⟩

/-- An index outside of a sequence; `what` names the sequence and the access. -/
def outOfRange (what : String) : Fault := ⟨.index, what.toList ++ " out of range".toList⟩

/-- A fault of the kind `type` with a fixed message. -/
def type (message : String) : Fault := ⟨.type, message.toList⟩

/-- A fault of the kind `value` with a fixed message. -/
def value (message : String) : Fault := ⟨.value, message.toList⟩

/-- A message about the type of an object: `'T' object …`. -/
def object (typeName : Text) (rest : String) : Fault :=
  ⟨.type, '\'' :: typeName ++ "' object ".toList ++ rest.toList⟩

/-- A value of this type cannot be a key. -/
def notHashable (typeName : Text) : Fault :=
  ⟨.type, "unhashable type: '".toList ++ typeName ++ ['\'']⟩

/-- A fixed message that ends with the name of a type in quotes. -/
def typeNamed (before : String) (typeName : Text) : Fault :=
  ⟨.type, before.toList ++ '\'' :: typeName ++ ['\'']⟩

/-- A fixed message that ends with the name of a type. -/
def typeBare (before : String) (typeName : Text) : Fault :=
  ⟨.type, before.toList ++ typeName⟩

/-- An operator that is not defined between two types. -/
def operands (operator left right : Text) : Fault :=
  ⟨.type, "unsupported operand type(s) for ".toList ++ operator ++ ": '".toList ++ left
    ++ "' and '".toList ++ right ++ ['\'']⟩

/-- Two types without an order. -/
def noOrder (operator left right : Text) : Fault :=
  ⟨.type, '\'' :: operator ++ "' not supported between instances of '".toList ++ left
    ++ "' and '".toList ++ right ++ ['\'']⟩

/-- A sequence and something that is not of its type cannot be joined. -/
def concatenation (sequence other : Text) : Fault :=
  ⟨.type, "can only concatenate ".toList ++ sequence ++ " (not \"".toList ++ other
    ++ "\") to ".toList ++ sequence⟩

/-- Division by zero, in the words of one operation. -/
def zeroDivision (message : String) : Fault := ⟨.zeroDivision, message.toList⟩

/-- A number that is too large. -/
def overflow (message : String) : Fault := ⟨.overflow, message.toList⟩

/-- A number that cannot count the items of a sequence. -/
def tooLarge : Fault := overflow "Python int too large to convert to C ssize_t"

/-- A value that is too large to be kept. -/
def memory : Fault := ⟨.memory, []⟩

/-- Values that contain themselves, or are nested too deeply to be compared. -/
def nesting : Fault :=
  ⟨.nesting, "maximum recursion depth exceeded in comparison".toList⟩

end Fault

end Stencil.Script
