import Stencil.Data
import Stencil.Delimiters
import Stencil.Keyword

/-!
# Options of a template

The delimiters, the keywords, and whether a template is trimmed before it is read. Options have a
form as data, `Options.toData`, which spells out every one of them.
-/

namespace Stencil

/-- All options of a template. -/
@[ext] structure Options where
  delimiters : Delimiters := {}
  keywords : Keywords := {}
  /-- Trim every line of a template and join the lines before it is read. -/
  trim : Bool := false

/-- The four delimiters by name, in the order in which options list them. -/
def Delimiters.fields (d : Delimiters) : List (Text × Text) :=
  [("expression_start".toList, d.expressionStart), ("expression_end".toList, d.expressionEnd),
   ("statement_start".toList, d.statementStart), ("statement_end".toList, d.statementEnd)]

/-- The ten keywords by name, in the order in which options list them. -/
def Keywords.fields (keywords : Keywords) : List (Text × Text) :=
  Keyword.all.map fun keyword => (keyword.label, keywords.spelling keyword)

namespace Options

/-- The names of the three groups of options. -/
def delimitersKey : Text := "delimiters".toList
@[inherit_doc delimitersKey] def keywordsKey : Text := "statements".toList
@[inherit_doc delimitersKey] def trimKey : Text := "trim_result".toList

/-- Named texts as a mapping. -/
def mappingOf (fields : List (Text × Text)) : Data :=
  .mapping (fields.map fun field => (.text field.1, .text field.2))

/-- Options as data, with every option present. -/
def toData (options : Options) : Data :=
  .mapping [(.text delimitersKey, mappingOf options.delimiters.fields),
    (.text keywordsKey, mappingOf options.keywords.fields), (.text trimKey, .bool options.trim)]

end Options

/-- What is wrong with options, as far as their user can mend it. -/
inductive OptionFault
  /-- Options that do not exist, in the group `place`. -/
  | unknown (place : Text) (names : List Text)
  /-- A group of options that is no mapping. -/
  | notMapping (place : Text)
  /-- A value that should be a text. -/
  | notText (key typeName : Text)
  /-- A value that should be true or false. -/
  | notBool (key typeName : Text)
  /-- A delimiter without characters. -/
  | emptyDelimiter (name : Text)
  /-- One text opens both kinds of blocks. -/
  | equalOpeners (opener : Text)
  /-- One opening delimiter begins with the other. -/
  | overlappingOpeners (shorter longer : Text)
  /-- A keyword that is not a word. -/
  | notWord (name spelling : Text)
  /-- Two keywords with one spelling. -/
  | usedTwice (spelling first second : Text)
  deriving Repr, DecidableEq

/-- The message for faulty options. -/
def OptionFault.message : OptionFault → Text
  | .unknown place names =>
      place ++ ": unknown option(s) ".toList ++ Text.join [',', ' '] names
  | .notMapping place => place ++ ": expected a mapping".toList
  | .notText key typeName => key ++ ": expected string, got ".toList ++ typeName
  | .notBool key typeName => key ++ ": expected bool, got ".toList ++ typeName
  | .emptyDelimiter name => "delimiters.".toList ++ name ++ ": must not be empty".toList
  | .equalOpeners opener =>
      "delimiters: expression_start and statement_start are both '".toList ++ opener ++ ['\'']
  | .overlappingOpeners shorter longer =>
      "delimiters: expression_start and statement_start overlap: '".toList ++ shorter
        ++ "' is a prefix of '".toList ++ longer ++ ['\'']
  | .notWord name spelling =>
      "statements.".toList ++ name ++ ": '".toList ++ spelling ++ "' is not a single word".toList
  | .usedTwice spelling first second =>
      "statements: '".toList ++ spelling ++ "' is used for both '".toList ++ first
        ++ "' and '".toList ++ second ++ ['\'']

/-- Why data are not options. -/
inductive OptionError
  | invalid (fault : OptionFault)
  /-- Options that are a number or the like, and have no keys to look at. -/
  | notIterable (typeName : Text)
  /-- A list of options with an element that cannot be a key. -/
  | notKey (typeName : Text)
  /-- A list of options that holds only known names. -/
  | noLookup (typeName : Text)
  deriving Repr, DecidableEq

/-- The message for data that are not options. -/
def OptionError.message : OptionError → Text
  | .invalid fault => fault.message
  | .notIterable typeName => '\'' :: typeName ++ "' object is not iterable".toList
  | .notKey typeName => "unhashable type: '".toList ++ typeName ++ ['\'']
  | .noLookup typeName => '\'' :: typeName ++ "' object has no attribute 'get'".toList

end Stencil
