import Stencil.Options.Validate
import Stencil.Text.Lines
import Stencil.Yaml.Document

/-!
# Files

What is read from files: the text of a template, options, and the variables of a render. The
contents of files are a function from paths, so nothing here depends on where files are kept. How a
document is read is up to a reader as well.

A file of options or variables holds one mapping. A document that counts as not given, such as an
empty one, stands for the empty mapping.
-/

namespace Stencil

/-- The contents of files. A path that does not lead to a file has none. -/
abbrev Files := Text → Option Text

/-- Why a file cannot be used. -/
inductive FileError
  | noTemplate (path : Text)
  | noOptions (path : Text)
  | noVariables (path : Text)
  /-- The contents cannot be read as data. -/
  | malformed (path reason : Text)
  | notMapping (path : Text)
  /-- The contents are data, but not valid options. -/
  | options (fault : OptionFault)
  deriving Repr, DecidableEq

/-- The message for a file that cannot be used. -/
def FileError.message : FileError → Text
  | .noTemplate path => "Template file not found: ".toList ++ path
  | .noOptions path => "Config file not found: ".toList ++ path
  | .noVariables path => "Context file not found: ".toList ++ path
  | .malformed path reason => "Invalid YAML in ".toList ++ path ++ ": ".toList ++ reason
  | .notMapping path => "YAML must be a mapping: ".toList ++ path
  | .options fault => fault.message

/-! ### Paths -/

/-- What a path begins with: a slash if it is absolute. Two slashes, and no more, are kept. -/
def pathRoot : Text → Text
  | '/' :: '/' :: '/' :: _ => ['/']
  | '/' :: '/' :: _ => ['/', '/']
  | '/' :: _ => ['/']
  | _ => []

/-- The shortest way to write a path: without empty parts and parts that stay where they are. -/
def normalPath (path : Text) : Text :=
  let parts := (Text.pieces '/' path).filter fun part => !part.isEmpty && part ≠ ['.']
  match pathRoot path ++ Text.join ['/'] parts with
  | [] => ['.']
  | shortest => shortest

namespace Files

/-- The text of a file, with every line ending in a line feed. -/
def text? (files : Files) (path : Text) : Option Text :=
  (files (normalPath path)).map Text.unifyLineEnds

/-! ### Data -/

/-- The entries of the mapping that the contents of a file stand for. -/
def entriesOf (read : Yaml.Reader) (path contents : Text) : Except FileError (List (Data × Data)) :=
  match read contents with
  | .error reason => .error (.malformed (normalPath path) reason)
  | .ok data =>
      if !data.isGiven then .ok []
      else match data with
        | .mapping entries => .ok entries
        | _ => .error (.notMapping (normalPath path))

/-- Valid options from the contents of a file. -/
def optionsOf (order : Delimiters.Order) (read : Yaml.Reader) (path contents : Text) :
    Except FileError Options := do
  let entries ← entriesOf read path contents
  let options ← (Options.ofEntries order entries).mapError .options
  options.validate.mapError .options

/-- The options in a file. Without a path, or without a file there, they are the defaults. -/
def options (order : Delimiters.Order) (files : Files) (path : Option Text)
    (read : Yaml.Reader := Yaml.read) : Except FileError Options :=
  match path.bind fun path => (files.text? path).map fun contents => (path, contents) with
  | none => .ok {}
  | some (path, contents) => optionsOf order read path contents

/-- The variables in a file. -/
def variablesIn (files : Files) (path : Text) (read : Yaml.Reader := Yaml.read) :
    Except FileError (List (Data × Data)) :=
  match files.text? path with
  | none => .error (.noVariables (normalPath path))
  | some contents => entriesOf read path contents

end Files

end Stencil
