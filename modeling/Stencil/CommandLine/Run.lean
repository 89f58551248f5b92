import Stencil.CommandLine.Arguments
import Stencil.CommandLine.Record
import Stencil.Files
import Stencil.Node.Outline
import Stencil.Script.Load

/-!
# Runs

What a request to the program comes to: what it writes and with which code it ends, as a function of
the files and the standard input.

A run has stages: the text of the template is read, then the options, and the template is compiled;
to be rendered it needs its variables after that. The first stage that fails ends the run. Its
problem is all that is then written, and nothing of the result is.
-/

namespace Stencil.CommandLine

open Script (Store Chain Value Fault Failure)

/-- What a run can see of its surroundings. -/
structure Inputs where
  files : Files
  /-- How documents are read. -/
  read : Yaml.Reader := Yaml.read
  /-- In which order the delimiters are looked at, which may differ from run to run. -/
  order : Delimiters.Order := .listed
  standardInput : Text := []
  /-- Do the surroundings ask for a record of the run? -/
  debug : Bool := false

/-- Why a stage of a run failed. -/
inductive Problem
  | file (error : FileError)
  | compile (error : CompileError)
  | render (error : RenderError Failure Value)

namespace Problem

/-- The message for a problem. -/
def message : Problem → Text
  | file error => error.message
  | compile error => error.message
  | render error => error.message Failure.message

/-- The fault of a problem that the user of a template cannot mend: a value that can be computed,
but neither compared nor written. -/
def breakdown? : Problem → Option Fault
  | render (.failed (.outside fault)) => some fault
  | _ => none

end Problem

/-- What a run comes to. -/
structure Outcome where
  code : Nat
  output : Text
  errors : Text
  deriving Repr, DecidableEq

/-! ### Stages -/

/-- The text of the template. -/
def templateText (request : Request) (inputs : Inputs) : Except FileError Text :=
  if request.template = ['-'] then .ok inputs.standardInput
  else match inputs.files.text? request.template with
    | none => .error (.noTemplate (normalPath request.template))
    | some text => .ok text

/-- The options in the file that the request names, if it names one. -/
def configuredOptions (request : Request) (inputs : Inputs) : Except FileError Options :=
  match request.config with
  | none | some [] => .ok {}
  | some path =>
      if (inputs.files.text? path).isNone then .error (.noOptions path)
      else inputs.files.options inputs.order (some path) inputs.read

/-- The options of a run. -/
def requestedOptions (request : Request) (inputs : Inputs) : Except FileError Options :=
  (configuredOptions request inputs).map fun options =>
    { options with trim := options.trim || request.trim }

/-- The text of the template and the options of a run. -/
def sources (request : Request) (inputs : Inputs) : Except FileError (Text × Options) := do
  let text ← templateText request inputs
  return (text, ← requestedOptions request inputs)

/-- The template of a run, in an empty scope. -/
def compiled (request : Request) (inputs : Inputs) : Except Problem (Template Chain) := do
  let (text, options) ← (sources request inputs).mapError .file
  (Template.create options (some text) []).mapError .compile

/-- The variables that the request names, if it names any. -/
def requestedVariables (request : Request) (inputs : Inputs) :
    Except FileError (List (Data × Data)) :=
  match request.context with
  | none | some [] => .ok []
  | some path => inputs.files.variablesIn path inputs.read

/-- The template of a run in the scope of its variables, and the store of that scope. -/
def prepared (request : Request) (inputs : Inputs) :
    Except Problem (Template Chain × Store) := do
  let template ← compiled request inputs
  let entries ← (requestedVariables request inputs).mapError .file
  let (chain, store) := Store.ofVariables entries
  return (template.setScope chain, store)

/-! ### Results -/

/-- What a run writes if all its stages succeed. -/
def result (request : Request) (inputs : Inputs) : Except Problem Text :=
  match request.action with
  | .check =>
      (compiled request inputs).map fun template =>
        Node.outlineText 0 (template.nodes.getD []) ++ ['\n']
  | .render => do
      let (template, store) ← prepared request inputs
      match (template.render Script.language).run store with
      | .ok text _ => return text
      | .error error _ => throw (.render error)

/-- The record of a run. -/
def record (request : Request) (inputs : Inputs) : List Text :=
  let compiling := match sources request inputs with
    | .error _ => []
    | .ok (text, options) => compileRecord options text
  let rendering := match request.action, prepared request inputs with
    | .render, .ok (template, store) => renderRecord template store
    | _, _ => []
  compiling ++ rendering

/-- The line for a problem. -/
def problemLine (problem : Problem) : Text :=
  "error: ".toList ++ Text.trimEnd problem.message ++ ['\n']

/-- What a run comes to, unless it breaks down. -/
def run (request : Request) (inputs : Inputs) : Except Fault Outcome :=
  let lines := if request.debug || inputs.debug then (record request inputs).map recordLine else []
  match result request inputs with
  | .ok text => .ok ⟨0, text, lines.flatten⟩
  | .error problem =>
      match problem.breakdown? with
      | some fault => .error fault
      | none => .ok ⟨2, [], lines.flatten ++ problemLine problem⟩

end Stencil.CommandLine
