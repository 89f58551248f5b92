import Stencil.Text.Class

/-!
# Arguments

What the arguments of the program ask for. The program has two commands, each with flags of its own,
and a few flags that stand before the command.

Design points:

* A flag that begins with two dashes may be abbreviated as long as one flag is left to choose from,
  and its value may be attached with an equals sign. Flags of one letter may share a dash.
* All arguments are told apart before the first of them has an effect. After two dashes alone, every
  argument is a plain one.
* Flags take effect in order. The request for help or for the version ends the reading; arguments
  that nobody asked for end it only when all others have been read.
-/

namespace Stencil.CommandLine

/-- The two commands. -/
inductive Action
  /-- Write the text of a template. -/
  | render
  /-- Write the tree of a template. -/
  | check
  deriving Repr, DecidableEq

/-- What arguments ask for. -/
structure Request where
  action : Action
  /-- The path of the template; a dash stands for the standard input. -/
  template : Text
  config : Option Text := none
  context : Option Text := none
  trim : Bool := false
  debug : Bool := false
  deriving Repr, DecidableEq

/-- Why arguments do not lead to a run. -/
inductive Stop
  | usage
  /-- Help for the program, or for one command. -/
  | help (action : Option Action)
  | version
  deriving Repr, DecidableEq

/-! ### Flags -/

/-- What a flag stands for. -/
inductive Flag
  | help | version | debug | config | context | trim
  deriving Repr, DecidableEq

/-- Does the flag need a value? -/
def Flag.takesValue : Flag → Bool
  | config | context => true
  | _ => false

/-- Flags by their spellings. -/
abbrev Flags := List (Text × Flag)

/-- The flags that stand before the command. -/
def programFlags : Flags :=
  [("-h".toList, .help), ("--help".toList, .help), ("-v".toList, .version),
   ("--version".toList, .version), ("--debug".toList, .debug)]

namespace Action

/-- The name of a command. -/
def label : Action → Text
  | render => "render".toList
  | check => "check".toList

/-- The command of a name. -/
def ofName? (name : Text) : Option Action :=
  [render, check].find? fun action => action.label = name

/-- The flags of a command. -/
def flags (action : Action) : Flags :=
  [("-h".toList, .help), ("--help".toList, .help), ("--config".toList, .config),
   ("--trim".toList, .trim)]
    ++ match action with
      | render => [("--context".toList, .context)]
      | check => []

end Action

/-! ### Telling arguments apart -/

/-- What an argument is. -/
inductive Part
  | plain (text : Text)
  /-- A flag and the text attached to it; `isCluster` says that the text follows a single letter
  without an equals sign. -/
  | flag (flag : Flag) (isCluster : Bool) (attached : Option Text)
  /-- Something that looks like a flag but is none. -/
  | unknown
  /-- Two dashes alone. -/
  | separator

/-- Does the argument look like a negative number? -/
def isNegativeNumber : Text → Bool
  | '-' :: size =>
      match Text.splitAt? ['.'] size with
      | none => !size.isEmpty && size.all isDigit
      | some (whole, fraction) => whole.all isDigit && !fraction.isEmpty && fraction.all isDigit
  | _ => false

/-- The flags that an argument may abbreviate, each with the text attached to it. -/
def candidates (flags : Flags) (argument : Text) : List Part :=
  if ['-', '-'].isPrefixOf argument then
    let (name, attached) := match Text.splitAt? ['='] argument with
      | some (name, value) => (name, some value)
      | none => (argument, none)
    (flags.filter fun entry => name.isPrefixOf entry.1).map fun entry =>
      .flag entry.2 false attached
  else
    (flags.filter fun entry => entry.1 = argument.take 2).map fun entry =>
      .flag entry.2 true (some (argument.drop 2))

/-- The flag that an argument names in full, alone or with an equals sign. -/
def exactFlag? (flags : Flags) (argument : Text) : Option Part :=
  match flags.lookup argument, Text.splitAt? ['='] argument with
  | some flag, _ => some (.flag flag false none)
  | none, some (name, value) => (flags.lookup name).map fun flag => .flag flag false (some value)
  | none, none => none

/-- What an argument is, unless it abbreviates several flags. -/
def part? (flags : Flags) (argument : Text) : Option Part :=
  match argument with
  | '-' :: _ :: _ =>
      match exactFlag? flags argument with
      | some part => some part
      | none =>
          match candidates flags argument with
          | [] =>
              some (if isNegativeNumber argument || argument.contains ' ' then .plain argument
                else .unknown)
          | [part] => some part
          | _ => none
  | _ => some (.plain argument)

/-- What all arguments are. -/
def parts? (flags : Flags) : List Text → Option (List Part)
  | [] => some []
  | argument :: rest =>
      if argument = ['-', '-'] then some (.separator :: rest.map .plain)
      else do
        let part ← part? flags argument
        return part :: (← parts? flags rest)

/-! ### Reading -/

/-- May the letters share the dash of a flag? From the first one on that is no flag they count as an
argument that nobody asked for. -/
def mayShareDash (flags : Flags) : Text → Bool
  | [] => true
  | '-' :: _ => false
  | letter :: '=' :: _ => (flags.lookup ['-', letter]).isNone
  | letter :: rest => (flags.lookup ['-', letter]).isNone || mayShareDash flags rest

/-- May the text be attached to a flag without a value? To a flag of one letter others may be. -/
def mayAttach (flags : Flags) (isCluster : Bool) : Option Text → Bool
  | none => true
  | some text => isCluster && mayShareDash flags text

/-- What the arguments after a command have given so far. -/
structure Draft where
  template : Option Text := none
  config : Option Text := none
  context : Option Text := none
  trim : Bool := false
  hasUnknown : Bool := false

/-- The draft with the value of a flag. -/
def Draft.withValue (draft : Draft) (flag : Flag) (value : Text) : Draft :=
  match flag with
  | .config => { draft with config := some value }
  | .context => { draft with context := some value }
  | _ => draft

/-- Read the arguments after a command. The first plain argument is the template; a separator beside
it is passed over. -/
def Draft.read (action : Action) : Draft → List Part → Except Stop Draft
  | draft, [] => .ok draft
  | draft, .unknown :: rest => Draft.read action { draft with hasUnknown := true } rest
  | draft, .plain text :: .separator :: rest =>
      if draft.template.isNone then Draft.read action { draft with template := some text } rest
      else .error .usage
  | draft, .plain text :: rest =>
      Draft.read action
        (if draft.template.isNone then { draft with template := some text }
          else { draft with hasUnknown := true }) rest
  | draft, .separator :: rest =>
      Draft.read action
        (if draft.template.isNone then draft else { draft with hasUnknown := true }) rest
  | draft, .flag flag isCluster attached :: rest =>
      if flag.takesValue then
        match attached, rest with
        | some value, rest => Draft.read action (draft.withValue flag value) rest
        | none, .plain value :: rest => Draft.read action (draft.withValue flag value) rest
        | none, _ => .error .usage
      else if !mayAttach action.flags isCluster attached then .error .usage
      else match flag with
        | .help => .error (.help action)
        | _ => Draft.read action { draft with trim := true } rest

/-- Read what follows a command. -/
def readCommand (debug hasUnknown : Bool) (action : Action) (arguments : List Text) :
    Except Stop Request := do
  match parts? action.flags arguments with
  | none => throw .usage
  | some parts =>
      let draft ← Draft.read action { hasUnknown } parts
      match draft.template with
      | none => throw .usage
      | some template =>
          if draft.hasUnknown then throw .usage
          return ⟨action, template, draft.config, draft.context, draft.trim, debug⟩

/-- Read the arguments up to the command, each with what it is. -/
def readProgram (debug hasUnknown : Bool) : List (Text × Part) → Except Stop Request
  | [] => .error .usage
  | (_, .separator) :: _ => .error .usage
  | (_, .unknown) :: rest => readProgram debug true rest
  | (name, .plain _) :: rest =>
      match Action.ofName? name with
      | none => .error .usage
      | some action => readCommand debug hasUnknown action (rest.map (·.1))
  | (_, .flag flag isCluster attached) :: rest =>
      if !mayAttach programFlags isCluster attached then .error .usage
      else match flag with
        | .help => .error (.help none)
        | .version => .error .version
        | _ => readProgram true hasUnknown rest

/-- Read all arguments. -/
def Request.read (arguments : List Text) : Except Stop Request :=
  match parts? programFlags arguments with
  | none => .error .usage
  | some parts => readProgram false false (arguments.zip parts)

end Stencil.CommandLine
