import Stencil.CommandLine.Help
import Stencil.CommandLine.Run

/-!
# The program

Reads what a request needs, runs it, and writes what it comes to.
-/

namespace Stencil

/-- The contents of a file, if it can be read. -/
def readFile? (path : Text) : IO (Option Text) := do
  try
    return some (← IO.FS.readFile (String.ofList path)).toList
  catch _ => return none

/-- The contents of the files at some paths. -/
def readFiles (paths : List Text) : IO Files := do
  let found ← paths.filterMapM fun path => do
    return (← readFile? path).map fun contents => (path, contents)
  return fun path => found.lookup path

/-- All that a stream still holds. -/
partial def readAll (stream : IO.FS.Stream) : IO Text := do
  let line ← stream.getLine
  if line.isEmpty then return []
  return line.toList ++ (← readAll stream)

/-- What a request needs to see. -/
def inputsFor (request : CommandLine.Request) : IO CommandLine.Inputs := do
  let paths := request.template :: (request.config.toList ++ request.context.toList)
  let files ← readFiles (paths.map normalPath)
  let standardInput ← if request.template = ['-'] then readAll (← IO.getStdin) else pure []
  let debug := ((← IO.getEnv "TEXTMPL_DEBUG").getD "") != ""
  return { files, standardInput, debug }

/-- Write a text and flush. -/
def writeTo (stream : IO.FS.Stream) (text : Text) : IO Unit := do
  stream.putStr (String.ofList text)
  stream.flush

/-- Run a request. -/
def runRequest (request : CommandLine.Request) : IO UInt32 := do
  match CommandLine.run request (← inputsFor request) with
  | .ok outcome =>
      writeTo (← IO.getStderr) outcome.errors
      writeTo (← IO.getStdout) outcome.output
      return outcome.code.toUInt32
  | .error fault =>
      writeTo (← IO.getStderr) (fault.kind.label ++ ": ".toList ++ fault.message ++ ['\n'])
      return 1

end Stencil

open Stencil in
/-- Run the program with its arguments. -/
def main (arguments : List String) : IO UInt32 := do
  match CommandLine.Request.read (arguments.map String.toList) with
  | .ok request => runRequest request
  | .error .usage =>
      writeTo (← IO.getStderr) (CommandLine.usageLine none)
      return 2
  | .error (.help action) =>
      writeTo (← IO.getStdout) (CommandLine.helpText action)
      return 0
  | .error .version =>
      writeTo (← IO.getStdout) CommandLine.versionLine
      return 0
