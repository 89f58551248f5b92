import Stencil.Script.Language
import Stencil.Template

/-!
# The record of a run

The lines that a run writes about itself when it is asked to: how a template was read and assembled,
and which expressions were made ready to run. An expression is made ready once for each list of
variables that it meets, however often it is evaluated.
-/

namespace Stencil.CommandLine

open Script (Store Chain)

/-- A line of the record. -/
def recordLine (text : Text) : Text :=
  "[DEBUG] ".toList ++ text ++ ['\n']

/-- The line for a block that was built. -/
def noticeText (notice : AssemblyNotice) : Text :=
  "Assembling ".toList ++ notice.family.label ++ " block opened at ".toList ++ notice.place.toText

/-- The line for an expression that was made ready. -/
def compilationText (compilation : Script.Compilation) : Text :=
  "Compiling template expression with ".toList ++ Text.ofNat compilation.parameters.length
    ++ " parameter(s)".toList

/-- The record of the compilation of a text, as far as it gets. An empty text is not compiled. -/
def compileRecord (options : Options) (text : Text) : List Text :=
  let prepared := options.prepare text
  match text, tokenize options.delimiters prepared with
  | [], _ | _, .error _ => []
  | _, .ok tokens =>
      let count := Text.ofNat tokens.length
      ("Tokenized template of ".toList ++ Text.ofNat prepared.length
          ++ " chars into ".toList ++ count ++ " tokens".toList)
        :: (assemblyNotices options.keywords tokens).map noticeText
        ++ match assemble options.keywords tokens with
          | .error _ => []
          | .ok nodes =>
              let nodeCount := Text.ofNat nodes.length
              ["Assembled ".toList ++ nodeCount ++ " top-level nodes from ".toList ++ count
                ++ " tokens".toList,
               "Compiled template: ".toList ++ count ++ " tokens, ".toList ++ nodeCount
                ++ " top-level nodes".toList]

/-- The expressions that a render makes ready, in order. -/
def compilations (template : Template Chain) (store : Store) : List Script.Compilation :=
  let language := Script.language.noting Script.compilation?
  match (template.render language).run (store, []) with
  | .ok _ (_, notes) | .error _ (_, notes) => notes.eraseDups

/-- The record of a render. -/
def renderRecord (template : Template Chain) (store : Store) : List Text :=
  (compilations template store).map compilationText

end Stencil.CommandLine
