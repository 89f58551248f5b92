import Stencil.CommandLine.Arguments

/-!
# Help

What the program says about itself: its name and version, how it is used, and what its commands and
flags do.
-/

namespace Stencil.CommandLine

/-- The name of the program. -/
def programName : Text := "textmpl".toList

/-- The version of the program. -/
def version : Text := "0.1.0".toList

/-- What the program answers when it is asked for its version. -/
def versionLine : Text :=
  programName ++ ' ' :: version ++ ['\n']

/-- How the program, or one of its commands, is used. -/
def usageLine (action : Option Action) : Text :=
  "usage: ".toList ++ programName ++ (match action with
    | none => " [-h] [-v] [--debug] \x7brender,check\x7d ...".toList
    | some .render => " render [-h] [--config FILE] [--trim] [--context FILE] template".toList
    | some .check => " check [-h] [--config FILE] [--trim] template".toList) ++ ['\n']

/-- What the program answers when it is asked for help. -/
def helpText (action : Option Action) : Text :=
  let lines : List String := match action with
    | none =>
        ["",
         "Text templates with expressions, if/foreach/switch blocks",
         "",
         "positional arguments:",
         "  \x7brender,check\x7d",
         "    render        Отрендерить шаблон в stdout",
         "    check         Скомпилировать шаблон и вывести дерево узлов",
         "",
         "options:",
         "  -h, --help      show this help message and exit",
         "  -v, --version   show program's version number and exit",
         "  --debug         отладочный вывод в stderr"]
    | some .render =>
        ["",
         "positional arguments:",
         "  template        путь к файлу шаблона или - для чтения из stdin",
         "",
         "options:",
         "  -h, --help      show this help message and exit",
         "  --config FILE   YAML с опциями: delimiters, statements, trim_result",
         "  --trim          срезать пробелы по краям строк и переводы строк",
         "                  (trim_result)",
         "  --context FILE  YAML или JSON с контекстом рендеринга"]
    | some .check =>
        ["",
         "positional arguments:",
         "  template       путь к файлу шаблона или - для чтения из stdin",
         "",
         "options:",
         "  -h, --help     show this help message and exit",
         "  --config FILE  YAML с опциями: delimiters, statements, trim_result",
         "  --trim         срезать пробелы по краям строк и переводы строк (trim_result)"]
  usageLine action ++ lines.flatMap fun line => line.toList ++ ['\n']

end Stencil.CommandLine
