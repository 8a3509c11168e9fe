/-
# `Help` — what the program says about itself

The usage line, the help text behind `-h` and `--help`, and the version behind `-V` and
`--version`.  These flags count only as the first token that is no placeholder.
-/

namespace TemplateRun.Command

def version : String := "0.2.3"

/-- The shape of a command line. -/
def usage : String := "usage: jamplate <input> [<key>=<value> ...] [-o <output>]"

def helpLines : List String :=
  [usage,
   "",
   "Compile and execute Jamplate templates.",
   "",
   "positional arguments:",
   "  input          Template file or project directory.",
   "  <key>=<value>  Default memory entry exposed to the templates. Repeatable.",
   "",
   "options:",
   "  -h, --help     show this help message and exit",
   "  -V, --version  show program's version number and exit",
   "  -o <output>    Output directory (default: output)."]

def helpText : String := String.join (helpLines.map (· ++ "\n"))

def versionText : String := "jamplate " ++ version ++ "\n"

/-- The text that a first token asks for, if it is a flag that asks for one. -/
def answerTo? : String → Option String
  | "-h" | "--help" => some helpText
  | "-V" | "--version" => some versionText
  | _ => none

end TemplateRun.Command
