/-
# `Diagnostic` — what an engine has to say about the templates

A diagnostic is a text with a severity.  The three severities have lower-case names, by which
`ofName?` knows them.
-/

namespace TemplateRun

/-- How serious a diagnostic is, the mildest first. -/
inductive Severity where
  | note
  | warning
  | error
deriving DecidableEq, Repr

namespace Severity

def all : List Severity := [note, warning, error]

def name : Severity → String
  | note => "note"
  | warning => "warning"
  | error => "error"

def ofName? (s : String) : Option Severity := all.find? (·.name = s)

end Severity

/-- One message to the user. -/
structure Diagnostic where
  severity : Severity
  text : String
deriving DecidableEq, Repr

namespace Diagnostic

/-- The diagnostic as plain text. -/
def line (d : Diagnostic) : String := d.severity.name ++ ": " ++ d.text

end Diagnostic

end TemplateRun
