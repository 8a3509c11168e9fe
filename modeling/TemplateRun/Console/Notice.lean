/-
# `Notice` — the lines that the program itself writes

The lines that the program writes to the user are of two sorts.  A notice is marked-up text on a
styling console, with all that comes from outside escaped; on a plain console a diagnostic is
written without markup and every other notice with its tags showing.  The report of an error
that the program does not know is none of these: the words of the error are escaped, but the name
of its kind, which may be any text, stands in the line as it is.
-/
import TemplateRun.Console.Basic
import TemplateRun.Diagnostic
import TemplateRun.Fault

namespace TemplateRun

/-- What is announced when a run fails. -/
inductive Headline where
  | compilation
  | execution
deriving DecidableEq, Repr

def Headline.text : Headline → String
  | compilation => "Compilation Error"
  | execution => "Runtime Error"

namespace Console

/-- A line for the user. -/
inductive Notice where
  | diagnostic (d : Diagnostic)
  | headline (h : Headline)
  | error (message : String)
  | hint (advice : String)
  /-- A text that is shown as it is. -/
  | verbatim (words : String)
  /-- The user has interrupted the run. -/
  | aborted
deriving DecidableEq, Repr

def severityStyle : Severity → String
  | .note => "cyan"
  | .warning => "yellow"
  | .error => "bold red"

def headlineMarkup (text : String) : String := "[bold red]" ++ text ++ "[/bold red]"

def Notice.markup (c : Console) : Notice → String
  | .diagnostic d =>
    match c with
    | plain => d.line
    | styled =>
      "[" ++ severityStyle d.severity ++ "]" ++ d.severity.name ++ ":[/" ++
        severityStyle d.severity ++ "] " ++ c.escape d.text
  | .headline h => headlineMarkup h.text
  | .error message => "[bold red]Error:[/bold red] " ++ c.escape message
  | .hint advice => "[yellow]Hint:[/yellow] " ++ c.escape advice
  | .verbatim words => c.escape words
  | .aborted => "\n[yellow]Aborted by user.[/yellow]"

/-- What appears when a line is written. -/
def write (c : Console) (notice : Notice) : Except Markup.Defect String :=
  c.print (notice.markup c)

/-- The report of an error that the program does not know, as marked-up text. -/
def unexpectedMarkup (c : Console) (kind message : String) : String :=
  "[bold red]Unexpected error.[/bold red] Please report this issue.\n  " ++ kind ++ ": " ++
    c.escape message

/-- What appears when such an error is reported. -/
def writeUnexpected (c : Console) (fault : Fault) : Except Markup.Defect String :=
  c.print (unexpectedMarkup c fault.kindName fault.message)

end Console

end TemplateRun
