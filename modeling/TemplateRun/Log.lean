/-
# `Log` — records of what the program does, and where they are shown

A record has a level, the name of its logger and a message.  Records of this program's loggers go
to the handler that has been set up, if their level reaches its threshold; before any set-up, the
messages from `warning` on are shown bare.  A later set-up replaces the earlier one.  Records of
other loggers are none of this program's business.
-/
import TemplateRun.Console.Basic
import TemplateRun.Console.Piece

namespace TemplateRun.Log

/-- How much a record matters, the least first. -/
inductive Level where
  | debug
  | info
  | warning
  | error
  | critical
deriving DecidableEq, Repr

namespace Level

def all : List Level := [debug, info, warning, error, critical]

def name : Level → String
  | debug => "DEBUG"
  | info => "INFO"
  | warning => "WARNING"
  | error => "ERROR"
  | critical => "CRITICAL"

def ofName? (s : String) : Option Level := all.find? (·.name = s)

def rank : Level → Nat
  | debug => 0
  | info => 1
  | warning => 2
  | error => 3
  | critical => 4

end Level

/-- One record. -/
structure Record where
  level : Level
  logger : String
  message : String
deriving DecidableEq, Repr

/-! ## Loggers -/

/-- The logger above all of this program's loggers. -/
def packageLogger : String := "jamplate_cli"

/-- The logger of one part of the program. -/
def loggerOf (part : String) : String := packageLogger ++ "." ++ part

/-- Whether a logger is the program's own, or below it. -/
def isOurs (logger : String) : Bool :=
  logger = packageLogger || (packageLogger ++ ".").toList.isPrefixOf logger.toList

/-! ## Handlers -/

/-- What has been set up to show records. -/
inductive Setup where
  | unconfigured
  | configured (console : Console) (threshold : Level)
deriving DecidableEq, Repr

/-- The least level that is shown. -/
def Setup.threshold : Setup → Level
  | .unconfigured => .warning
  | .configured _ threshold => threshold

/-- The handlers that are installed, by the names of their kinds. -/
def Setup.handlerNames : Setup → List String
  | .unconfigured => []
  | .configured .plain _ => ["StreamHandler"]
  | .configured .styled _ => ["RichHandler"]

/-- The level that the program's loggers are set to. -/
def Setup.levelName : Setup → String
  | .unconfigured => "NOTSET"
  | .configured _ threshold => threshold.name

def Record.text (r : Record) : String := r.logger ++ ": " ++ r.message

/-- The columns of the screen that the level of a record takes. -/
def levelWidth : Nat := 8

/-- The columns of the screen that the text of a record takes, behind the level and a blank. -/
def textWidth : Nat := 71

/-- A word with blanks behind it, up to a number of columns. -/
def padTo (columns : Nat) (s : List Char) : List Char :=
  s ++ List.replicate (columns - s.length) ' '

/-- A record in two columns over the width of the screen, the level in the first. -/
def Record.table (r : Record) : List Char :=
  let rows := Console.rows textWidth r.text.toList
  let levels := r.level.name.toList :: List.replicate (rows.length - 1) []
  (levels.zip rows).flatMap fun (level, row) => padTo levelWidth level ++ ' ' :: (row ++ ['\n'])

/-- What appears when a record is made. -/
def Setup.emit (setup : Setup) (r : Record) : String :=
  if isOurs r.logger && decide (setup.threshold.rank ≤ r.level.rank) then
    match setup with
    | .unconfigured => r.message ++ "\n"
    | .configured .plain _ => r.level.name ++ " " ++ r.text ++ "\n"
    | .configured .styled _ => String.ofList r.table
  else ""

end TemplateRun.Log
