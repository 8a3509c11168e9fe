/-
# `ExitCode` — what the program tells its caller

Seven outcomes have a number each.  A run that comes to an end, in whichever of the three final
states, has one of three of them.
-/
import TemplateRun.Pipeline.State

namespace TemplateRun

/-- How the program has ended. -/
inductive ExitCode where
  | success
  /-- A fault that the program explains. -/
  | generalError
  /-- A fault that it does not know. -/
  | unexpectedError
  /-- The command line was rejected. -/
  | argumentError
  | compilationError
  | runtimeError
  /-- The user has interrupted the run. -/
  | keyboardInterrupt
deriving DecidableEq, Repr

namespace ExitCode

/-- The outcomes by number. -/
def all : List ExitCode :=
  [success, generalError, unexpectedError, argumentError, compilationError, runtimeError,
   keyboardInterrupt]

def code : ExitCode → Nat
  | success => 0
  | generalError => 1
  | unexpectedError => 2
  | argumentError => 64
  | compilationError => 65
  | runtimeError => 70
  | keyboardInterrupt => 130

def name : ExitCode → String
  | success => "SUCCESS"
  | generalError => "GENERAL_ERROR"
  | unexpectedError => "UNEXPECTED_ERROR"
  | argumentError => "ARGUMENT_ERROR"
  | compilationError => "COMPILATION_ERROR"
  | runtimeError => "RUNTIME_ERROR"
  | keyboardInterrupt => "KEYBOARD_INTERRUPT"

def ofName? (s : String) : Option ExitCode := all.find? (·.name = s)

/-- The outcome of a run that has come to its end. -/
def ofState? : RunState → Option ExitCode
  | .executed => some success
  | .compileFailed => some compilationError
  | .executeFailed => some runtimeError
  | .ready | .compiled => none

theorem isSome_ofState? (s : RunState) : (ofState? s).isSome = s.isTerminal := by
  cases s <;> rfl

end ExitCode

end TemplateRun
