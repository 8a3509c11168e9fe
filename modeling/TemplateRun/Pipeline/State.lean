/-
# `State` — how far a run has come

A run is ready, then compiled, then executed; each of the two steps may fail instead.  Three of
the five states are final, and two of those are failures.
-/

namespace TemplateRun

/-- How far a run has come. -/
inductive RunState where
  | ready
  | compiled
  | executed
  | compileFailed
  | executeFailed
deriving DecidableEq, Repr

namespace RunState

def all : List RunState := [ready, compiled, executed, compileFailed, executeFailed]

def name : RunState → String
  | ready => "ready"
  | compiled => "compiled"
  | executed => "executed"
  | compileFailed => "compile_failed"
  | executeFailed => "execute_failed"

def ofName? (s : String) : Option RunState := all.find? (·.name = s)

/-- Whether nothing follows. -/
def isTerminal : RunState → Bool
  | executed | compileFailed | executeFailed => true
  | ready | compiled => false

def isFailure : RunState → Bool
  | compileFailed | executeFailed => true
  | ready | compiled | executed => false

end RunState

end TemplateRun
