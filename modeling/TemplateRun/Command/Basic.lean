/-
# `Command` — from a command line to an exit status

A first token that asks for help or for the version gets it, and nothing else is done.  A command
line that is no invocation is explained, with the usage line.  Otherwise the documents are resolved,
the engine is found, and the pipeline is run; its final state is the result.  `run` lets faults
out.  `runGuarded` is the program behind its last boundary: a fault of the program's own kinds is
explained, an interrupt is acknowledged, any other error is reported, and each has its exit code.
A collaborator's wish to end the program is granted as it is, and a fault that is none of these is
let out.  So is the fault that comes of a report that cannot be written.
-/
import TemplateRun.Command.ExitCode
import TemplateRun.Command.Help
import TemplateRun.Command.Host
import TemplateRun.Invocation.Reader
import TemplateRun.Invocation.Record

namespace TemplateRun.Command

variable {σ : Type}

/-! ## Endings -/

/-- What a program that exits leaves to its caller. -/
inductive ExitStatus where
  | code (c : ExitCode)
  /-- What a collaborator has wished. -/
  | granted (wish : Wish)
deriving DecidableEq

/-- How the program comes to an end. -/
inductive Ending where
  | returned (c : ExitCode)
  | exited (status : ExitStatus)
  | escaped (fault : Fault)

/-- The ending of a play that ends the program. -/
def Ending.ofResult : Except Fault Ending → Ending
  | .ok ending => ending
  | .error (.exit wish) => exited (.granted wish)
  | .error fault => escaped fault

/-! ## Steps -/

def record (r : Log.Record) : Play σ Unit :=
  .modify fun s => { s with terminal := s.terminal.record r }

def explain (fault : Fault) : Play σ Unit := do
  Play.say (.error fault.message)
  match fault.hint with
  | none => pure ()
  | some advice => if advice ≠ "" then Play.say (.hint advice)

/-- The documents and the environment of an invocation. -/
def prepare (disk : Disk) (i : Invocation) : Play σ Prepared := do
  let preparation := i.prepare disk.providers []
  (preparation.memory ++ preparation.log).forM record
  Play.ofExcept preparation.outcome

def findEngine (host : Host σ) : Play σ (Engine σ) :=
  match host.injected with
  | some engine => pure engine
  | none => do
    let (loaded, log) := loadEngine host.registry
    log.forM record
    return Engine.ofLoaded (← Play.ofExcept loaded)

/-- Carry an invocation out.  The pipeline is made for it, so it is ready. -/
def carryOut (host : Host σ) (i : Invocation) : Play σ ExitCode := do
  let prepared ← prepare host.disk i
  Play.modify fun s =>
    { s with world := { s.world with state := .ready, environment := prepared.environment } }
  let engine ← findEngine host
  let state ← (Pipeline.mk engine.collaborators prepared.documents).run
  match ExitCode.ofState? state with
  | some code => return code
  | none => Play.fault (.foreign "KeyError" state.name)

/-! ## The program -/

/-- The first token that is no placeholder. -/
def leading (tokens : List (Option String)) : Option String :=
  (Invocation.realTokens tokens).head?

/-- The program, which lets faults out. -/
def run (host : Host σ) (tokens : List (Option String)) : Play σ Ending := do
  match (leading tokens).bind answerTo? with
  | some text =>
    Play.modify fun s => { s with terminal := s.terminal.answer text }
    return .exited (.code .success)
  | none =>
    match Invocation.read tokens with
    | .error fault =>
      explain (.argument fault)
      Play.say (.verbatim usage)
      return .returned .argumentError
    | .ok i =>
      record i.record
      return .returned (← carryOut host i)

/-- What is done about a fault that comes out of the program. -/
def handle : Fault → Play σ ExitStatus
  | .exit wish => return .granted wish
  | .interrupt _ => do
    Play.say .aborted
    return .code .keyboardInterrupt
  | .beyond kind message => Play.fault (.beyond kind message)
  | fault => do
    if fault.family?.isSome then
      explain fault
      return .code .generalError
    else
      Play.put (·.writeUnexpected fault)
      return .code .unexpectedError

/-- The program behind its last boundary. -/
def runGuarded (host : Host σ) (tokens : List (Option String)) : Play σ Ending := do
  Play.modify fun s =>
    { s with terminal := { s.terminal with log := .configured s.terminal.console .warning } }
  match ← (run host tokens).attempt with
  | .ok (.returned code) => return .exited (.code code)
  | .ok ending => return ending
  | .error fault => return .exited (← handle fault)

end TemplateRun.Command
