/-
# `Run` — compile everything, execute the templates

A pipeline that is ready has the engine compile all documents, then execute those compilations
whose names are names of templates, and then has the diagnostics written.  If the engine says no to
either step, the failure is announced and the diagnostics are written.  A pipeline that is not
ready refuses.  Whether it is ready is asked at the start and not again.

Diagnostics are written from a list that has been taken away before: what is reported meanwhile
waits, and if the writer faults, what stands behind is lost.

Collaborators may start the pipeline again while they are being called, and those calls in turn;
how deep they may go is a number that every play is given, and a play that needs more does not end.
-/
import TemplateRun.Document.Basic
import TemplateRun.Pipeline.Session

namespace TemplateRun

variable {σ : Type}

/-! ## Flushing -/

/-- Hand diagnostics to a writer, one by one. -/
def writeAll (write : Diagnostic → Play σ Unit) : List Diagnostic → Play σ Unit
  | [] => pure ()
  | d :: rest => do
    Play.note (.writing d)
    match ← (write d).attempt with
    | .ok () =>
      Play.note (.written d)
      writeAll write rest
    | .error f =>
      Play.note (.dropped rest)
      Play.fault f

/-- Take the pending diagnostics away and have them written. -/
def flushWith (write : Diagnostic → Play σ Unit) : Play σ Unit := do
  writeAll write (← Play.take)

/-! ## Running -/

/-- What the collaborators can ask for. -/
structure Reentry (σ : Type) where
  flush : Play σ Unit
  run : Play σ RunState

def act (r : Reentry σ) : Behaviour σ → Play σ Bool
  | .done verdict => pure verdict
  | .fail f => Play.fault f
  | .act change next => do
    Play.modify fun s => { s with world := s.world.touch (change s.world) }
    act r (next (← Play.session).world)
  | .report d next => do
    Play.report d
    act r next
  | .say notice next => do
    act r (next (← (Play.say notice).attempt))
  | .flush next => do
    act r (next (← r.flush.attempt))
  | .run next => do
    act r (next (← r.run.attempt))

/-- Call a collaborator, and let what comes of the call have happened. -/
def calling (call : Play σ Bool) (returned : Bool → Happening) (faulted : Fault → Happening) :
    Play σ Bool := do
  match ← call.attempt with
  | .ok verdict =>
    Play.note (returned verdict)
    return verdict
  | .error f =>
    Play.note (faulted f)
    Play.fault f

/-- The pipeline has the diagnostics written and says how far it has come. -/
def close (flush : Play σ Unit) : Play σ RunState := do
  Play.note .closing
  flush
  return (← Play.session).world.state

/-- The engine has said no: announce it and close. -/
def giveUp (c : Collaborators σ) (perform : Behaviour σ → Play σ Bool) (flush : Play σ Unit)
    (state : RunState) (headline : Headline) : Play σ RunState := do
  Play.move state
  match c.onError with
  | none => pure ()
  | some onError =>
    Play.note (.errorCalled headline)
    let _ ← calling (perform (onError headline)) (fun _ => .errorReturned) .errorFaulted
  close flush

def executing (c : Collaborators σ) (perform : Behaviour σ → Play σ Bool) (flush : Play σ Unit)
    (selection : List String) : Play σ RunState := do
  Play.note (.executeCalled selection)
  let verdict ← calling (perform (c.execute selection)) .executeReturned .executeFaulted
  if verdict then
    Play.move .executed
    close flush
  else giveUp c perform flush .executeFailed .execution

/-- The documents have been compiled: execute the templates. -/
def proceed (c : Collaborators σ) (perform : Behaviour σ → Play σ Bool) (flush : Play σ Unit) :
    Play σ RunState := do
  Play.move .compiled
  let selection := Document.templates (← Play.session).world.environment.compilations
  if selection = [] then Play.note .noTemplates
  executing c perform flush selection

/-- Run the pipeline once. -/
def runWith (c : Collaborators σ) (documents : List String) (perform : Behaviour σ → Play σ Bool)
    (flush : Play σ Unit) : Play σ RunState := do
  let state := (← Play.session).world.state
  if state = .ready then
    Play.note (.compileCalled documents)
    let verdict ← calling (perform (c.compile documents)) .compileReturned .compileFaulted
    if verdict then proceed c perform flush
    else giveUp c perform flush .compileFailed .compilation
  else Play.fault (.alreadyRan state)

/-! ## Pipelines -/

/-- The collaborators of a run and the documents that they work on. -/
structure Pipeline (σ : Type) where
  collaborators : Collaborators σ
  documents : List String

namespace Pipeline

/-- What can be asked of a pipeline, when collaborators may go `depth` deep. -/
def reentry (p : Pipeline σ) : (depth : Nat) → Reentry σ
  | 0 => ⟨Play.endless, Play.endless⟩
  | depth + 1 =>
    let perform := act (p.reentry depth)
    let flush := flushWith fun d => do
      let _ ← perform (p.collaborators.write d)
    ⟨flush, runWith p.collaborators p.documents perform flush⟩

/-- How deep collaborators may go. -/
def depthLimit : Nat := 1000

def run (p : Pipeline σ) : Play σ RunState := (p.reentry depthLimit).run

/-- Act on the pipeline from outside. -/
def perform (p : Pipeline σ) (b : Behaviour σ) : Play σ Bool := act (p.reentry depthLimit) b

end Pipeline

end TemplateRun
