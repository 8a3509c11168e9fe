/-
# `Session` — what happens while collaborators act

A session is the world, the terminal, and the past: every call and return, every diagnostic on its
way, every change of state, each with the state and the environment that it left.  `Play` is the
type of what goes on in a session: it may fault, and it may fail to come to an end.  The log is
read off the past.
-/
import TemplateRun.Log
import TemplateRun.Pipeline.Behaviour

namespace TemplateRun

/-! ## Terminals -/

/-- Where the program is run: what can be read so far, and how more will be shown. -/
structure Terminal where
  console : Console
  log : Log.Setup
  /-- What has been written to the standard output. -/
  output : String
  /-- What has been written to the standard error. -/
  shown : String
deriving DecidableEq

def Terminal.blank (console : Console) : Terminal := ⟨console, .unconfigured, "", ""⟩

/-- The terminal after a text has been written for the user. -/
def Terminal.show (t : Terminal) (text : String) : Terminal := { t with shown := t.shown ++ text }

/-- The terminal after a text has been written for the caller. -/
def Terminal.answer (t : Terminal) (text : String) : Terminal :=
  { t with output := t.output ++ text }

/-- The terminal after a record has been made. -/
def Terminal.record (t : Terminal) (r : Log.Record) : Terminal := t.show (t.log.emit r)

/-! ## The past -/

/-- What can happen. -/
inductive Happening where
  | compileCalled (documents : List String)
  | compileReturned (verdict : Bool)
  | compileFaulted (fault : Fault)
  | executeCalled (selection : List String)
  | executeReturned (verdict : Bool)
  | executeFaulted (fault : Fault)
  | errorCalled (headline : Headline)
  | errorReturned
  | errorFaulted (fault : Fault)
  /-- The pipeline has the diagnostics written at the end of a run. -/
  | closing
  /-- A diagnostic has been reported. -/
  | reported (d : Diagnostic)
  /-- The pending diagnostics have been taken away to be written. -/
  | taken (batch : List Diagnostic)
  /-- A diagnostic is handed to the writer. -/
  | writing (d : Diagnostic)
  /-- The writer has returned. -/
  | written (d : Diagnostic)
  /-- The writer has faulted on the diagnostic before these. -/
  | dropped (rest : List Diagnostic)
  /-- The state has changed. -/
  | moved (source target : RunState)
  /-- There is nothing to execute. -/
  | noTemplates
deriving DecidableEq

def pipelineLogger : String := Log.loggerOf "core.pipeline"

/-- The record that a happening leaves in the log. -/
def Happening.record? : Happening → Option Log.Record
  | moved source target =>
    some ⟨.debug, pipelineLogger, "Pipeline " ++ source.name ++ " -> " ++ target.name⟩
  | noTemplates => some ⟨.warning, pipelineLogger, "No .jamplate units to execute."⟩
  | _ => none

/-- A happening, with the state and the environment that it left. -/
structure Moment where
  happening : Happening
  state : RunState
  environment : Environment
deriving DecidableEq

def pastLog (past : List Moment) : List Log.Record :=
  past.filterMap fun m => m.happening.record?

/-! ## Sessions -/

/-- The world, the terminal and the past, the latest moment last. -/
structure Session (σ : Type) where
  world : World σ
  terminal : Terminal
  past : List Moment

/-- The session in which something more has happened. -/
def Session.noted {σ : Type} (s : Session σ) (h : Happening) : Session σ where
  world := s.world
  past := s.past ++ [⟨h, s.world.state, s.world.environment⟩]
  terminal := match h.record? with
    | some r => s.terminal.record r
    | none => s.terminal

@[simp] theorem Session.noted_world {σ : Type} (s : Session σ) (h : Happening) :
    (s.noted h).world = s.world := rfl

@[simp] theorem Session.noted_past {σ : Type} (s : Session σ) (h : Happening) :
    (s.noted h).past = s.past ++ [⟨h, s.world.state, s.world.environment⟩] := rfl

/-- What goes on in a session: nothing comes of it if it does not end. -/
def Play (σ α : Type) := Session σ → Option (Except Fault α × Session σ)

namespace Play

variable {σ α β : Type}

instance : Monad (Play σ) where
  pure a := fun s => some (.ok a, s)
  bind m next := fun s =>
    match m s with
    | none => none
    | some (.error fault, s) => some (.error fault, s)
    | some (.ok a, s) => next a s

def fault (f : Fault) : Play σ α := fun s => some (.error f, s)

def endless : Play σ α := fun _ => none

/-- Take a fault for an answer. -/
def attempt (m : Play σ α) : Play σ (Except Fault α) := fun s =>
  match m s with
  | none => none
  | some (r, s) => some (.ok r, s)

/-- Answer as a result says. -/
def ofExcept : Except Fault α → Play σ α
  | .ok a => pure a
  | .error f => fault f

def session : Play σ (Session σ) := fun s => some (.ok s, s)

def modify (f : Session σ → Session σ) : Play σ Unit := fun s => some (.ok (), f s)

/-- What comes of a play, where one that does not end in time counts as a fault. -/
def settle (m : Play σ α) (s : Session σ) : Except Fault α × Session σ :=
  (m s).getD (.error (.foreign "RecursionError" "maximum recursion depth exceeded"), s)

@[simp] theorem pure_apply (a : α) (s : Session σ) :
    (pure a : Play σ α) s = some (.ok a, s) := rfl

theorem bind_apply (m : Play σ α) (next : α → Play σ β) (s : Session σ) :
    (m >>= next) s =
      match m s with
      | none => none
      | some (.error f, s) => some (.error f, s)
      | some (.ok a, s) => next a s := rfl

@[simp] theorem fault_apply (f : Fault) (s : Session σ) :
    (fault f : Play σ α) s = some (.error f, s) := rfl

@[simp] theorem session_apply (s : Session σ) : session s = some (.ok s, s) := rfl

@[simp] theorem modify_apply (f : Session σ → Session σ) (s : Session σ) :
    modify f s = some (.ok (), f s) := rfl

/-! ## Single steps -/

/-- Let something have happened. -/
def note (h : Happening) : Play σ Unit := modify fun s => s.noted h

@[simp] theorem note_apply (h : Happening) (s : Session σ) :
    note h s = some (.ok (), s.noted h) := rfl

/-- Write to the user what a console makes of it. -/
def put (line : Console → Except Markup.Defect String) : Play σ Unit := fun s =>
  match line s.terminal.console with
  | .ok text => some (.ok (), { s with terminal := s.terminal.show text })
  | .error defect => some (.error (.illMarked defect), s)

/-- Write a line to the user. -/
def say (notice : Console.Notice) : Play σ Unit := put (·.write notice)

def report (d : Diagnostic) : Play σ Unit := do
  modify fun s => { s with world := { s.world with environment := s.world.environment.report d } }
  note (.reported d)

/-- Take the pending diagnostics away. -/
def take : Play σ (List Diagnostic) := do
  let batch := (← session).world.environment.pending
  modify fun s =>
    { s with world := { s.world with environment := { s.world.environment with pending := [] } } }
  note (.taken batch)
  return batch

def move (target : RunState) : Play σ Unit := do
  let source := (← session).world.state
  modify fun s => { s with world := { s.world with state := target } }
  note (.moved source target)

end Play

end TemplateRun
