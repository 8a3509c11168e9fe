/-
# `Behaviour` — what a collaborator does when it is called

Engines, the callback for failures and the writer of diagnostics are not part of this library.
What any of them does in one call is a tree: it may look at the world and change what it may
change, report, have the diagnostics written, write to the user, start the pipeline again, and in
the end return or fault.  After each step it goes on as it likes, and after a fault that came back
from a step as well; `andThen` and `orFault` are the two usual ways.
-/
import TemplateRun.Console.Notice
import TemplateRun.Fault
import TemplateRun.Pipeline.Environment

namespace TemplateRun

/-! ## The world -/

/-- What there is while a pipeline runs: how far it has come, the environment, and what the
collaborators remember, which is their own business. -/
structure World (σ : Type) where
  state : RunState
  environment : Environment
  memory : σ

/-- What a collaborator leaves when it changes things by itself. -/
structure Touch (σ : Type) where
  metadata : Metadata
  compilations : List String
  memory : σ

variable {σ : Type}

/-- What may be changed, as it is. -/
def World.asTouch (w : World σ) : Touch σ :=
  ⟨w.environment.metadata, w.environment.compilations, w.memory⟩

def World.touch (w : World σ) (t : Touch σ) : World σ where
  state := w.state
  environment :=
    { metadata := t.metadata, compilations := t.compilations, pending := w.environment.pending }
  memory := t.memory

/-! ## Behaviours -/

/-- What a collaborator does in one call.  What it returns is a verdict, which only an engine is
asked for. -/
inductive Behaviour (σ : Type) where
  /-- Return. -/
  | done (verdict : Bool)
  /-- Fault. -/
  | fail (fault : Fault)
  /-- Change what may be changed, and go on as the world then is. -/
  | act (change : World σ → Touch σ) (next : World σ → Behaviour σ)
  /-- Report a diagnostic. -/
  | report (d : Diagnostic) (next : Behaviour σ)
  /-- Write a line to the user. -/
  | say (notice : Console.Notice) (next : Except Fault Unit → Behaviour σ)
  /-- Have the pending diagnostics written. -/
  | flush (next : Except Fault Unit → Behaviour σ)
  /-- Run the pipeline. -/
  | run (next : Except Fault RunState → Behaviour σ)

namespace Behaviour

/-- Go on after a step that succeeds, and fault as it does if it does not. -/
def orFault {α : Type} (next : α → Behaviour σ) : Except Fault α → Behaviour σ
  | .ok a => next a
  | .error fault => .fail fault

def change (f : World σ → Touch σ) (next : Behaviour σ) : Behaviour σ := .act f fun _ => next

def look (next : World σ → Behaviour σ) : Behaviour σ := .act World.asTouch next

end Behaviour

/-- Those whom a pipeline calls. -/
structure Collaborators (σ : Type) where
  /-- The engine compiles documents. -/
  compile : (documents : List String) → Behaviour σ
  /-- The engine executes compilations. -/
  execute : (selection : List String) → Behaviour σ
  /-- Someone may want to hear of failures. -/
  onError : Option (Headline → Behaviour σ)
  /-- Someone writes the diagnostics. -/
  write : Diagnostic → Behaviour σ

end TemplateRun
