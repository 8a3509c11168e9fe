/-
# `Host` — what the program finds where it is run

A host has a disk, engines that are registered on it, and perhaps an engine that the caller hands
over, which is then used in place of them.  In the program the writer of diagnostics and the
callback for failures write to the user.  Something that was loaded as an engine and is none faults
when it is asked to compile.
-/
import TemplateRun.Document.Discovery
import TemplateRun.Pipeline.Run
import TemplateRun.Preparation
import TemplateRun.Registry

namespace TemplateRun

/-- What compiles and executes. -/
structure Engine (σ : Type) where
  compile : (documents : List String) → Behaviour σ
  execute : (selection : List String) → Behaviour σ

namespace Engine

variable {σ : Type}

/-- What is no engine, used as one. -/
def inert (typeName : String) : Engine σ :=
  ⟨fun _ => .fail (.notAnEngine typeName), fun _ => .fail (.notAnEngine typeName)⟩

/-- What has been loaded, used as an engine. -/
def ofLoaded : Loaded (Engine σ) → Engine σ
  | .engine e => e
  | .inert typeName => inert typeName

/-- Write a line to the user and return. -/
def announce (notice : Console.Notice) : Behaviour σ := .say notice (.orFault fun _ => .done true)

/-- The collaborators of a pipeline in the program. -/
def collaborators (e : Engine σ) : Collaborators σ where
  compile := e.compile
  execute := e.execute
  onError := some fun headline => announce (.headline headline)
  write d := announce (.diagnostic d)

end Engine

/-- What the program finds where it is run. -/
structure Host (σ : Type) where
  disk : Disk
  injected : Option (Engine σ)
  registry : List (EntryPoint (Engine σ))

/-- The documents of a disk and fresh environments; the log of what is done is remembered. -/
def Disk.providers (d : Disk) : Providers (List Log.Record) where
  resolve root log :=
    match d.discover root with
    | .ok found => (.ok (found.documents.map Document.name), log ++ found.log)
    | .error fault => (.error fault, log)
  makeEnvironment log := (.ok Environment.fresh, log)

end TemplateRun
