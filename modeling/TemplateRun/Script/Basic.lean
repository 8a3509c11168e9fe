/-
# `Script` — collaborators that do what a list says

A script lists actions, and some of them may be meant for certain calls only, by number.  What a
scripted collaborator remembers is how often each phase has been called, the documents that were
last given to be compiled, and what it has noted on the way, in order.
-/
import TemplateRun.Pipeline.Behaviour

namespace TemplateRun

/-- One thing that a script can have done. -/
inductive ScriptAction where
  /-- Add a compilation for each document that was given. -/
  | compileDocuments
  | addCompilation (name : String)
  | clearCompilations
  | reverseCompilations
  | report (text severity : String)
  | flush
  | writeMemory (key value : String)
  | setMeta (key value : String)
  /-- Read a document, by its place among those given, from the end if it is below zero. -/
  | read (index : Int) (encoding : String)
  | run
  | raise (fault : Fault)

/-- An action, and the calls for which it is meant if not for all. -/
structure ScriptStep where
  action : ScriptAction
  calls : Option (List Nat)

/-- Whether a step is meant for a call. -/
def ScriptStep.appliesTo (step : ScriptStep) (call : Nat) : Bool :=
  match step.calls with
  | none => true
  | some calls => call ∈ calls

/-- What one call of an engine comes to. -/
structure Script where
  steps : List ScriptStep
  verdict : Bool

/-- The scripts of all collaborators. -/
structure Cast where
  compile : Script
  execute : Script
  onError : Option (List ScriptStep)
  /-- What the writer does besides noting: after each diagnostic with this text, these steps. -/
  writer : List (String × List ScriptStep)

/-- A cast whose engine compiles what it is given, and no more. -/
def Cast.plain : Cast := ⟨⟨[⟨.compileDocuments, none⟩], true⟩, ⟨[], true⟩, none, []⟩

/-- What a scripted collaborator notes. -/
inductive ScriptNote where
  | compile (documents : List String) (metadata : Metadata)
  | execute (selection : List String) (metadata : Metadata)
  | onError (headline : String)
  | write (line : String)
  | read (text : String)
  | run (state : RunState)
  | resolve (path : String)
  | makeEnvironment
deriving DecidableEq

/-- What scripted collaborators remember. -/
structure ScriptMemory where
  compileCalls : Nat
  executeCalls : Nat
  errorCalls : Nat
  /-- The documents that were last given to be compiled. -/
  given : List String
  notes : List ScriptNote

namespace ScriptMemory

def fresh : ScriptMemory := ⟨0, 0, 0, [], []⟩

def note (m : ScriptMemory) (n : ScriptNote) : ScriptMemory := { m with notes := m.notes ++ [n] }

end ScriptMemory

end TemplateRun
