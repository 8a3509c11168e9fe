/-
# `Performance` — a script as behaviour

Each action becomes a step of the behaviour, in order, and a step that faults ends it.  The number
of a call is fixed when the call begins, so that calls in between do not change it; calls outside
the three counted phases are all the first.
-/
import TemplateRun.Script.Basic
import TemplateRun.Pipeline.Run
import TemplateRun.Preparation

namespace TemplateRun

/-- How scripts read documents: by name and encoding. -/
abbrev DocumentReader := String → String → Except Fault String

namespace ScriptAction

/-- The name at a place, where places below zero count from the end. -/
def nameAt? (names : List String) : Int → Option String
  | .ofNat n => names[n]?
  | .negSucc n => names.reverse[n]?

def onCompilations (f : World ScriptMemory → List String) (next : Behaviour ScriptMemory) :
    Behaviour ScriptMemory :=
  .change (fun w => { w.asTouch with compilations := f w }) next

def onMemory (f : World ScriptMemory → ScriptMemory) (next : Behaviour ScriptMemory) :
    Behaviour ScriptMemory :=
  .change (fun w => { w.asTouch with memory := f w }) next

/-- Do the action and go on. -/
def perform (reader : DocumentReader) (next : Behaviour ScriptMemory) :
    ScriptAction → Behaviour ScriptMemory
  | compileDocuments => onCompilations (fun w => w.environment.compilations ++ w.memory.given) next
  | addCompilation name => onCompilations (fun w => w.environment.compilations ++ [name]) next
  | clearCompilations => onCompilations (fun _ => []) next
  | reverseCompilations => onCompilations (fun w => w.environment.compilations.reverse) next
  | report text severity =>
    match Severity.ofName? severity with
    | some severity => .report ⟨severity, text⟩ next
    | none => .fail (.noSuchValue severity "DiagnosticLevel")
  | flush => .flush (.orFault fun _ => next)
  | writeMemory key value => .look fun w =>
    match w.environment.writeMemory key value with
    | .ok e => .change (fun w => { w.asTouch with metadata := e.metadata }) next
    | .error fault => .fail fault
  | setMeta key value =>
    .change (fun w =>
      { w.asTouch with metadata := w.environment.metadata.insert key (.text value) }) next
  | read index encoding => .look fun w =>
    match nameAt? w.memory.given index with
    | none => .fail (.foreign "IndexError" "tuple index out of range")
    | some name =>
      match reader name encoding with
      | .ok text => onMemory (fun w => w.memory.note (.read text)) next
      | .error fault => .fail fault
  | run => .run (.orFault fun state => onMemory (fun w => w.memory.note (.run state)) next)
  | raise fault => .fail fault

end ScriptAction

/-- Do the steps that are meant for a call, and go on. -/
def performSteps (reader : DocumentReader) (call : Nat) (next : Behaviour ScriptMemory) :
    List ScriptStep → Behaviour ScriptMemory
  | [] => next
  | step :: rest =>
    let next := performSteps reader call next rest
    if step.appliesTo call then step.action.perform reader next else next

namespace Cast

/-- The scripted engine's part in compiling. -/
def compileBehaviour (cast : Cast) (reader : DocumentReader) (documents : List String) :
    Behaviour ScriptMemory :=
  .act
    (fun w =>
      { w.asTouch with
        memory :=
          { w.memory.note (.compile documents w.environment.metadata) with
            compileCalls := w.memory.compileCalls + 1
            given := documents } })
    fun w =>
      performSteps reader w.memory.compileCalls (.done cast.compile.verdict) cast.compile.steps

/-- The scripted engine's part in executing. -/
def executeBehaviour (cast : Cast) (reader : DocumentReader) (selection : List String) :
    Behaviour ScriptMemory :=
  .act
    (fun w =>
      { w.asTouch with
        memory :=
          { w.memory.note (.execute selection w.environment.metadata) with
            executeCalls := w.memory.executeCalls + 1 } })
    fun w =>
      performSteps reader w.memory.executeCalls (.done cast.execute.verdict) cast.execute.steps

/-- What is done on a failure. -/
def errorBehaviour (reader : DocumentReader) (steps : List ScriptStep) (headline : Headline) :
    Behaviour ScriptMemory :=
  .act
    (fun w =>
      { w.asTouch with
        memory :=
          { w.memory.note (.onError headline.text) with errorCalls := w.memory.errorCalls + 1 } })
    fun w => performSteps reader w.memory.errorCalls (.done true) steps

/-- What is done with a diagnostic. -/
def writeBehaviour (cast : Cast) (reader : DocumentReader) (d : Diagnostic) :
    Behaviour ScriptMemory :=
  ScriptAction.onMemory (fun w => w.memory.note (.write d.line))
    (performSteps reader 1 (.done true)
      ((cast.writer.filter fun rule => rule.1 = d.text).flatMap Prod.snd))

def collaborators (cast : Cast) (reader : DocumentReader) : Collaborators ScriptMemory where
  compile := cast.compileBehaviour reader
  execute := cast.executeBehaviour reader
  onError := cast.onError.map (errorBehaviour reader)
  write := cast.writeBehaviour reader

def session (e : Environment) (memory : ScriptMemory) : Session ScriptMemory :=
  ⟨⟨.ready, e, memory⟩, Terminal.blank .plain, []⟩

/-- What steps outside any run come to, in an environment of their own. -/
def rehearse (cast : Cast) (reader : DocumentReader) (steps : List ScriptStep)
    (memory : ScriptMemory) : Except Fault Environment × ScriptMemory :=
  let pipeline : Pipeline ScriptMemory := ⟨cast.collaborators reader, []⟩
  let (r, s) := (pipeline.perform (performSteps reader 1 (.done true) steps)).settle
    (session Environment.fresh memory)
  (r.map fun _ => s.world.environment, s.world.memory)

/-- A scripted resolver, which finds these documents, and a scripted factory. -/
def providers (cast : Cast) (reader : DocumentReader) (documents : List String)
    (resolving making : List ScriptStep) : Providers ScriptMemory where
  resolve path memory :=
    let (r, memory) := cast.rehearse reader resolving (memory.note (.resolve path.text))
    (r.map fun _ => documents, memory)
  makeEnvironment memory := cast.rehearse reader making (memory.note .makeEnvironment)

end Cast

end TemplateRun
