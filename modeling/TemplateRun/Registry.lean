/-
# `Registry` — choosing an engine

Engines are registered under names.  The one with the least name is taken, of two with one name
the one that was registered first, and no other is loaded.  Loading may give an engine, or
something that makes one, or something that is none, which is handed on as it is.  A fault in
loading is wrapped in one that names the engine; a fault in making is not, and neither is an
interrupt or a wish to end the program.

What loading and making do besides is up to them: they are actions of a monad `m`.  Where it is of
no interest what they do, `m` is the identity.
-/
import TemplateRun.Fault
import TemplateRun.Log

namespace TemplateRun

/-- The group under which engines are registered. -/
def engineGroup : String := "jamplate.engines"

/-- What is found when an engine is loaded. -/
inductive Loadable (ε : Type) (m : Type → Type := Id) where
  | engine (engine : ε)
  /-- Something that makes an engine when it is asked to. -/
  | maker (make : m (Except Fault ε))
  /-- Something that is no engine, and the name of its type. -/
  | inert (typeName : String)

/-- A registered engine. -/
structure EntryPoint (ε : Type) (m : Type → Type := Id) where
  name : String
  /-- Where the engine is to be found. -/
  value : String
  load : m (Except Fault (Loadable ε m))

/-- What a registry yields. -/
inductive Loaded (ε : Type) where
  | engine (engine : ε)
  | inert (typeName : String)

namespace EntryPoint

variable {ε : Type} {m : Type → Type}

/-- Whether `a` is not to be taken after `b`. -/
def precedes (a b : EntryPoint ε m) : Bool := decide (a.name ≤ b.name)

/-- The registered engines, the one to take first. -/
def ranked (entries : List (EntryPoint ε m)) : List (EntryPoint ε m) := entries.mergeSort precedes

/-- What loading an entry point yields. -/
def open? [Monad m] (e : EntryPoint ε m) : m (Except Fault (Loaded ε)) := do
  match ← e.load with
  | .error fault =>
    return .error (if fault.isError then .engineBroken e.name e.value fault else fault)
  | .ok (.engine engine) => return .ok (.engine engine)
  | .ok (.maker make) => return (← make).map .engine
  | .ok (.inert typeName) => return .ok (.inert typeName)

def logger : String := Log.loggerOf "infra.engine_loader"

def choiceRecord (ranked : List (EntryPoint ε m)) (chosen : EntryPoint ε m) : Log.Record :=
  let names := ", ".intercalate (ranked.map EntryPoint.name)
  ⟨.debug, logger,
    "Several engines registered (" ++ names ++ "); using " ++ Text.quote chosen.name⟩

def loadedRecord (e : EntryPoint ε m) : Log.Record :=
  ⟨.debug, logger, "Loaded engine " ++ Text.quote e.name ++ " from " ++ e.value⟩

end EntryPoint

/-- What the registered engines yield, and what is logged on the way. -/
def loadEngineM {ε : Type} {m : Type → Type} [Monad m] (entries : List (EntryPoint ε m)) :
    m (Except Fault (Loaded ε) × List Log.Record) :=
  match EntryPoint.ranked entries with
  | [] => return (.error .noEngine, [])
  | chosen :: others => do
    let choice := if others.isEmpty then [] else [EntryPoint.choiceRecord (chosen :: others) chosen]
    match ← chosen.open? with
    | .error fault => return (.error fault, choice)
    | .ok loaded => return (.ok loaded, choice ++ [chosen.loadedRecord])

/-- The same of engines that do nothing else when they are loaded and made. -/
def loadEngine {ε : Type} (entries : List (EntryPoint ε)) :
    Except Fault (Loaded ε) × List Log.Record :=
  (loadEngineM entries).run

end TemplateRun
