/-
# `Environment` — what the collaborators of a run share

An environment holds metadata under text keys, the compilations made so far, by their names, and
the diagnostics that have been reported and not yet written.  Three keys of the metadata have a
meaning: the memory, the location of the project and the location of the output.
-/
import TemplateRun.Diagnostic
import TemplateRun.Fault

namespace TemplateRun

/-! ## Metadata -/

/-- A key that means something. -/
inductive MetaKey where
  | memory
  | project
  | output
deriving DecidableEq, Repr

namespace MetaKey

def all : List MetaKey := [memory, project, output]

/-- The text that stands for a key in the metadata. -/
def name : MetaKey → String
  | memory => "MEMORY"
  | project => "PROJECT"
  | output => "OUTPUT"

def ofName? (s : String) : Option MetaKey := all.find? (·.name = s)

end MetaKey

/-- What metadata can hold. -/
inductive MetaValue where
  | memory (entries : Memory)
  | path (location : Path)
  | text (words : String)
deriving DecidableEq

/-- Values under text keys. -/
abbrev Metadata := OrderedMap String MetaValue

/-! ## Environments -/

/-- What the collaborators of a run share. -/
structure Environment where
  metadata : Metadata
  /-- The names of the documents that have been compiled. -/
  compilations : List String
  /-- The diagnostics that wait to be written. -/
  pending : List Diagnostic
deriving DecidableEq

namespace Environment

/-- An environment in which nothing has happened. -/
def fresh : Environment := ⟨OrderedMap.empty, [], []⟩

def setMeta (e : Environment) (key : String) (value : MetaValue) : Environment :=
  { e with metadata := e.metadata.insert key value }

/-- What is said of a value that has no entries. -/
def notAssignable (typeName : String) : String :=
  "'" ++ typeName ++ "' object does not support item assignment"

/-- The environment with the three keys that a run needs. -/
def seed (e : Environment) (memory : Memory) (project output : Path) : Environment :=
  ((e.setMeta MetaKey.memory.name (.memory memory)).setMeta MetaKey.project.name
    (.path project)).setMeta MetaKey.output.name (.path output)

/-- The environment with an entry in its memory.  There may be none, or something else in its
place. -/
def writeMemory (e : Environment) (key value : String) : Except Fault Environment :=
  match e.metadata.get? MetaKey.memory.name with
  | some (.memory entries) =>
    .ok (e.setMeta MetaKey.memory.name (.memory (entries.insert key value)))
  | some (.path _) => .error (.foreign "TypeError" (notAssignable "PosixPath"))
  | some (.text _) => .error (.foreign "TypeError" (notAssignable "str"))
  | none => .error (.ofKind "KeyError" (some MetaKey.memory.name) none)

/-- The environment with one more diagnostic waiting. -/
def report (e : Environment) (d : Diagnostic) : Environment :=
  { e with pending := e.pending ++ [d] }

end Environment

end TemplateRun
