/-
# `Sharing` — what others may do with an invocation

An invocation is handed out and never changes.  Its memory can be looked up; an attempt to give a
field another value, or to write into the memory, is refused with a fault.
-/
import TemplateRun.Fault

namespace TemplateRun.Invocation

def valueAt (i : Invocation) (key : String) : Except Fault String :=
  match i.memory.get? key with
  | some value => .ok value
  | none => .error (.ofKind "KeyError" (some key) none)

/-- What an attempt to set a field comes to. -/
def fieldRefusal (field : String) : Fault :=
  .foreign "FrozenInstanceError" ("cannot assign to field '" ++ field ++ "'")

/-- What an attempt to write into the memory comes to. -/
def memoryRefusal : Fault :=
  .foreign "TypeError" "'mappingproxy' object does not support item assignment"

end TemplateRun.Invocation
