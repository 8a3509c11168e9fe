/-
# `Invocation` — one run of the command, as the command line asks for it

An invocation names the input, the output directory, and the memory that the templates start
from.  Its input is never empty: that is a field of the type, and `Invocation.make?` is the one
way in.  Two invocations are equal (`==`) if they have the same input, the same output and the
same value at every memory key, in whatever order the entries were written; the hash leaves the
memory out, so equal invocations have equal hashes.
-/
import TemplateRun.OrderedMap

namespace TemplateRun

/-- The memory that templates start from: texts under text keys. -/
abbrev Memory := OrderedMap String String

/-- Why a command line is not an invocation. -/
inductive ArgumentFault where
  /-- There is no input. -/
  | noInput
  /-- A token stands where an option should, and is none. -/
  | unknownOption (option : String)
deriving DecidableEq, Repr

namespace ArgumentFault

def message : ArgumentFault → String
  | .noInput => "No input specified!"
  | .unknownOption option => "Unknown option: " ++ option

def hint : ArgumentFault → Option String
  | .noInput => some "Pass the template file or project directory as the first argument."
  | .unknownOption _ => none

end ArgumentFault

/-- What one run works on. -/
structure Invocation where
  /-- The template file or project directory. -/
  input : String
  /-- The output directory. -/
  output : String
  /-- The memory that the templates start from. -/
  memory : Memory
  input_ne : input ≠ ""

namespace Invocation

/-- The output directory of a command line that names none. -/
def defaultOutput : String := "output"

/-- The invocation with these fields, unless the input is empty. -/
def make? (input output : String) (memory : Memory) : Except ArgumentFault Invocation :=
  if h : input = "" then .error .noInput else .ok ⟨input, output, memory, h⟩

instance : BEq Invocation where
  beq i j := i.input == j.input && i.output == j.output && i.memory.same j.memory

instance : Hashable Invocation where
  hash i := mixHash (hash i.input) (hash i.output)

theorem beq_iff (i j : Invocation) :
    (i == j) = true ↔
      i.input = j.input ∧ i.output = j.output ∧ ∀ k, i.memory.get? k = j.memory.get? k := by
  show (i.input == j.input && i.output == j.output && i.memory.same j.memory) = true ↔ _
  rw [Bool.and_eq_true, Bool.and_eq_true, beq_iff_eq, beq_iff_eq, OrderedMap.same_iff, and_assoc]

end Invocation

end TemplateRun
