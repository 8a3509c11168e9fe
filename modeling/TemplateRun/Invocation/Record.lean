/-
# `Record` — an invocation in the log

Reading a command line leaves one record, which writes out the invocation with every text quoted,
so the record is one line and shows the invocation whole.
-/
import TemplateRun.Invocation.Basic
import TemplateRun.Log
import TemplateRun.Text.Quoted

namespace TemplateRun.Invocation

/-- The entries of a memory, quoted and separated by commas. -/
def entriesText (memory : Memory) : String :=
  ", ".intercalate
    (memory.entries.map fun (key, value) => Text.quote key ++ ": " ++ Text.quote value)

def text (i : Invocation) : String :=
  "Invocation(input=" ++ Text.quote i.input ++ ", output=" ++ Text.quote i.output ++
    ", default_memory=mappingproxy(\x7b" ++ entriesText i.memory ++ "\x7d))"

def record (i : Invocation) : Log.Record :=
  ⟨.debug, Log.loggerOf "core.arguments", "Parsed invocation: " ++ i.text⟩

end TemplateRun.Invocation
