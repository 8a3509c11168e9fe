/-
# `Main` — the program

The arguments are the command line.  The files are those that the standard input lists, and no
engine is registered.  What the program says goes to the standard output and the standard error,
and its status to the caller.
-/
import TemplateRun.Command.Basic
import TemplateRun.Disk.Listing

open TemplateRun

/-- The lines that are left to read. -/
partial def readLines (input : IO.FS.Stream) (lines : Array String) : IO (Array String) := do
  let line ← input.getLine
  if line.isEmpty then return lines
  readLines input (lines.push (line.dropEndWhile (· == '\n')).toString)

/-- The number that a status becomes, and the words that go with it. -/
def statusOf : Command.Ending → UInt32 × String
  | .returned c | .exited (.code c) => (UInt32.ofNat c.code, "")
  | .exited (.granted .nothing) => (0, "")
  | .exited (.granted (.number n)) => (UInt32.ofNat (n % 256).toNat, "")
  | .exited (.granted (.words s)) => (1, s ++ "\n")
  | .escaped fault => (1, fault.message ++ "\n")

def main (arguments : List String) : IO UInt32 := do
  let lines ← readLines (← IO.getStdin) #[]
  let some disk := Disk.ofListing lines.toList
    | IO.eprintln "The standard input lists no tree of files."
      return 2
  let host : Host Unit := ⟨disk, none, []⟩
  let start : Session Unit := ⟨⟨.ready, Environment.fresh, ()⟩, Terminal.blank .styled, []⟩
  let (result, session) := (Command.runGuarded host (arguments.map some)).settle start
  IO.print session.terminal.output
  IO.eprint session.terminal.shown
  let (status, words) := statusOf (Command.Ending.ofResult result)
  IO.eprint words
  return status
