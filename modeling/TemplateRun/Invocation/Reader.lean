/-
# `Reader` — from a command line to an invocation

The grammar is positional: the input first, then options.  An option is an entry `key=value`, cut
at its first `=`, or `-o` with the token behind it, whatever that token looks like; a last `-o`
with nothing behind it says nothing.  A token with a `=` is an entry even if it starts with `-o`.
Missing and empty tokens are placeholders and do not count anywhere.

Reading is split where the meaning is: `readOptions` finds the options, `output` and `memory`
say what a list of options amounts to (the last output wins, the last value of a key wins at the
place of its first), and `read` puts the two together.
-/
import TemplateRun.Invocation.Basic

namespace TemplateRun.Invocation

/-- The tokens that are not placeholders. -/
def realTokens (tokens : List (Option String)) : List String :=
  tokens.filterMap fun token => token.filter (· ≠ "")

/-! ## Entries -/

/-- A text cut at its first `=`, which belongs to neither part. -/
def cut : List Char → Option (List Char × List Char)
  | [] => none
  | c :: rest =>
    if c = '=' then some ([], rest) else (cut rest).map fun (key, value) => (c :: key, value)

/-- The entry that a token writes, if it writes one. -/
def entry? (token : String) : Option (String × String) :=
  (cut token.toList).map fun (key, value) => (String.ofList key, String.ofList value)

/-! ## Options -/

/-- The token before an output directory. -/
def outputFlag : String := "-o"

/-- One thing that the command line sets behind the input. -/
inductive Setting where
  | entry (key value : String)
  | output (directory : String)
deriving DecidableEq, Repr

/-- The options that the tokens behind the input write. -/
def readOptions : List String → Except ArgumentFault (List Setting)
  | [] => .ok []
  | token :: rest =>
    match entry? token with
    | some (key, value) => (readOptions rest).map (.entry key value :: ·)
    | none =>
      if token = outputFlag then
        match rest with
        | [] => .ok []
        | directory :: rest => (readOptions rest).map (.output directory :: ·)
      else .error (.unknownOption token)

def Setting.entry? : Setting → Option (String × String)
  | .entry key value => some (key, value)
  | .output _ => none

def Setting.output? : Setting → Option String
  | .entry _ _ => none
  | .output directory => some directory

def outputOf (settings : List Setting) : String :=
  (settings.filterMap Setting.output?).getLast?.getD defaultOutput

def memoryOf (settings : List Setting) : Memory :=
  OrderedMap.ofList (settings.filterMap Setting.entry?)

/-- The invocation that a command line asks for. -/
def read (tokens : List (Option String)) : Except ArgumentFault Invocation :=
  match realTokens tokens with
  | [] => .error .noInput
  | input :: options => do
    let settings ← readOptions options
    make? input (outputOf settings) (memoryOf settings)

end TemplateRun.Invocation
