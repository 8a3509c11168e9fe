/-
# `Listing` — a tree of files written out

A listing has one entry a line, its fields separated by tabs: the kind of the entry, its path, and
for a file its bytes in hexadecimal, for a link its target.  The tree is made in the order of the
lines, each path as it leads when its line is reached.
-/
import TemplateRun.Disk.Creation
import TemplateRun.Text.Hexadecimal

namespace TemplateRun

/-! ## Bytes -/

/-- The bytes that pairs of hexadecimal digits write. -/
def bytesOfHex? : List Char → Option (List UInt8)
  | [] => some []
  | [_] => none
  | a :: b :: rest => do
    let byte := 16 * (← Text.hexValue? a) + (← Text.hexValue? b)
    return UInt8.ofNat byte :: (← bytesOfHex? rest)

/-! ## Trees -/

/-- A node to be made, and the path at which. -/
abbrev NodeEntry := Path × Node

/-- The disk on which nodes have been made one after the other, in an empty directory. -/
def Disk.ofEntries (here : Location) (entries : List NodeEntry) : Option Disk := do
  entries.foldlM (fun d entry => d.create entry.1 entry.2) (← Disk.emptyAt here)

def entryOfLine? (line : String) : Option NodeEntry :=
  match (line.toList.splitOn '\t').map String.ofList with
  | ["file", path, hex] => (bytesOfHex? hex.toList).map fun bytes => (Path.parse path, .file bytes)
  | ["file", path] => some (Path.parse path, .file [])
  | ["link", path, target] => some (Path.parse path, .link target)
  | ["directory", path] => some (Path.parse path, .directory [])
  | _ => none

def Disk.ofListing (lines : List String) : Option Disk := do
  Disk.ofEntries [] (← lines.mapM entryOfLine?)

end TemplateRun
