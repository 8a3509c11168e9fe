/-
# `Lookup` — where a path leads

A path is walked from the left, from the top of the tree or from the directory that one is in.  A
name has to be looked up in a directory; `..` leads to the directory above the one that has been
reached, which after a link is not the one that the path names.  A link is replaced by the path
that it stands for, from the directory that holds it; forty links may be followed on one walk.
A path whose text is too long is not walked, and a name that is too long is not looked up.
-/
import TemplateRun.Disk.Access
import TemplateRun.Disk.Node

namespace TemplateRun

/-! ## Components -/

/-- One step of a walk. -/
inductive Component where
  /-- Stay where one is, which has to be a directory. -/
  | stay
  | up
  | name (segment : Segment)
deriving DecidableEq

namespace Component

def ofSegment (s : Segment) : Component := if s = Segment.up then up else name s

def ofTarget (target : String) : List Component :=
  (target.toList.splitOn '/').map fun piece =>
    match Segment.ofText? (String.ofList piece) with
    | some s => ofSegment s
    | none => stay

end Component

/-! ## Walking -/

/-- The bytes that a name may have. -/
def nameLimit : Nat := 255

/-- The bytes that the text of a path has to stay below. -/
def pathLimit : Nat := 4096

/-- The links that one walk may follow. -/
def linkLimit : Nat := 40

/-- Where the target of a link in the directory `here` is walked from. -/
def linkStart (here : Location) (target : String) : Location :=
  if target.toList.head? = some '/' then [] else here

/-- Where a walk leads that goes on by `follow` when it comes to a link. -/
def walkWith (follow : Location → List Component → Except AccessFault Location) (top : Node) :
    Location → List Component → Except AccessFault Location
  | here, [] => .ok here
  | here, step :: rest =>
    match top.at? here with
    | some (.directory entries) =>
      match step with
      | .stay => walkWith follow top here rest
      | .up => walkWith follow top here.dropLast rest
      | .name s =>
        if nameLimit < s.text.utf8ByteSize then .error .nameTooLong
        else match entries.lookup s with
          | none => .error .notFound
          | some (.link target) =>
            follow (linkStart here target) (Component.ofTarget target ++ rest)
          | some _ => walkWith follow top (here ++ [s]) rest
    | _ => .error .notDirectory

/-- Where a walk leads that may follow `links` links. -/
def walk (top : Node) : (links : Nat) → Location → List Component → Except AccessFault Location
  | 0 => walkWith (fun _ _ => .error .tooManyLinks) top
  | links + 1 => walkWith (walk top links) top

/-! ## Disks -/

/-- A tidy tree of files, and the directory that one is in. -/
structure Disk where
  top : Node
  here : Location
  isTidy : top.isTidy = true

namespace Disk

def locate (d : Disk) (p : Path) : Except AccessFault Location :=
  if '\x00' ∈ p.text.toList then .error .embeddedNul
  else if pathLimit ≤ p.text.utf8ByteSize then .error .nameTooLong
  else
    walk d.top linkLimit (if p.root = .relative then d.here else [])
      (p.segments.map Component.ofSegment)

/-- The node that a path leads to, which is not a link. -/
def find (d : Disk) (p : Path) : Except AccessFault Node := do
  match d.top.at? (← d.locate p) with
  | some node => return node
  | none => throw .notFound

/-- What a path leads to, if it leads to anything. -/
def look (d : Disk) (p : Path) : Except AccessFault (Option Node) :=
  match d.find p with
  | .ok node => .ok (some node)
  | .error fault => if fault.isAbsence then .ok none else .error fault

def readBytes (d : Disk) (p : Path) : Except AccessFault (List UInt8) := do
  match ← d.find p with
  | .file bytes => return bytes
  | .directory _ => throw .isDirectory
  | .link _ => throw .notFound

end Disk

end TemplateRun
