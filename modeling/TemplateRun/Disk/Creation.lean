/-
# `Creation` — making files, links and directories

A node is made at the end of a path.  Directories that are missing on the way are made too, each at
the place that the way has led to so far, links included.  A file is written through the links at
its path, to the place that they stand for in the end, whether there is a file yet or not.  A
directory that is there stays, and a link is made only where nothing is.
-/
import TemplateRun.Disk.Lookup

namespace TemplateRun

namespace Disk

/-- The disk with this tree, if it is tidy. -/
def make? (top : Node) (here : Location) : Option Disk :=
  if h : top.isTidy then some ⟨top, here, h⟩ else none

/-- An empty directory, and oneself in it. -/
def emptyAt (here : Location) : Option Disk :=
  make? (Node.put (.directory []) here (.directory [])) here

/-- Whether there is a directory at a location. -/
def isDirectoryAt (top : Node) (location : Location) : Bool :=
  match top.at? location with
  | some (.directory _) => true
  | _ => false

/-- The tree and the location behind one more segment of the way, where a directory that is missing
is made. -/
def enter (top : Node) (here : Location) (s : Segment) : Option (Node × Location) :=
  match walk top linkLimit here [Component.ofSegment s] with
  | .ok location => if isDirectoryAt top location then some (top, location) else none
  | .error .notFound =>
    match top.at? (here ++ [s]) with
    | none => some (Node.put (.directory []) (here ++ [s]) top, here ++ [s])
    | some _ => none
  | .error _ => none

/-- The tree and the location behind the segments of the way. -/
def enterAll (top : Node) (here : Location) (segments : List Segment) : Option (Node × Location) :=
  segments.foldlM (fun (top, here) s => enter top here s) (top, here)

/-- Where something is written that is called by a name in the directory `here`, when up to `links`
links may be followed. -/
def placeOf (top : Node) (links : Nat) (here : Location) (s : Segment) : Option Location :=
  match links, top.at? (here ++ [s]) with
  | links + 1, some (.link target) =>
    let steps := Component.ofTarget target
    match steps.getLast?, walk top linkLimit (linkStart here target) steps.dropLast with
    | some (.name last), .ok there => placeOf top links there last
    | _, _ => none
  | 0, some (.link _) => none
  | _, _ => some (here ++ [s])

/-- The tree with a new node called by a name in the directory `here`. -/
def putIn (top : Node) (here : Location) (s : Segment) : Node → Option Node
  | .directory entries =>
    match walk top linkLimit here [Component.ofSegment s] with
    | .ok location => if isDirectoryAt top location then some top else none
    | .error _ =>
      if (top.at? (here ++ [s])).isSome then none
      else some (Node.put (.directory entries) (here ++ [s]) top)
  | .link target =>
    if (top.at? (here ++ [s])).isSome then none
    else some (Node.put (.link target) (here ++ [s]) top)
  | .file bytes => do
    let place ← placeOf top linkLimit here s
    if isDirectoryAt top place then none else some (Node.put (.file bytes) place top)

/-- The disk with a new node at a path. -/
def create (d : Disk) (p : Path) (new : Node) : Option Disk :=
  let start := if p.root = .relative then d.here else []
  match p.segments.getLast? with
  | none => some d
  | some last => do
    let (top, here) ← enterAll d.top start p.segments.dropLast
    make? (← putIn top here last new) d.here

end Disk

end TemplateRun
