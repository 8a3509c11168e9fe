/-
# `Node` — a tree of files, links and directories

A directory holds named nodes in some order, a link the text of the path that it stands for.  A
tree is tidy if no directory has two entries of one name, or an entry called `..`, the name that is
taken, or one whose name holds a NUL, which no system can be asked for.  A node is found by its
location, the names from the top down to it; `at?` follows no links.
-/
import TemplateRun.OrderedMap
import TemplateRun.Path

namespace TemplateRun

/-- What can be in a directory. -/
inductive Node where
  | file (bytes : List UInt8)
  | link (target : String)
  | directory (entries : List (Segment × Node))

/-- The names that lead from the top of a tree to a node. -/
abbrev Location := List Segment

namespace Node

/-! ## Tidiness -/

mutual

/-- Whether the names in all directories are distinct, and none is `..` or holds a NUL. -/
def isTidy : Node → Bool
  | file _ => true
  | link _ => true
  | directory entries => entriesTidy entries

def entriesTidy : List (Segment × Node) → Bool
  | [] => true
  | (name, node) :: rest =>
    name ≠ Segment.up && decide ('\x00' ∉ name.text.toList) &&
      decide (name ∉ rest.map Prod.fst) && node.isTidy && entriesTidy rest

end

/-! ## Looking -/

/-- The entry of this name, in a directory. -/
def child? : Node → Segment → Option Node
  | directory entries, name => entries.lookup name
  | _, _ => none

def at? : Node → Location → Option Node
  | node, [] => some node
  | node, name :: rest => (node.child? name).bind fun child => child.at? rest

mutual

/-- The locations of all that is below a node, links not followed. -/
def descendants : Node → List Location
  | file _ => []
  | link _ => []
  | directory entries => entriesDescendants entries

/-- The locations of the entries of a directory and of all that is below them. -/
def entriesDescendants : List (Segment × Node) → List Location
  | [] => []
  | (name, node) :: rest => [name] :: node.descendants.map (name :: ·) ++ entriesDescendants rest

end

/-! ## Changing -/

/-- The tree with a new node at a location; directories that are missing on the way are made. -/
def put (new : Node) : Location → Node → Node
  | [], _ => new
  | name :: rest, node =>
    let entries := match node with
      | directory entries => entries
      | _ => []
    directory (OrderedMap.overwrite name
      (put new rest ((entries.lookup name).getD (directory []))) entries)

end Node

end TemplateRun
