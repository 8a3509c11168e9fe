/-
# `Discovery` — the documents at or below a path

A path that leads to a file is that one document.  Below a directory every file is a document, as
is every link that leads to one; directories are entered, links to directories are not.  The
documents come in the order of their paths.  What cannot be reached is passed over, with one
exception: a path that is too long, or a link that leads to one, ends the scan.
-/
import TemplateRun.Document.Basic
import TemplateRun.Log

namespace TemplateRun

/-- What a scan has found. -/
inductive Discovered where
  /-- The path is a document itself. -/
  | single (doc : Document)
  /-- The documents below a directory. -/
  | below (root : Path) (docs : List Document)

namespace Discovered

def documents : Discovered → List Document
  | single doc => [doc]
  | below _ docs => docs

/-- What the scan leaves in the log. -/
def log : Discovered → List Log.Record
  | single _ => []
  | below root docs =>
    [⟨.debug, Log.loggerOf "infra.file_document",
      "Discovered " ++ toString docs.length ++ " file(s) below " ++ root.text⟩]

end Discovered

namespace Disk

def isFile (d : Disk) (p : Path) : Except AccessFault Bool :=
  (d.look p).map fun
    | some (.file _) => true
    | _ => false

/-- The paths below a directory, at the path `root`, that lead to files. -/
def filesBelow (d : Disk) (root : Path) (entries : List (Segment × Node)) :
    Except AccessFault (List Path) :=
  ((Node.entriesDescendants entries).map root.below).filterM d.isFile

/-- The documents at or below a path. -/
def discover (d : Disk) (root : Path) : Except Fault Discovered :=
  match d.look root with
  | .error fault => .error (.inaccessible root fault)
  | .ok (some (.file _)) => .ok (.single ⟨root⟩)
  | .ok (some (.directory entries)) =>
    match d.filesBelow root entries with
    | .error fault => .error (.scanFailed root fault)
    | .ok [] => .error (.noDocumentsIn root)
    | .ok files => .ok (.below root ((files.mergeSort Path.atMost).map Document.mk))
  | .ok _ => .error (.inputMissing root)

end Disk

end TemplateRun
