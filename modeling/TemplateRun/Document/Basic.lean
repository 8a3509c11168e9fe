/-
# `Document` — a file that takes part in a run

A document is the path of its file; its name is that path written out, so two documents with one
name are one document, and the name gives the document back.  A document whose name ends in
`.jamplate` is a template.  Reading a document fails with a fault that names it.  But an encoding
that is not known is a fault of its own, which shows only when the file could be opened, and a null
character in the name of one shows before anything else.
-/
import TemplateRun.Disk.Lookup
import TemplateRun.Encoding.Basic
import TemplateRun.Fault

namespace TemplateRun

/-- A file that is compiled. -/
structure Document where
  path : Path
deriving DecidableEq

namespace Document

def name (doc : Document) : String := doc.path.text

def ofText (s : String) : Document := ⟨Path.parse s⟩

/-! ## Templates -/

def templateSuffix : String := ".jamplate"

def hasSuffix (suffix name : String) : Bool := suffix.toList.isSuffixOf name.toList

/-- The things whose names end in a suffix, in order. -/
def select {α : Type} (nameOf : α → String) (suffix : String) (things : List α) : List α :=
  things.filter fun thing => hasSuffix suffix (nameOf thing)

/-- The names of templates among names, in order. -/
def templates (names : List String) : List String := select id templateSuffix names

/-! ## Reading -/

/-- The encoding of documents that say nothing else. -/
def defaultEncoding : String := "utf-8"

/-- The text of a document that can be opened, in an encoding. -/
def decode (doc : Document) (encoding : String) (bytes : List UInt8) : Except Fault String :=
  match Encoding.ofName? encoding with
  | none => .error (.unknownEncoding encoding)
  | some encoding =>
    (encoding.text bytes).mapError fun refusal => .unreadable doc.path (.undecodable refusal)

def read (d : Disk) (doc : Document) (encoding : String) : Except Fault String :=
  if encoding.toList.contains '\x00' then .error .encodingHoldsNul
  else match d.readBytes doc.path with
    | .error .embeddedNul => .error (.inaccessible doc.path .embeddedNul)
    | .error fault => .error (.unreadable doc.path (.access fault))
    | .ok bytes => doc.decode encoding bytes

end Document

end TemplateRun
