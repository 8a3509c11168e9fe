/-
# `Fault` — everything that can stop the program

A fault is given by its cause; its words, its advice and the name of its kind follow from that.
The program's own kinds form a tree (`Family.ancestors`); a fault of the tree is one that the
program explains to its user (`family?`).  Faults of collaborators come in their own words, either
in a kind of the tree or in a foreign one, of which nothing is known but its name.  Some are no
errors (`isError`): the user's interrupt, a collaborator's wish to end the program, and what else a
collaborator may throw that is not meant to be caught.
-/
import TemplateRun.Disk.Access
import TemplateRun.Encoding.Refusal
import TemplateRun.Invocation.Basic
import TemplateRun.Markup.Render
import TemplateRun.Pipeline.State

namespace TemplateRun

/-! ## The tree of kinds -/

/-- The program's own kinds of fault. -/
inductive Family where
  | base
  | argument
  | noInput
  | unknownOption
  | documentResolution
  | documentRead
  | environment
  | engineNotFound
  | pipelineState
deriving DecidableEq, Repr

namespace Family

/-- The kinds in the order of the tree. -/
def all : List Family :=
  [base, argument, noInput, unknownOption, documentResolution, documentRead, environment,
   engineNotFound, pipelineState]

def name : Family → String
  | base => "JamplateCliError"
  | argument => "ArgumentError"
  | noInput => "NoInputError"
  | unknownOption => "UnknownOptionError"
  | documentResolution => "DocumentResolutionError"
  | documentRead => "DocumentReadError"
  | environment => "EnvironmentError"
  | engineNotFound => "EngineNotFoundError"
  | pipelineState => "PipelineStateError"

def ofName? (s : String) : Option Family := all.find? (·.name = s)

/-- The kinds above a kind, the nearest first. -/
def ancestors : Family → List Family
  | base => []
  | noInput | unknownOption => [argument, base]
  | engineNotFound => [environment, base]
  | argument | documentResolution | documentRead | environment | pipelineState => [base]

/-- A kind and the kinds above it. -/
def lineage (f : Family) : List Family := f :: f.ancestors

end Family

/-! ## Faults -/

/-- Why a document cannot be read. -/
inductive ReadFault where
  | access (fault : AccessFault)
  | undecodable (refusal : Refusal)
deriving DecidableEq, Repr

def ReadFault.message (path : Path) : ReadFault → String
  | access fault => fault.message path
  | undecodable refusal => refusal.message

def ReadFault.kindName : ReadFault → String
  | access fault => fault.kindName
  | undecodable _ => "UnicodeDecodeError"

/-- What a collaborator that ends the program wants to leave to its caller. -/
inductive Wish where
  | nothing
  | number (n : Int)
  /-- Last words. -/
  | words (s : String)
deriving DecidableEq, Repr

def Wish.text : Wish → String
  | nothing => ""
  | number n => toString n
  | words s => s

/-- What stops the program. -/
inductive Fault where
  /-- The command line is no invocation. -/
  | argument (fault : ArgumentFault)
  /-- Nothing is at the input. -/
  | inputMissing (root : Path)
  /-- A directory holds no files. -/
  | noDocumentsIn (root : Path)
  /-- The resolver has found nothing to compile. -/
  | noDocumentsAt (project : Path)
  /-- Something below a directory cannot be looked at. -/
  | scanFailed (root : Path) (cause : AccessFault)
  /-- The input itself cannot be looked at, or the name of a document is none. -/
  | inaccessible (path : Path) (cause : AccessFault)
  | unreadable (document : Path) (cause : ReadFault)
  | unknownEncoding (name : String)
  /-- A null character is in the name of an encoding. -/
  | encodingHoldsNul
  | noEngine
  /-- An engine is registered and cannot be loaded. -/
  | engineBroken (name value : String) (cause : Fault)
  /-- What has been loaded as an engine cannot compile. -/
  | notAnEngine (typeName : String)
  | alreadyRan (state : RunState)
  /-- A text is none of an enumeration's values. -/
  | noSuchValue (value enumeration : String)
  /-- A marked-up text cannot be shown. -/
  | illMarked (defect : Markup.Defect)
  /-- A collaborator's fault, of one of the program's own kinds. -/
  | raised (family : Family) (message : String) (hint : Option String)
  /-- A collaborator's error of another kind, whose name may be any text. -/
  | foreign (kind message : String)
  /-- A collaborator's fault that is no error, and neither an interrupt nor a wish to end. -/
  | beyond (kind message : String)
  /-- The user has interrupted the run. -/
  | interrupt (message : String)
  /-- A collaborator ends the program. -/
  | exit (wish : Wish)
deriving DecidableEq

namespace Fault

/-- How to get an engine. -/
def installHint : String :=
  "Install a Jamplate engine package that registers a 'jamplate.engines' entry point."

/-- The kind in the program's own tree, if the fault has one. -/
def family? : Fault → Option Family
  | argument .noInput => some .noInput
  | argument (.unknownOption _) => some .unknownOption
  | inputMissing _ | noDocumentsIn _ | noDocumentsAt _ | scanFailed _ _ => some .documentResolution
  | unreadable _ _ => some .documentRead
  | noEngine | engineBroken _ _ _ => some .engineNotFound
  | alreadyRan _ => some .pipelineState
  | raised family _ _ => some family
  | inaccessible _ _ | unknownEncoding _ | encodingHoldsNul | notAnEngine _ | noSuchValue _ _
  | illMarked _ | foreign _ _ | beyond _ _ | interrupt _ | exit _ => none

def kindName (fault : Fault) : String :=
  match fault with
  | inaccessible _ cause => cause.kindName
  | unknownEncoding _ => "LookupError"
  | notAnEngine _ => "AttributeError"
  | encodingHoldsNul | noSuchValue _ _ => "ValueError"
  | illMarked defect => defect.kindName
  | foreign kind _ | beyond kind _ => kind
  | interrupt _ => "KeyboardInterrupt"
  | exit _ => "SystemExit"
  | _ => (fault.family?.getD .base).name

def message : Fault → String
  | argument fault => fault.message
  | inputMissing root => "Input not found: " ++ root.text
  | noDocumentsIn root => "No documents found in: " ++ root.text
  | noDocumentsAt project => "No documents found at: " ++ project.text
  | scanFailed root _ => "Cannot scan directory: " ++ root.text
  | inaccessible path cause => cause.message path
  | unreadable document _ => "Cannot read document: " ++ document.text
  | unknownEncoding name => "unknown encoding: " ++ name
  | encodingHoldsNul => "embedded null character"
  | noEngine => "No Jamplate engine is installed."
  | engineBroken name value cause =>
    "Cannot load engine " ++ Text.quote name ++ " (" ++ value ++ "): " ++ cause.message
  | notAnEngine typeName => "'" ++ typeName ++ "' object has no attribute 'compile'"
  | alreadyRan state => "Pipeline already ran (state: " ++ state.name ++ ")."
  | noSuchValue value enumeration => Text.quote value ++ " is not a valid " ++ enumeration
  | illMarked defect => defect.message
  | raised _ message _ => message
  | foreign _ message | beyond _ message => message
  | interrupt message => message
  | exit wish => wish.text

/-- What to do about it. -/
def hint : Fault → Option String
  | argument fault => fault.hint
  | inputMissing _ => some "Pass an existing template file or project directory."
  | unreadable document cause => some (cause.message document)
  | noEngine | engineBroken _ _ _ => some installHint
  | raised _ _ hint => hint
  | _ => none

/-- The option that the fault is about. -/
def option? : Fault → Option String
  | argument (.unknownOption option) => some option
  | _ => none

/-- The kind of the fault behind this one. -/
def causeName? : Fault → Option String
  | scanFailed _ cause => some cause.kindName
  | unreadable _ cause => some cause.kindName
  | engineBroken _ _ cause => some cause.kindName
  | _ => none

/-- Whether the fault is an error.  Who waits for errors of any kind lets the others pass. -/
def isError : Fault → Bool
  | beyond _ _ | interrupt _ | exit _ => false
  | _ => true

/-- Kinds of fault that are no errors, besides the interrupt and the wish to end. -/
def beyondKinds : List String := ["BaseException", "GeneratorExit", "CancelledError"]

/-- The fault that a collaborator makes of the name of a kind and its own words.  Two kinds take
their words from elsewhere, and a key that is missing is quoted. -/
def ofKind (kind : String) (message hint : Option String) : Fault :=
  let words := message.getD ""
  match Family.ofName? kind with
  | some .noInput => argument .noInput
  | some .unknownOption => argument (.unknownOption words)
  | some family => raised family words hint
  | none =>
    if kind = "KeyboardInterrupt" then interrupt words
    else if kind = "SystemExit" then exit ((message.map Wish.words).getD .nothing)
    else if kind = "KeyError" then foreign kind ((message.map Text.quote).getD "")
    else if kind ∈ beyondKinds then beyond kind words
    else foreign kind words

end Fault

end TemplateRun
