/-
# `Preparation` — an environment for an invocation

The documents are resolved at the input; if there are any, a fresh environment is made and given
the memory, the project and the output of the invocation, over whatever it already holds.  The two
who do the finding and the making are not part of this module, may fault, and remember what they
like.  The memory that goes into the environment is the environment's own, so nothing that happens
to it touches the invocation.
-/
import TemplateRun.Fault
import TemplateRun.Log
import TemplateRun.Pipeline.Environment

namespace TemplateRun

/-- Those who find documents and make environments. -/
structure Providers (μ : Type) where
  /-- The names of the documents at a path. -/
  resolve : Path → μ → Except Fault (List String) × μ
  /-- An environment to start from. -/
  makeEnvironment : μ → Except Fault Environment × μ

/-- An environment that is ready, and the documents to compile in it. -/
structure Prepared where
  environment : Environment
  documents : List String
deriving DecidableEq

/-- What has come of a preparation. -/
structure Preparation (μ : Type) where
  outcome : Except Fault Prepared
  memory : μ
  log : List Log.Record

namespace Invocation

/-- Where the documents are. -/
def project (i : Invocation) : Path := Path.parse i.input

/-- Where the results go. -/
def target (i : Invocation) : Path := Path.parse i.output

def resolvedRecord (i : Invocation) (count : Nat) : Log.Record :=
  ⟨.debug, Log.loggerOf "core.environment_builder",
    "Resolved " ++ toString count ++ " document(s) from " ++ i.project.text⟩

def prepare {μ : Type} (i : Invocation) (p : Providers μ) (memory : μ) : Preparation μ :=
  match p.resolve i.project memory with
  | (.error fault, memory) => ⟨.error fault, memory, []⟩
  | (.ok [], memory) => ⟨.error (.noDocumentsAt i.project), memory, []⟩
  | (.ok documents, memory) =>
    let log := [i.resolvedRecord documents.length]
    match p.makeEnvironment memory with
    | (.error fault, memory) => ⟨.error fault, memory, log⟩
    | (.ok environment, memory) =>
      ⟨.ok ⟨environment.seed i.memory i.project i.target, documents⟩, memory, log⟩

end Invocation

end TemplateRun
