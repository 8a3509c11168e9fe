/-
# `Delivery` — what reaches the engine

An engine that only makes a compilation of each document that it is given, and says yes, is called
twice: with all documents, and with the compilations of those whose files are named as templates.
What it finds in the environment is what the command line says (`Delivery`).  Nothing is asked of
how it executes, which may be in a fault, or with another run of the pipeline, which is refused.

    the command line      the input is the first real token, the options amount to the rest
    the disk              one file, or all documents below a directory in the order of their paths
    the engine            two calls, and what it is handed in them

`run_delivers` says that the program ends, and has delivered this.
-/
import TemplateRun.Proofs.Command.Program
import TemplateRun.Proofs.Document.Discovery
import TemplateRun.Proofs.Document.Template
import TemplateRun.Proofs.Invocation.Grammar
import TemplateRun.Proofs.Pipeline.Reentry

namespace TemplateRun

variable {σ : Type}

/-! ## Calls of the engine -/

def Happening.callsEngine : Happening → Bool
  | .compileCalled _ | .executeCalled _ => true
  | _ => false

def engineCalls (past : List Moment) : List Moment := past.filter fun m => m.happening.callsEngine

section
variable {past more : List Moment} {e : Environment} {state : RunState}

theorem engineCalls_append : engineCalls (past ++ more) = engineCalls past ++ engineCalls more :=
  List.filter_append past more

theorem Happening.callsEngine_eq_false {h : Happening} (hh : h.ofEngine = false) :
    h.callsEngine = false := by
  cases h <;> first | rfl | exact nomatch hh

theorem Abides.engineCalls (h : Abides state past) : engineCalls past = [] := by
  rw [TemplateRun.engineCalls, List.filter_eq_nil_iff]
  intro m hm
  rw [Happening.callsEngine_eq_false (h m hm).2]
  exact Bool.false_ne_true

theorem engineCalls_warning : engineCalls (warning e) = [] := by
  unfold warning
  split
  · rfl
  · rfl

theorem Executes.engineCalls {c : Collaborators σ} {r : Except Fault RunState}
    (h : Executes c e past r state) :
    engineCalls past = [⟨.executeCalled (Document.templates e.compilations), .compiled, e⟩] := by
  have hcall {rest : List Moment} (hrest : TemplateRun.engineCalls rest = []) :
      TemplateRun.engineCalls
        (⟨.executeCalled (Document.templates e.compilations), .compiled, e⟩ :: rest) =
      [⟨.executeCalled (Document.templates e.compilations), .compiled, e⟩] := by
    rw [TemplateRun.engineCalls, List.filter_cons_of_pos rfl]
    exact congrArg _ hrest
  cases h with
  | faulted e' f hinner =>
      refine hcall ?_
      rw [engineCalls_append, hinner.abides.engineCalls]
      rfl
  | refused e' hinner hgives =>
      refine hcall ?_
      rw [engineCalls_append, hinner.abides.engineCalls]
      exact hgives.abides.engineCalls
  | accepted e' hinner hcloses =>
      refine hcall ?_
      rw [engineCalls_append, hinner.abides.engineCalls]
      exact hcloses.abides.engineCalls

end

/-! ## Calls when the pipeline is not ready -/

/-- Then a call ends even if it runs the pipeline again, as that is refused. -/
theorem Engine.act_ends_of_left {e : Engine σ} {documents : List String} (depth : Nat)
    (b : Behaviour σ) :
    (act ((e.pipeline documents).reentry (depth + 1)) b).Ends (· ≠ .ready) := by
  have hrun : ((e.pipeline documents).reentry (depth + 1)).run.Ends (· ≠ .ready) :=
    fun s hs => ⟨_, s, runWith_refused hs, hs, fun _ _ => trivial⟩
  exact act_ends (flush_succeeds depth).ends (.inr hrun)

/-! ## Engines that only append -/

/-- The environment after a compilation of each of these documents has been made. -/
def Environment.appended (e : Environment) (documents : List String) : Environment :=
  { e with compilations := e.compilations ++ documents }

/-- The session after that, when the engine remembers this. -/
def Session.appended (s : Session σ) (documents : List String) (memory : σ) : Session σ :=
  { s with world := ⟨s.world.state, s.world.environment.appended documents, memory⟩ }

namespace Engine

variable {e : Engine σ}

/-- Compiling makes one compilation of each document, in order, and says yes.  Nothing else is done,
and what the engine remembers is its own business. -/
def Appends (e : Engine σ) : Prop :=
  ∀ (r : Reentry σ) (documents : List String) (s : Session σ), ∃ memory,
    act r (e.compile documents) s = some (.ok true, s.appended documents memory)

/-- The two calls of such an engine. -/
def delivered (documents : List String) (start : Environment) : List Moment :=
  [⟨.compileCalled documents, .ready, start⟩,
    ⟨.executeCalled (Document.templates (start.appended documents).compilations), .compiled,
      start.appended documents⟩]

/-- A run of the program's pipeline ends, and calls the engine twice. -/
theorem Appends.run (he : e.Appends) (documents : List String) {s : Session σ}
    (hs : s.world.state = .ready) :
    ∃ r s' new, (e.pipeline documents).run s = some (r, s') ∧
      s'.past = s.past ++ new ∧ engineCalls new = delivered documents s.world.environment := by
  obtain ⟨depth, hdepth⟩ := Pipeline.exists_depthLimit
  obtain ⟨memory, hcompile⟩ := he ((e.pipeline documents).reentry (depth + 1)) documents
    (s.noted (.compileCalled documents))
  let compiled : Session σ :=
    ((s.noted (.compileCalled documents)).appended documents memory).noted (.compileReturned true)
  have hcompiled : Call.compile.play (e.pipeline documents)
      (act ((e.pipeline documents).reentry (depth + 1))) s = some (.ok true, compiled) :=
    (Call.play_apply rfl s).trans (congrArg (Option.map _) hcompile)
  -- The pipeline is no longer ready, so the rest of the run ends whatever the engine does.
  have hleft : RunState.compiled ≠ .ready := by decide
  obtain ⟨r, s', hproceed, -⟩ := plan_endsIn (fun _ h => h)
    (@act_ends_of_left σ e documents depth _) (fun _ => act_ends_of_left depth _)
    .executingTemplates (compiled.movedTo .compiled) hleft
  obtain ⟨rest, hrest, hexecutes⟩ := proceeding_executes (keeps_traverses _ (depth + 1))
    (keeps_reentry (traverses_reentryLaw (e.pipeline documents)) (depth + 2)).1 hproceed
  have hcalls (front : List Moment) (e' : Environment) : engineCalls (front ++
      (warning e' ++ rest)) = engineCalls front ++ engineCalls rest := by
    rw [engineCalls_append, engineCalls_append, engineCalls_warning, List.nil_append]
  refine ⟨r, s', [⟨.compileCalled documents, .ready, s.world.environment⟩,
    ⟨.compileReturned true, .ready, s.world.environment.appended documents⟩,
    ⟨.moved .ready .compiled, .compiled, s.world.environment.appended documents⟩] ++
      (warning (s.world.environment.appended documents) ++ rest), ?_, ?_, ?_⟩
  · rw [Pipeline.run, hdepth]
    refine ((Plan.runWith_eq _ _ _ s).trans (if_pos hs)).trans ?_
    exact Plan.play_call_eq_some_iff.mpr (.inr ⟨true, compiled, hcompiled, hproceed⟩)
  · rw [hrest, ← hs]
    simp [compiled, Session.noted_past, Session.appended]
  · rw [hcalls, hexecutes.engineCalls]
    rfl

end Engine

/-! ## What the program delivers -/

namespace Command

variable {host : Host σ} {tokens : List (Option String)} {i : Invocation}

/-- `Delivery disk tokens i docs past`: the invocation that the command line writes has been carried
out on these documents. -/
structure Delivery (disk : Disk) (tokens : List (Option String)) (i : Invocation)
    (docs : List Document) (past : List Moment) : Prop where
  /-- The input is the first real token, and what is behind it says the rest. -/
  said : ∃ options settings, Invocation.realTokens tokens = i.input :: options ∧
    Invocation.Splits options settings ∧ Invocation.Amounts settings i
  /-- The documents are one file, or all that are below a directory in the order of their paths. -/
  found : (∃ bytes, disk.find (.parse i.input) = .ok (.file bytes) ∧ docs = [⟨.parse i.input⟩]) ∨
    ∃ entries, disk.find (.parse i.input) = .ok (.directory entries) ∧
      disk.Exact (.parse i.input) entries docs
  /-- The engine is called to compile all of them, and then to execute those whose files are named
  as templates; it finds the memory and the two paths, and nothing else. -/
  called : ∃ start : Environment,
    start.metadata.entries = [("MEMORY", .memory i.memory),
      ("PROJECT", .path (.parse i.input)), ("OUTPUT", .path (.parse i.output))] ∧
    start.compilations = [] ∧ start.pending = [] ∧
    engineCalls past = [⟨.compileCalled (docs.map Document.name), .ready, start⟩,
      ⟨.executeCalled ((docs.filter Document.isTemplate).map Document.name), .compiled,
        { start with compilations := docs.map Document.name }⟩]

/-- If the command line asks for neither help nor version and is an invocation, and there are
documents and an engine that only appends when it compiles, then the program ends, and it has
delivered what was asked for. -/
theorem run_delivers {found : Discovered} {e : Engine σ} (hasks : ¬ Asks tokens)
    (hread : Invocation.read tokens = .ok i) (hfound : host.disk.discover i.project = .ok found)
    (he : engineOf host = .ok e) (happends : e.Appends) (s : Session σ) :
    ∃ r s' new, run host tokens s = some (r, s') ∧ s'.past = s.past ++ new ∧
      Delivery host.disk tokens i found.documents new := by
  have hprepared := preparedOf_of_discover hfound
  obtain ⟨t, haside, hrun⟩ := @run_of_read σ host i tokens hasks hread s
  obtain ⟨u, hstate, henvironment, hpast, -, hcarry⟩ := carryOut_of_ready hprepared he t
  obtain ⟨r, s', new, hends, hnew, hcalls⟩ :=
    happends.run (found.documents.map Document.name) hstate
  have hcarried : ∃ q, carryOut host i t = some (q, s') := by
    rw [hcarry, Play.bind_apply]
    simp only [hends]
    cases r with
    | error f => exact ⟨_, rfl⟩
    | ok state => cases state <;> exact ⟨_, rfl⟩
  have hresult : ∃ q, run host tokens s = some (q, s') := by
    obtain ⟨q, hq⟩ := hcarried
    rw [hrun, Play.bind_apply, hq]
    cases q with
    | error f => exact ⟨_, rfl⟩
    | ok code => exact ⟨_, rfl⟩
  obtain ⟨q, hq⟩ := hresult
  refine ⟨q, s', new, hq, by rw [hnew, hpast, haside.past], Invocation.exists_of_read hread,
    (Disk.discover_eq_ok hfound).2, u.world.environment, ?_, ?_, ?_, ?_⟩
  · rw [henvironment]
    rfl
  · rw [henvironment]
    rfl
  · rw [henvironment]
    rfl
  · rw [hcalls, Engine.delivered, Environment.appended, henvironment]
    simp only [Environment.seed, Environment.setMeta, Environment.fresh, List.nil_append]
    rw [Document.templates_map_name]

/-- An engine that appends, and that runs the pipeline again when it is to execute. -/
def appendingEngine : Engine Unit where
  compile := fun documents =>
    .change (fun w => { w.asTouch with compilations := w.environment.compilations ++ documents })
      (.done true)
  execute := fun _ => .run fun _ => .done true

theorem appendingEngine_appends : appendingEngine.Appends := fun _ _ s => ⟨s.world.memory, rfl⟩

/-- A template and a file that is none, in a directory with the name of a template. -/
def suffixedDisk : Disk where
  top := .directory [(⟨"d.jamplate", by decide⟩, .directory
    [(⟨"b.jamplate", by decide⟩, .file []), (⟨"a.txt", by decide⟩, .file [])])]
  here := []
  isTidy := by decide

/-- A host with this disk, to which the engine is handed over. -/
def appendingHost : Host Unit := ⟨suffixedDisk, some appendingEngine, []⟩

theorem appendingHost_delivers : ∃ i found r s' new,
    Invocation.read [none, some "d.jamplate", some "K=V", some "-o"] = .ok i ∧
    suffixedDisk.discover i.project = .ok found ∧
    run appendingHost [none, some "d.jamplate", some "K=V", some "-o"] (.blank ()) =
      some (r, s') ∧ s'.past = (Session.blank ()).past ++ new ∧
    Delivery suffixedDisk [none, some "d.jamplate", some "K=V", some "-o"] i found.documents
      new := by
  have hasks : ¬ Asks [none, some "d.jamplate", some "K=V", some "-o"] := by
    rw [asks_iff]
    decide
  have hread : ∃ i, Invocation.read [none, some "d.jamplate", some "K=V", some "-o"] = .ok i ∧
      i.project = .parse "d.jamplate" := ⟨_, rfl, rfl⟩
  obtain ⟨i, hread, hproject⟩ := hread
  have hfound : ∃ found, suffixedDisk.discover i.project = .ok found := by
    rw [hproject]
    exact ⟨_, rfl⟩
  obtain ⟨found, hfound⟩ := hfound
  obtain ⟨r, s', new, hrun⟩ := @run_delivers Unit appendingHost _ i found appendingEngine hasks
    hread hfound rfl appendingEngine_appends (.blank ())
  exact ⟨i, found, r, s', new, hread, hfound, hrun⟩

end Command

end TemplateRun
