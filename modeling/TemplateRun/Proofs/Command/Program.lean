/-
# `Program` — the ways in which the program comes to its end

Before the pipeline runs, the program reads the command line, resolves the documents and finds an
engine, and it writes and records on the way.  None of this is anything that happens to the pipeline
(`Aside`), and all of it comes to an end.  What it can come to is a `Way`; `run_way` says that the
program goes one of them, and `Way.Traces` how each can be told from the command line, from what the
host has, and from what has happened.

    Asks             the first token asks for help or for the version
    Unready          resolving the documents or finding an engine ends in this fault
    Way.outcome      the exit code, or the fault that comes out
-/
import TemplateRun.Command.Basic
import TemplateRun.Proofs.Command.Announcement
import TemplateRun.Proofs.Document.Discovery

namespace TemplateRun

variable {σ : Type}

/-! ## Aside from the pipeline -/

/-- Nothing has happened to the pipeline, and the user may have been shown more. -/
structure Aside (s s' : Session σ) : Prop where
  world : s'.world = s.world
  past : s'.past = s.past
  console : s'.terminal.console = s.terminal.console
  shown : ∃ more, s'.terminal.shown = s.terminal.shown ++ more

theorem Aside.refl (s : Session σ) : Aside s s :=
  ⟨rfl, rfl, rfl, "", String.append_empty.symm⟩

theorem Aside.trans {s t u : Session σ} (h : Aside s t) (h' : Aside t u) : Aside s u := by
  obtain ⟨more, hmore⟩ := h.shown
  obtain ⟨more', hmore'⟩ := h'.shown
  refine ⟨h'.world.trans h.world, h'.past.trans h.past, h'.console.trans h.console,
    more ++ more', ?_⟩
  rw [hmore', hmore, String.append_assoc]

theorem Aside.tells {s s' : Session σ} (h : Aside s s') : Tells s s' := by
  obtain ⟨more, hmore⟩ := h.shown
  exact .of_past h.past h.console hmore

/-- The play succeeds aside from the pipeline. -/
def Play.GoesAside {α : Type} (m : Play σ α) (a : α) : Prop :=
  ∀ s, ∃ s', m s = some (.ok a, s') ∧ Aside s s'

namespace Command

theorem record_aside (r : Log.Record) : (record r : Play σ Unit).GoesAside () := fun s =>
  ⟨_, rfl, rfl, rfl, rfl, s.terminal.log.emit r, rfl⟩

theorem say_aside (notice : Console.Notice) :
    (Play.say notice : Play σ Unit).GoesAside () := by
  intro s
  obtain ⟨text, htext⟩ := s.terminal.console.write_eq_ok notice
  refine ⟨{ s with terminal := s.terminal.show text }, by rw [Play.say, Play.put, htext], ?_⟩
  exact ⟨rfl, rfl, rfl, text, rfl⟩

theorem bind_aside {α β : Type} {m : Play σ α} {a : α} {next : α → Play σ β} {b : β}
    (hm : m.GoesAside a) (hnext : (next a).GoesAside b) : (m >>= next).GoesAside b := by
  intro s
  obtain ⟨t, ht, haside⟩ := hm s
  obtain ⟨s', hs', haside'⟩ := hnext t
  exact ⟨s', Play.bind_eq_some_iff.mpr (.inr ⟨a, t, ht, hs'⟩), haside.trans haside'⟩

theorem pure_aside {α : Type} (a : α) : (pure a : Play σ α).GoesAside a := fun s =>
  ⟨s, rfl, .refl s⟩

theorem records_aside :
    ∀ log : List Log.Record, (log.forM record : Play σ PUnit).GoesAside PUnit.unit
  | [] => pure_aside PUnit.unit
  | r :: log => bind_aside (record_aside r) (records_aside log)

theorem explain_aside (fault : Fault) : (explain fault : Play σ Unit).GoesAside () := by
  refine bind_aside (say_aside _) ?_
  cases fault.hint with
  | none => exact pure_aside ()
  | some advice =>
      dsimp only
      split
      · exact say_aside _
      · exact pure_aside ()

/-! ## Getting ready -/

def engineOf (host : Host σ) : Except Fault (Engine σ) :=
  match host.injected with
  | some engine => .ok engine
  | none => (loadEngine host.registry).1.map Engine.ofLoaded

def preparedOf (disk : Disk) (i : Invocation) : Except Fault Prepared :=
  (i.prepare disk.providers []).outcome

theorem preparedOf_of_discover {disk : Disk} {i : Invocation} {found : Discovered}
    (h : disk.discover i.project = .ok found) :
    preparedOf disk i = .ok ⟨Environment.fresh.seed i.memory i.project i.target,
      found.documents.map Document.name⟩ := by
  obtain ⟨hne, -⟩ := Disk.discover_eq_ok h
  obtain ⟨doc, docs, hdocs⟩ := List.exists_cons_of_ne_nil hne
  simp only [preparedOf, Invocation.prepare, Disk.providers, h, hdocs, List.map_cons]

theorem preparedOf_of_discover_error {disk : Disk} {i : Invocation} {f : Fault}
    (h : disk.discover i.project = .error f) : preparedOf disk i = .error f := by
  simp only [preparedOf, Invocation.prepare, Disk.providers, h]

theorem prepare_aside (disk : Disk) (i : Invocation) (s : Session σ) :
    ∃ s', prepare disk i s = some (preparedOf disk i, s') ∧ Aside s s' := by
  obtain ⟨s', hs', haside⟩ := records_aside
    ((i.prepare disk.providers []).memory ++ (i.prepare disk.providers []).log) s
  refine ⟨s', ?_, haside⟩
  rw [prepare, Play.bind_apply]
  simp only [hs']
  rw [preparedOf]
  cases (i.prepare disk.providers []).outcome <;> rfl

theorem findEngine_aside (host : Host σ) (s : Session σ) :
    ∃ s', findEngine host s = some (engineOf host, s') ∧ Aside s s' := by
  rw [findEngine, engineOf]
  cases host.injected with
  | some engine => exact ⟨s, rfl, .refl s⟩
  | none =>
      obtain ⟨s', hs', haside⟩ := records_aside (loadEngine host.registry).2 s
      refine ⟨s', ?_, haside⟩
      dsimp only
      rw [Play.bind_apply]
      simp only [hs']
      cases (loadEngine host.registry).1 <;> rfl

/-- Resolving the documents ends in this fault, or finding an engine for them does. -/
inductive Unready (host : Host σ) (i : Invocation) : Fault → Prop
  | documents {f : Fault} (h : preparedOf host.disk i = .error f) : Unready host i f
  | engine {p : Prepared} {f : Fault} (hp : preparedOf host.disk i = .ok p)
      (h : engineOf host = .error f) : Unready host i f

theorem not_unready {host : Host σ} {i : Invocation} {p : Prepared} {e : Engine σ}
    (hp : preparedOf host.disk i = .ok p) (he : engineOf host = .ok e) (f : Fault) :
    ¬ Unready host i f := by
  intro h
  cases h with
  | documents h => rw [hp] at h; exact nomatch h
  | engine _ h => rw [he] at h; exact nomatch h

theorem Unready.unique {host : Host σ} {i : Invocation} {f g : Fault} (h : Unready host i f)
    (h' : Unready host i g) : f = g := by
  cases h with
  | documents h =>
      cases h' with
      | documents h' => exact Except.error.inj (h.symm.trans h')
      | engine hp _ => exact nomatch h.symm.trans hp
  | engine hp h =>
      cases h' with
      | documents h' => exact nomatch hp.symm.trans h'
      | engine _ h' => exact Except.error.inj (h.symm.trans h')

/-! ## Ways -/

/-- How the program comes to its end. -/
inductive Way where
  /-- Help or the version was asked for. -/
  | answered
  | rejected (f : ArgumentFault)
  | unready (f : Fault)
  | ran (way : RunWay)

/-- The exit code of a run, or the fault that comes out of it. -/
def runOutcome : RunWay → Except Fault ExitCode
  | .compileFaulted f | .executeFaulted f => .error f
  | .compileRefused => .ok .compilationError
  | .executeRefused => .ok .runtimeError
  | .executed => .ok .success

namespace Way

/-- The exit code, or the fault that comes out. -/
def outcome : Way → Except Fault ExitCode
  | answered => .ok .success
  | rejected _ => .ok .argumentError
  | unready f => .error f
  | ran way => runOutcome way

/-- What the program that lets faults out comes to. -/
def ending : Way → Except Fault Ending
  | answered => .ok (.exited (.code .success))
  | rejected _ => .ok (.returned .argumentError)
  | unready f => .error f
  | ran way => (runOutcome way).map .returned

/-- How the pipeline has run, if it has. -/
def run? : Way → Option RunWay
  | ran way => some way
  | answered | rejected _ | unready _ => none

end Way

/-- The first token asks for help or for the version. -/
def Asks (tokens : List (Option String)) : Prop :=
  ∃ token, leading tokens = some token ∧ token ∈ ["-h", "--help", "-V", "--version"]

theorem isSome_answerTo?_iff (token : String) :
    (answerTo? token).isSome ↔ token ∈ ["-h", "--help", "-V", "--version"] := by
  unfold answerTo?
  split
  all_goals simp_all

theorem asks_iff (tokens : List (Option String)) :
    Asks tokens ↔ ((leading tokens).bind answerTo?).isSome := by
  constructor
  · rintro ⟨token, htoken, hmem⟩
    rw [htoken]
    exact (isSome_answerTo?_iff token).mpr hmem
  · intro h
    obtain ⟨text, htext⟩ := Option.isSome_iff_exists.mp h
    obtain ⟨token, htoken, hanswer⟩ := Option.bind_eq_some_iff.mp htext
    exact ⟨token, htoken, (isSome_answerTo?_iff token).mp (Option.isSome_of_eq_some hanswer)⟩

theorem answerTo?_eq_none {tokens : List (Option String)} (h : ¬ Asks tokens) :
    (leading tokens).bind answerTo? = none :=
  Option.not_isSome_iff_eq_none.mp fun hsome => h ((asks_iff tokens).mpr hsome)

/-- The command line, the host and what has happened tell the way. -/
structure Way.Traces (host : Host σ) (tokens : List (Option String)) (way : Way)
    (past : List Moment) : Prop where
  asks : Asks tokens ↔ way = .answered
  rejected : ∀ f, ¬ Asks tokens ∧ Invocation.read tokens = .error f ↔ way = .rejected f
  unready : ∀ f, (¬ Asks tokens ∧ ∃ i, Invocation.read tokens = .ok i ∧ Unready host i f) ↔
    way = .unready f
  compiled : ∀ v, Happened (.compileReturned v) past ↔ way.run?.bind RunWay.compiled? = some v
  executed : ∀ v, Happened (.executeReturned v) past ↔ way.run?.bind RunWay.executed? = some v
  faulted : ∀ f, Happened (.compileFaulted f) past ∨ Happened (.executeFaulted f) past ↔
    way.run?.bind RunWay.fault? = some f
  announced : ∀ headline, Happened (.errorCalled headline) past ↔
    way.run?.bind RunWay.headline? = some headline
  closed : ∀ m ∈ past, m.happening = .closing → (ExitCode.ofState? m.state).isSome

end Command

/-- The engine that the host has never runs the pipeline.  It could not: it is handed the documents
and the environment, and the pipeline is made after it and kept by the program. -/
def Host.NeverRuns (host : Host σ) : Prop := ∀ e, Command.engineOf host = .ok e → e.NeverRuns

namespace Command

section
variable {host : Host σ} {i : Invocation}

/-- The exit code of a run that has come to this state. -/
def codeOf (state : RunState) : Play σ ExitCode :=
  match ExitCode.ofState? state with
  | some code => pure code
  | none => Play.fault (.foreign "KeyError" state.name)

theorem carryOut_of_unready {f : Fault} (h : Unready host i f) (s : Session σ) :
    ∃ s', carryOut host i s = some (.error f, s') ∧ s'.past = s.past ∧ Tells s s' := by
  obtain ⟨t, ht, haside⟩ := prepare_aside host.disk i s
  rw [carryOut, Play.bind_apply]
  simp only [ht]
  cases h with
  | documents hp =>
      rw [hp]
      exact ⟨t, rfl, haside.past, haside.tells⟩
  | @engine p _ hp he =>
      rw [hp]
      generalize hready : ({ t with world :=
        { t.world with state := .ready, environment := p.environment } } : Session σ) = ready
      obtain ⟨u, hu, haside'⟩ := findEngine_aside host ready
      dsimp only
      rw [Play.bind_apply]
      simp only [Play.modify_apply, hready]
      rw [Play.bind_apply]
      simp only [hu, he]
      subst hready
      exact ⟨u, rfl, haside'.past.trans haside.past,
        haside.tells.trans (.trans (.of_terminal rfl rfl) haside'.tells)⟩

/-- With documents and an engine, what is left is to run a pipeline that is ready. -/
theorem carryOut_of_ready {p : Prepared} {e : Engine σ} (hp : preparedOf host.disk i = .ok p)
    (he : engineOf host = .ok e) (s : Session σ) :
    ∃ u : Session σ, u.world.state = .ready ∧ u.world.environment = p.environment ∧
      u.past = s.past ∧ Tells s u ∧
      carryOut host i s = ((Pipeline.mk e.collaborators p.documents).run >>= codeOf) u := by
  obtain ⟨t, ht, haside⟩ := prepare_aside host.disk i s
  -- the world changes here, so this step is not aside; past and terminal stay
  generalize hready : ({ t with world :=
    { t.world with state := .ready, environment := p.environment } } : Session σ) = ready
  obtain ⟨u, hu, haside'⟩ := findEngine_aside host ready
  refine ⟨u, ?_, ?_, ?_, ?_, ?_⟩
  · rw [haside'.world, ← hready]
  · rw [haside'.world, ← hready]
  · rw [haside'.past, ← hready]
    exact haside.past
  · refine .trans ?_ haside'.tells
    rw [← hready]
    exact haside.tells.trans (.of_terminal rfl rfl)
  · rw [carryOut, Play.bind_apply]
    simp only [ht, hp]
    rw [Play.bind_apply]
    simp only [Play.modify_apply, hready]
    rw [Play.bind_apply]
    simp only [hu, he]
    rfl

/-- Carrying an invocation out ends before the pipeline has been run, or in what running it has
come to. -/
theorem carryOut_ends (hhost : host.NeverRuns) (i : Invocation) (s : Session σ) :
    (∃ f s', Unready host i f ∧ carryOut host i s = some (.error f, s') ∧ s'.past = s.past ∧
      Tells s s') ∨
    (∀ f, ¬ Unready host i f) ∧ ∃ (way : RunWay) (s' : Session σ) (new : List Moment),
      carryOut host i s = some (runOutcome way, s') ∧ s'.past = s.past ++ new ∧
      way.Traces new ∧ Tells s s' := by
  have hunready {f : Fault} (hf : Unready host i f) : ∃ f s', Unready host i f ∧
      carryOut host i s = some (.error f, s') ∧ s'.past = s.past ∧ Tells s s' := by
    obtain ⟨s', h⟩ := carryOut_of_unready hf s
    exact ⟨f, s', hf, h⟩
  cases hp : preparedOf host.disk i with
  | error f => exact .inl (hunready (.documents hp))
  | ok p =>
      cases he : engineOf host with
      | error f => exact .inl (hunready (.engine hp he))
      | ok e =>
          obtain ⟨u, hstate, -, hpast, htells, hcarry⟩ := carryOut_of_ready hp he s
          obtain ⟨way, s', new, hrun, hnew, htraces, htold⟩ :=
            @Engine.run_way σ e p.documents (hhost e he) u hstate
          refine .inr ⟨not_unready hp he, way, s', new, ?_, ?_, htraces, htells.trans htold⟩
          · rw [hcarry, Play.bind_apply, hrun]
            cases way <;> rfl
          · rw [hnew, hpast]

theorem Way.Traces.of_idle {tokens : List (Option String)} {way : Way} (hrun : way.run? = none)
    (hasks : Asks tokens ↔ way = .answered)
    (hrejected : ∀ f, ¬ Asks tokens ∧ Invocation.read tokens = .error f ↔ way = .rejected f)
    (hunready : ∀ f, (¬ Asks tokens ∧ ∃ i, Invocation.read tokens = .ok i ∧ Unready host i f) ↔
      way = .unready f) : way.Traces host tokens [] := by
  refine ⟨hasks, hrejected, hunready, ?_, ?_, ?_, ?_, fun _ hm => absurd hm List.not_mem_nil⟩
  all_goals simp [Happened, hrun]

theorem Way.Traces.of_answered {tokens : List (Option String)} (h : Asks tokens) :
    Way.answered.Traces host tokens [] := by
  refine .of_idle rfl ⟨fun _ => rfl, fun _ => h⟩ ?_ ?_
  · exact fun f => ⟨fun hf => absurd h hf.1, fun hf => nomatch hf⟩
  · exact fun f => ⟨fun hf => absurd h hf.1, fun hf => nomatch hf⟩

theorem Way.Traces.of_rejected {tokens : List (Option String)} {f : ArgumentFault}
    (h : ¬ Asks tokens) (hread : Invocation.read tokens = .error f) :
    (Way.rejected f).Traces host tokens [] := by
  refine .of_idle rfl ⟨fun ha => absurd ha h, fun hw => nomatch hw⟩ ?_ ?_
  · intro g
    rw [hread]
    constructor
    · rintro ⟨-, ⟨⟩⟩
      rfl
    · rintro ⟨⟩
      exact ⟨h, rfl⟩
  · intro g
    rw [hread]
    exact ⟨fun ⟨_, _, hi, _⟩ => (nomatch hi), fun hw => nomatch hw⟩

theorem Way.Traces.of_unready {tokens : List (Option String)} {f : Fault} (h : ¬ Asks tokens)
    (hread : Invocation.read tokens = .ok i) (hf : Unready host i f) :
    (Way.unready f).Traces host tokens [] := by
  refine .of_idle rfl ⟨fun ha => absurd ha h, fun hw => nomatch hw⟩ ?_ ?_
  · intro g
    rw [hread]
    exact ⟨fun hg => (nomatch hg.2), fun hw => nomatch hw⟩
  · intro g
    rw [hread]
    constructor
    · rintro ⟨-, _, ⟨⟩, hg⟩
      rw [hf.unique hg]
    · rintro ⟨⟩
      exact ⟨h, i, rfl, hf⟩

theorem Way.Traces.of_ran {tokens : List (Option String)} {way : RunWay} {past : List Moment}
    (h : ¬ Asks tokens) (hread : Invocation.read tokens = .ok i) (hready : ∀ f, ¬ Unready host i f)
    (htraces : way.Traces past) : (Way.ran way).Traces host tokens past where
  asks := ⟨fun ha => absurd ha h, fun hw => nomatch hw⟩
  rejected g := by
    rw [hread]
    exact ⟨fun hg => (nomatch hg.2), fun hw => nomatch hw⟩
  unready g := by
    rw [hread]
    constructor
    · rintro ⟨-, _, ⟨⟩, hg⟩
      exact absurd hg (hready g)
    · intro hw
      exact nomatch hw
  compiled := htraces.compiled
  executed := htraces.executed
  faulted := htraces.faulted
  announced := htraces.announced
  closed := htraces.closed

theorem run_of_asks {tokens : List (Option String)} {text : String}
    (h : (leading tokens).bind answerTo? = some text) (s : Session σ) :
    run host tokens s =
      some (.ok (.exited (.code .success)), { s with terminal := s.terminal.answer text }) := by
  rw [run, h]
  rfl

theorem run_of_rejected {tokens : List (Option String)} {f : ArgumentFault} (h : ¬ Asks tokens)
    (hread : Invocation.read tokens = .error f) :
    (run host tokens).GoesAside (.returned .argumentError) := by
  have husage : (Play.say (.verbatim usage) : Play σ Unit).GoesAside () := say_aside _
  rw [run, answerTo?_eq_none h]
  simp only [hread]
  exact bind_aside (explain_aside _) (bind_aside husage (pure_aside _))

theorem run_of_read {tokens : List (Option String)} (h : ¬ Asks tokens)
    (hread : Invocation.read tokens = .ok i) (s : Session σ) :
    ∃ t, Aside s t ∧ run host tokens s =
      (carryOut host i >>= fun code => pure (.returned code)) t := by
  obtain ⟨t, ht, haside⟩ := record_aside i.record s
  refine ⟨t, haside, ?_⟩
  rw [run, answerTo?_eq_none h]
  simp only [hread]
  rw [Play.bind_apply, ht]

/-- The program goes one of the ways, and tells its headlines. -/
theorem run_way (hhost : host.NeverRuns) (tokens : List (Option String)) (s : Session σ) :
    ∃ (way : Way) (s' : Session σ) (new : List Moment), run host tokens s = some (way.ending, s') ∧
      s'.past = s.past ++ new ∧ way.Traces host tokens new ∧ Tells s s' := by
  by_cases h : Asks tokens
  · obtain ⟨text, htext⟩ := Option.isSome_iff_exists.mp ((asks_iff tokens).mp h)
    exact ⟨.answered, _, [], run_of_asks htext s, (List.append_nil _).symm, .of_answered h,
      .of_past rfl rfl String.append_empty.symm⟩
  · cases hread : Invocation.read tokens with
    | error f =>
        obtain ⟨t, ht, haside⟩ := run_of_rejected h hread s
        refine ⟨.rejected f, t, [], ht, ?_, .of_rejected h hread, haside.tells⟩
        rw [haside.past, List.append_nil]
    | ok i =>
        obtain ⟨t, haside, hrun⟩ := @run_of_read σ host i tokens h hread s
        rw [hrun, Play.bind_apply]
        rcases carryOut_ends hhost i t with
          ⟨f, s', hf, hs', hpast, htells⟩ | ⟨hready, way, s', new, hs', hpast, htraces, htells⟩
        · refine ⟨.unready f, s', [], by rw [hs']; rfl, ?_, .of_unready h hread hf,
            haside.tells.trans htells⟩
          rw [hpast, haside.past, List.append_nil]
        · refine ⟨.ran way, s', new, ?_, ?_, .of_ran h hread hready htraces,
            haside.tells.trans htells⟩
          · rw [hs']
            cases way <;> rfl
          · rw [hpast, haside.past]

end

end Command

end TemplateRun
