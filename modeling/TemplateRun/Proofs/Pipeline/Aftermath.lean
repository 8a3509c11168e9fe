/-
# `Aftermath` — what a run leaves behind that ends in a fault

A run does not catch what its callees end in.  So a fault that comes out of a run is the fault in
which the last call has ended, and how far the run had come tells which call that was:

    ready                         the engine was compiling, and nothing has been decided
    compiled                      the engine was executing
    compileFailed, executeFailed  the callback was hearing of the failure, or a writer was at work
                                  in the closing flush
    executed                      a writer was at work in the closing flush

This is `Aftermath`, for collaborators that do not run the pipeline themselves.  Only in the first
case can the pipeline be run again.  It can be, as often as the compile call faults (`Retries`):
each attempt compiles the same documents in the environment that the one before has left
(`Attempts`), and when the call returns at last, the run goes on as if it were the first
(`run_eq_afresh`).
-/
import TemplateRun.Proofs.Pipeline.Likeness
import TemplateRun.Proofs.Pipeline.Refusal
import TemplateRun.Proofs.Pipeline.Way

namespace TemplateRun

variable {σ : Type}

/-! ## Callees -/

/-- Whom a pipeline calls. -/
inductive Callee where
  | compile
  | execute
  | callback
  | writer
deriving DecidableEq

namespace Callee

/-- The states in which a run can call. -/
def Suits : Callee → RunState → Prop
  | compile, state => state = .ready
  | execute, state => state = .compiled
  | callback, state => state.isFailure
  | writer, state => state.isTerminal

end Callee

/-- The callee that has ended in a fault if this is the last of the calls. -/
def Happening.lastCallee? : Happening → Option Callee
  | .compileFaulted _ => some .compile
  | .executeFaulted _ => some .execute
  | .errorFaulted _ => some .callback
  | .closing => some .writer
  | _ => none

/-- The callee that the last of the calls tells. -/
def lastCallee? (past : List Moment) : Option Callee :=
  (calls past).getLast?.bind fun m => m.happening.lastCallee?

theorem lastCallee?_concat {past : List Moment} {m : Moment} (hm : m.happening.isCall) :
    lastCallee? (past ++ [m]) = m.happening.lastCallee? := by
  have hcalls : calls (past ++ [m]) = calls past ++ [m] := by
    rw [calls_append, calls_cons hm]
    rfl
  rw [lastCallee?, hcalls, List.getLast?_concat]
  rfl

theorem lastCallee?_append {past more : List Moment} (hne : calls more ≠ []) :
    lastCallee? (past ++ more) = lastCallee? more := by
  obtain ⟨front, m, hm⟩ := (List.eq_nil_or_concat (calls more)).resolve_left hne
  rw [List.concat_eq_append] at hm
  rw [lastCallee?, lastCallee?, calls_append, hm, ← List.append_assoc, List.getLast?_concat,
    List.getLast?_concat]

/-- The last thing that the pipeline itself has done is to have the diagnostics written. -/
def InClosing (past : List Moment) : Prop :=
  ∃ before m after, past = before ++ m :: after ∧ m.happening = .closing ∧
    ∀ m' ∈ after, m'.happening.isOwn = false

theorem InClosing.of_quiet {s s' : Session σ} (h : InClosing s.past) (hq : Quiet s s') :
    InClosing s'.past := by
  obtain ⟨before, m, after, hpast, hm, hafter⟩ := h
  obtain ⟨-, new, hnew, hown⟩ := hq
  refine ⟨before, m, after ++ new, by rw [hnew, hpast]; simp, hm, ?_⟩
  exact List.forall_mem_append.mpr ⟨hafter, hown⟩

theorem InClosing.lastCallee? {past : List Moment} (h : InClosing past) :
    lastCallee? past = some .writer := by
  obtain ⟨before, m, after, rfl, hm, hafter⟩ := h
  have hcall : m.happening.isCall := by rw [hm]; rfl
  rw [List.append_cons, TemplateRun.lastCallee?, calls_append, calls_eq_nil hafter,
    List.append_nil, ← TemplateRun.lastCallee?, lastCallee?_concat hcall, hm]
  rfl

/-- `ComesOutOf p depth f s' callee`: a call of the callee has ended in this very fault, and nothing
has happened since.  For the writer it is a call in the closing flush. -/
inductive ComesOutOf (p : Pipeline σ) (depth : Nat) (f : Fault) (s' : Session σ) : Callee → Prop
  | compile {t u : Session σ} :
      act (p.reentry depth) (p.collaborators.compile p.documents) t = some (.error f, u) →
      s' = u.noted (.compileFaulted f) → ComesOutOf p depth f s' .compile
  | execute {t u : Session σ} {selection : List String} :
      act (p.reentry depth) (p.collaborators.execute selection) t = some (.error f, u) →
      s' = u.noted (.executeFaulted f) → ComesOutOf p depth f s' .execute
  | callback {t u : Session σ} {onError : Headline → Behaviour σ} {headline : Headline} :
      p.collaborators.onError = some onError →
      act (p.reentry depth) (onError headline) t = some (.error f, u) →
      s' = u.noted (.errorFaulted f) → ComesOutOf p depth f s' .callback
  | writer {t u : Session σ} {d : Diagnostic} {rest : List Diagnostic} :
      InClosing t.past →
      act (p.reentry depth) (p.collaborators.write d) t = some (.error f, u) →
      s' = u.noted (.dropped rest) → ComesOutOf p depth f s' .writer

/-! ## Out of which call -/

section
variable {p : Pipeline σ} {depth : Nat} {f : Fault} {s s' : Session σ} {callee callee' : Callee}

theorem act_quiet (hp : p.collaborators.NeverRun) (depth : Nat) {b : Behaviour σ}
    (hb : b.NeverRuns) : (act (p.reentry depth) b).Keeps Quiet :=
  keeps_act quiet_stepLaw.toActLaw (keeps_flush quiet_stepLaw hp.write depth) (.inl hb)

/-- The last of the calls tells the callee. -/
theorem ComesOutOf.lastCallee? (hp : p.collaborators.NeverRun)
    (h : ComesOutOf p depth f s' callee) : lastCallee? s'.past = some callee := by
  cases h with
  | compile _ hs =>
      rw [hs, Session.noted_past, lastCallee?_concat rfl]
      rfl
  | execute _ hs =>
      rw [hs, Session.noted_past, lastCallee?_concat rfl]
      rfl
  | callback _ _ hs =>
      rw [hs, Session.noted_past, lastCallee?_concat rfl]
      rfl
  | @writer t u d rest hbegun hact hs =>
      have hquiet := act_quiet hp depth (hp.write d) _ _ _ hact
      rw [hs]
      exact ((hbegun.of_quiet hquiet).of_quiet (.noted rfl)).lastCallee?

theorem ComesOutOf.unique (hp : p.collaborators.NeverRun) (h : ComesOutOf p depth f s' callee)
    (h' : ComesOutOf p depth f s' callee') : callee = callee' := by
  have hlast := h.lastCallee? hp
  rw [h'.lastCallee? hp] at hlast
  exact (Option.some.inj hlast).symm

/-- A fault that ends the play comes out of a call. -/
def Play.FaultsInCalls (p : Pipeline σ) (depth : Nat) (m : Play σ RunState) : Prop :=
  ∀ s f s', m s = some (.error f, s') → ∃ callee, ComesOutOf p depth f s' callee

variable (hp : p.collaborators.NeverRun)
include hp

/-- The induction is on what is left of the batch. -/
theorem writeAll_comesOut (batch : List Diagnostic) : ∀ {s : Session σ}, InClosing s.past →
    writeAll (fun d => act (p.reentry depth) (p.collaborators.write d) >>= fun _ => pure ()) batch
      s = some (.error f, s') → ComesOutOf p depth f s' .writer := by
  induction batch with
  | nil =>
      intro s _ h
      cases h
  | cons d rest ih =>
      intro s hclosing h
      rw [writeAll, Play.note_bind, Play.attempt_bind_eq_some_iff] at h
      obtain ⟨q, t, hq, h⟩ := h
      have hbegun : InClosing (s.noted (.writing d)).past := hclosing.of_quiet (.noted rfl)
      rcases Play.bind_eq_some_iff.mp hq with ⟨f', hf, rfl⟩ | ⟨_, t', hok, hdone⟩
      · cases h
        exact .writer hbegun hf rfl
      · cases hdone
        have hquiet := act_quiet hp depth (hp.write d) _ _ _ hok
        exact ih (s := t.noted (.written d)) ((hbegun.of_quiet hquiet).of_quiet (.noted rfl)) h

theorem close_faultsInCalls :
    (close (p.reentry (depth + 1)).flush).FaultsInCalls p depth := by
  intro s f s' h
  obtain ⟨q, hq, h⟩ := exists_of_close h
  cases q with
  | ok _ => cases h
  | error f' =>
      cases h
      have hbegun : InClosing (s.noted .closing).past :=
        ⟨s.past, _, [], rfl, rfl, fun _ h => absurd h List.not_mem_nil⟩
      have htaken := hbegun.of_quiet (quiet_stepLaw.take _ _ (s.noted .closing).emptied rfl)
      exact ⟨.writer, writeAll_comesOut hp _ (s := (s.noted .closing).emptied) htaken hq⟩

omit hp in
theorem Call.comesOut_of_play {k : Call}
    (h : k.play p (act (p.reentry depth)) s = some (.error f, s')) :
    ∃ callee, ComesOutOf p depth f s' callee := by
  cases hb : k.behaviour? p with
  | none =>
      rw [play_of_none hb] at h
      cases h
  | some b =>
      obtain ⟨u, hu, rfl⟩ := exists_of_play hb h
      cases k with
      | compile =>
          cases hb
          exact ⟨.compile, .compile hu rfl⟩
      | execute selection =>
          cases hb
          exact ⟨.execute, .execute hu rfl⟩
      | announce headline =>
          obtain ⟨onError, hheard, rfl⟩ := Option.map_eq_some_iff.mp hb
          exact ⟨.callback, .callback hheard hu rfl⟩

theorem comesOut_planLaw : PlanLaw p (act (p.reentry depth)) (act (p.reentry depth))
    (p.reentry (depth + 1)).flush (p.reentry (depth + 1)).flush fun m _ =>
      m.FaultsInCalls p depth where
  close := close_faultsInCalls hp
  call k _ _ hnext := by
    intro s f s' h
    rcases Play.bind_eq_some_iff.mp h with ⟨f', hf, h⟩ | ⟨verdict, t, _, h⟩
    · cases h
      exact Call.comesOut_of_play hf
    · exact hnext verdict t f s' h
  move _ _ _ _ hm _ f s' h := hm _ f s' h
  warn hm _ f s' h := hm _ f s' h
  look hnext s f s' h := hnext s.world.environment s f s' h

/-- A fault that ends a run comes out of one of its calls. -/
theorem run_comesOut (hs : s.world.state = .ready)
    (h : (p.reentry (depth + 1)).run s = some (.error f, s')) :
    ∃ callee, ComesOutOf p depth f s' callee := by
  change runWith p.collaborators p.documents (act (p.reentry depth)) (p.reentry (depth + 1)).flush
    s = _ at h
  rw [Plan.runWith_eq, if_pos hs] at h
  exact (comesOut_planLaw hp).play .compiling s f s' h

end

/-! ## What the engine has said -/

/-- A final state says what the engine's answers were. -/
structure Answers (past : List Moment) (state : RunState) : Prop where
  compileFailed : state = .compileFailed ↔ Happened (.compileReturned false) past
  executeFailed : state = .executeFailed ↔ Happened (.executeReturned false) past
  executed : state = .executed ↔
    Happened (.compileReturned true) past ∧ Happened (.executeReturned true) past

theorem Answers.of_calls {past : List Moment} {state : RunState} (h : Answers (calls past) state) :
    Answers past state where
  compileFailed := by rw [h.compileFailed, happened_calls_iff rfl]
  executeFailed := by rw [h.executeFailed, happened_calls_iff rfl]
  executed := by rw [h.executed, happened_calls_iff rfl, happened_calls_iff rfl]

section
variable {c : Collaborators σ} {documents : List String} {start : Environment}
  {opening announcement made : List Moment} {headline : Option Headline} {state : RunState}

theorem Opening.answers (h : Opening documents start opening headline state) :
    Answers opening state := by
  cases h with
  | compileRefused | executeRefused | executed =>
      refine ⟨?_, ?_, ?_⟩
      all_goals simp [Happened]

theorem Opening.isTerminal (h : Opening documents start opening headline state) :
    state.isTerminal := by
  cases h <;> rfl

theorem Opening.isFailure {headline : Headline}
    (h : Opening documents start opening (some headline) state) : state.isFailure := by
  cases h <;> rfl

/-- A run that ends in a fault has made its last call in a state that suits the callee. -/
theorem Course.suits {f : Fault} {callee : Callee}
    (h : Course c documents start made (.error f) state)
    (hlast : (made.getLast?.bind fun m => m.happening.lastCallee?) = some callee) :
    callee.Suits state := by
  cases h with
  | compileFaulted e f =>
      cases hlast
      rfl
  | executeFaulted e e' f =>
      cases hlast
      rfl
  | errorFaulted e e' f ho _ =>
      rw [List.append_cons, List.getLast?_concat] at hlast
      cases hlast
      exact ho.isFailure
  | closingFaulted e f ho _ =>
      rw [List.getLast?_concat] at hlast
      cases hlast
      exact ho.isTerminal

/-- Whoever hears of the failure, that is no answer of the engine. -/
theorem Answers.append (h : Answers opening state)
    (hmore : ∀ m ∈ announcement, (∀ v, m.happening ≠ .compileReturned v) ∧
      ∀ v, m.happening ≠ .executeReturned v) : Answers (opening ++ announcement) state := by
  have hnone {x : Happening} (hx : ∀ m ∈ announcement, m.happening ≠ x) :
      Happened x (opening ++ announcement) ↔ Happened x opening := by
    constructor
    · rintro ⟨m, hm, rfl⟩
      rcases List.mem_append.mp hm with hm | hm
      · exact ⟨m, hm, rfl⟩
      · exact absurd rfl (hx m hm)
    · rintro ⟨m, hm, rfl⟩
      exact ⟨m, List.mem_append_left _ hm, rfl⟩
  have hcompile v := hnone fun m hm => (hmore m hm).1 v
  have hexecute v := hnone fun m hm => (hmore m hm).2 v
  refine ⟨?_, ?_, ?_⟩
  · rw [hcompile, h.compileFailed]
  · rw [hexecute, h.executeFailed]
  · rw [hcompile, hexecute, h.executed]

theorem Announced.answers (h : Announced c headline state announcement)
    (ho : Opening documents start opening headline state) :
    Answers (opening ++ announcement) state := by
  refine ho.answers.append ?_
  cases h with
  | silent | unheard => simp
  | heard => simp

theorem Course.answers {r : Except Fault RunState} (h : Course c documents start made r state) :
    Answers made state := by
  cases h with
  | compileFaulted | executeFaulted =>
      refine ⟨?_, ?_, ?_⟩
      all_goals simp [Happened]
  | errorFaulted _ _ _ ho _ => exact ho.answers.append (by simp)
  | closingFaulted _ _ ho ha | returned _ ho ha => exact (ha.answers ho).append (by simp)

end

/-! ## What is left -/

/-- Whatever is done to the pipeline, it refuses to run, with a fault of its own kind and without
effect. -/
def Pipeline.RefusesFrom (p : Pipeline σ) (s : Session σ) : Prop :=
  ∀ depth b r t, act (p.reentry depth) b s = some (r, t) → ∀ depth', ∃ f,
    (p.reentry (depth' + 1)).run t = some (.error f, t) ∧ f.family? = some .pipelineState ∧
      f.message = "Pipeline already ran (state: " ++ s.world.state.name ++ ")."

theorem Pipeline.refusesFrom {p : Pipeline σ} {s : Session σ} (hs : s.world.state ≠ .ready) :
    p.RefusesFrom s := by
  intro depth b r t h depth'
  obtain ⟨hstate, -⟩ := (keeps_traverses p depth b s r t h).silent hs
  rw [← hstate] at hs ⊢
  exact ⟨_, runWith_refused hs, rfl, rfl⟩

/-- What a run leaves that has started in the session `s` and ended in the fault `f`. -/
structure Aftermath (p : Pipeline σ) (depth : Nat) (s : Session σ) (f : Fault) (s' : Session σ) :
    Prop where
  comes : ∃ callee, ComesOutOf p depth f s' callee
  ready : s'.world.state = .ready ↔ ComesOutOf p depth f s' .compile
  compiled : s'.world.state = .compiled ↔ ComesOutOf p depth f s' .execute
  terminal : s'.world.state.isTerminal ↔
    ComesOutOf p depth f s' .callback ∨ ComesOutOf p depth f s' .writer
  unheard : s'.world.state = .executed → ¬ ComesOutOf p depth f s' .callback
  answers : ∃ new, s'.past = s.past ++ new ∧ Answers new s'.world.state
  refuses : s'.world.state ≠ .ready → p.RefusesFrom s'

theorem aftermath_of_run {p : Pipeline σ} (hp : p.collaborators.NeverRun) {depth : Nat}
    {s s' : Session σ} {f : Fault} (hs : s.world.state = .ready)
    (h : (p.reentry (depth + 1)).run s = some (.error f, s')) : Aftermath p depth s f s' := by
  obtain ⟨callee, hcomes⟩ := run_comesOut hp hs h
  obtain ⟨new, hnew, hcourse, -⟩ := run_course hp hs h
  have hsuits : callee.Suits s'.world.state := by
    have hlast := hcomes.lastCallee? hp
    rw [hnew, lastCallee?_append (RunWay.course_ne_nil hcourse)] at hlast
    exact hcourse.suits hlast
  have hiff (callee' : Callee) : ComesOutOf p depth f s' callee' ↔ callee = callee' :=
    ⟨hcomes.unique hp, fun heq => heq ▸ hcomes⟩
  refine ⟨⟨callee, hcomes⟩, ?_, ?_, ?_, ?_, ⟨new, hnew, hcourse.answers.of_calls⟩,
    Pipeline.refusesFrom⟩
  all_goals
    simp only [hiff]
    generalize s'.world.state = state at hsuits ⊢
    cases callee <;> cases state <;>
      simp_all [Callee.Suits, RunState.isTerminal, RunState.isFailure]

/-! ## Retries -/

/-- `Retries p depth s faults s'`: the pipeline has been run as many times as there are faults, one
run after the other; each has ended in its fault and left the pipeline ready. -/
inductive Retries (p : Pipeline σ) (depth : Nat) : Session σ → List Fault → Session σ → Prop
  | nil (s : Session σ) : Retries p depth s [] s
  | cons {s t u : Session σ} {f : Fault} {faults : List Fault} :
      (p.reentry depth).run s = some (.error f, t) → t.world.state = .ready →
      Retries p depth t faults u → Retries p depth s (f :: faults) u

/-- `Attempts documents e made faults e'`: the documents are compiled again and again, first in the
environment `e`, then each time in the one that the attempt before has left. -/
inductive Attempts (documents : List String) :
    Environment → List Moment → List Fault → Environment → Prop
  | nil (e : Environment) : Attempts documents e [] [] e
  | cons {e e' e'' : Environment} {made : List Moment} {f : Fault} {faults : List Fault} :
      Attempts documents e' made faults e'' →
      Attempts documents e
        (⟨.compileCalled documents, .ready, e⟩ :: ⟨.compileFaulted f, .ready, e'⟩ :: made)
        (f :: faults) e''

section
variable {p : Pipeline σ} {depth : Nat} {s t : Session σ}

/-- One attempt: a run that faults and leaves the pipeline ready has compiled and done no more. -/
theorem calls_of_run_ready (hp : p.collaborators.NeverRun) (hs : s.world.state = .ready) {f : Fault}
    (h : (p.reentry (depth + 1)).run s = some (.error f, t)) (ht : t.world.state = .ready) :
    ∃ new, t.past = s.past ++ new ∧
      calls new = [⟨.compileCalled p.documents, .ready, s.world.environment⟩,
        ⟨.compileFaulted f, .ready, t.world.environment⟩] := by
  obtain ⟨new, hnew, hcourse, -⟩ := run_course hp hs h
  have hlast : (calls new).getLast? = some ⟨.compileFaulted f, .ready, t.world.environment⟩ := by
    cases (aftermath_of_run hp hs h).ready.mp ht with
    | compile _ hpast =>
        subst hpast
        rw [Session.noted_world] at ht
        rw [Session.noted_past, ht] at hnew
        exact RunWay.getLast?_calls hnew.symm rfl (RunWay.course_ne_nil hcourse)
  refine ⟨new, hnew, ?_⟩
  rw [ht] at hcourse
  generalize hmade : calls new = made at hcourse hlast
  cases hcourse with
  | compileFaulted e f =>
      cases hlast
      rfl
  | errorFaulted _ _ _ ho _ => cases ho
  | closingFaulted _ _ ho _ => cases ho

theorem Retries.attempts (hp : p.collaborators.NeverRun) {faults : List Fault}
    (h : Retries p (depth + 1) s faults t) (hs : s.world.state = .ready) :
    t.world.state = .ready ∧ ∃ new, t.past = s.past ++ new ∧
      Attempts p.documents s.world.environment (calls new) faults t.world.environment := by
  induction h with
  | nil s => exact ⟨hs, [], (List.append_nil _).symm, .nil _⟩
  | cons hrun ht _ ih =>
      obtain ⟨new, hnew, hmade⟩ := calls_of_run_ready hp hs hrun ht
      obtain ⟨hu, new', hnew', hattempts⟩ := ih ht
      refine ⟨hu, new ++ new', by rw [hnew', hnew, List.append_assoc], ?_⟩
      rw [calls_append, hmade]
      exact .cons hattempts

end

/-- A run that ends in a fault ends in that of a call, and the state it leaves tells whose call it
was; unless the engine was compiling, the pipeline will not run again.  If it was, the pipeline can
be run again, however often that happens: each attempt compiles the same documents in the
environment that the one before has left, and a run after that goes as it would if nothing had
happened before. -/
theorem run_aftermath {p : Pipeline σ} (hp : p.collaborators.NeverRun) (depth : Nat) {s : Session σ}
    (hs : s.world.state = .ready) :
    (∀ f s', (p.reentry (depth + 1)).run s = some (.error f, s') → Aftermath p depth s f s') ∧
    ∀ faults t, Retries p (depth + 1) s faults t →
      t.world.state = .ready ∧
      (∃ new, t.past = s.past ++ new ∧
        Attempts p.documents s.world.environment (calls new) faults t.world.environment) ∧
      (p.reentry (depth + 1)).run t = ((p.reentry (depth + 1)).run t.afresh).map
        (fun q => (q.1, q.2.behind t.past t.terminal.shown)) ∧
      ∀ r u, (p.reentry (depth + 1)).run t = some (r, u) → ∃ new, u.past = t.past ++ new ∧
        Course p.collaborators p.documents t.world.environment (calls new) r u.world.state := by
  refine ⟨fun f s' => aftermath_of_run hp hs, fun faults t hretries => ?_⟩
  obtain ⟨ht, hattempts⟩ := hretries.attempts hp hs
  refine ⟨ht, hattempts, run_eq_afresh p (depth + 1) t, fun r u h => ?_⟩
  obtain ⟨new, hnew, hcourse, -⟩ := run_course hp ht h
  exact ⟨new, hnew, hcourse⟩

/-- An engine that faults in its first two attempts at compiling, each time after it has compiled
and reported something.  Its memory is the number of attempts.  The writer then faults. -/
def stumblingPipeline : Pipeline Nat where
  collaborators :=
    { compile := fun _ =>
        .act (fun w => ⟨w.environment.metadata, w.environment.compilations ++ ["a"], w.memory + 1⟩)
          fun w =>
            if w.memory ≤ 2 then .report ⟨.note, "half"⟩ (.fail (.foreign "KeyError" "half"))
            else .done true
      execute := fun _ => .done true
      onError := none
      write := fun _ => .fail (.foreign "TypeError" "full") }
  documents := ["a.jamplate"]

theorem stumblingPipeline_neverRun : stumblingPipeline.collaborators.NeverRun where
  compile _ w := by
    dsimp only
    split
    · trivial
    · trivial
  execute _ := trivial
  onError := by
    rintro onError ⟨⟩
  write _ := trivial

/-- Two attempts fail, the third run closes, and the fault of the writer leaves it executed. -/
theorem stumblingPipeline_aftermath : ∃ t u : Session Nat,
    (∃ new, t.past = (Session.blank 0).past ++ new ∧ Attempts ["a.jamplate"] .fresh (calls new)
      [.foreign "KeyError" "half", .foreign "KeyError" "half"] t.world.environment) ∧
    t.world.environment.compilations = ["a", "a"] ∧
    (stumblingPipeline.reentry 1).run t = some (.error (.foreign "TypeError" "full"), u) ∧
    u.world.state = .executed ∧
    Aftermath stumblingPipeline 0 t (.foreign "TypeError" "full") u := by
  let after (s : Session Nat) : Session Nat :=
    (((stumblingPipeline.reentry 1).run s).map Prod.snd).getD s
  let t := after (after (.blank 0))
  have hretries : Retries stumblingPipeline 1 (.blank 0)
      [.foreign "KeyError" "half", .foreign "KeyError" "half"] t := by
    refine .cons rfl rfl ?_
    exact .cons rfl rfl (.nil _)
  have hlast : (stumblingPipeline.reentry 1).run t =
      some (.error (.foreign "TypeError" "full"), after t) := rfl
  obtain ⟨-, hretried⟩ := run_aftermath stumblingPipeline_neverRun 0 (s := .blank 0) rfl
  obtain ⟨ht, hattempts, -, -⟩ := hretried _ t hretries
  obtain ⟨hfaulted, -⟩ := run_aftermath stumblingPipeline_neverRun 0 ht
  exact ⟨t, after t, hattempts, rfl, hlast, rfl, hfaulted _ _ hlast⟩

end TemplateRun
