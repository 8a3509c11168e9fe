/-
# `Course` — the courses that a run can take

Nothing is known of the collaborators but that none of them runs the pipeline.  Still a run that
starts when the pipeline is ready takes one of few courses, whatever they report, write, flush or
change meanwhile (`run_course`): only the pipeline's own calls are looked at (`calls`), each with
the state and the environment in which it was made, and what came of it.  A course is what is left
of a run (`Runs`) inside whose compile call nothing is the pipeline's own (`Runs.course`).

    Opening      what the engine was called for and what it said; three ways
    Announced    a failure is heard by the callback if there is one, nothing else is
    Course       an opening, its announcement, and the closing flush; or a fault out of one of
                 the calls, which ends the run at once

Of a run that returns more can be said (`run_returns`): its last call is the closing flush, and
every diagnostic that was pending when this flush began has been handed to the writer, in order,
with the writer returning each time (`Written`).
-/
import TemplateRun.Proofs.Pipeline.Reentry

namespace TemplateRun

variable {σ : Type}

/-! ## Calls -/

/-- The pipeline's calls and what comes of them. -/
def Happening.isCall : Happening → Bool
  | .moved _ _ | .noTemplates => false
  | h => h.isOwn

/-- The calls in a stretch of the past. -/
def calls (past : List Moment) : List Moment := past.filter fun m => m.happening.isCall

theorem calls_append (past more : List Moment) : calls (past ++ more) = calls past ++ calls more :=
  List.filter_append past more

theorem calls_eq_nil {past : List Moment} (h : ∀ m ∈ past, m.happening.isOwn = false) :
    calls past = [] := by
  refine List.filter_eq_nil_iff.mpr fun m hm => ?_
  have hm := h m hm
  cases hh : m.happening <;> simp_all [Happening.isCall, Happening.isOwn]

/-! ## Courses -/

/-- `Opening documents start calls headline state`: the engine is called in the environment
`start`, and after these calls the run is to end in `state`, with this headline if it has failed.
What is executed are the templates among the compilations that compiling has left. -/
inductive Opening (documents : List String) (start : Environment) :
    List Moment → Option Headline → RunState → Prop
  | compileRefused (e : Environment) :
      Opening documents start
        [⟨.compileCalled documents, .ready, start⟩, ⟨.compileReturned false, .ready, e⟩]
        (some .compilation) .compileFailed
  | executeRefused (e e' : Environment) :
      Opening documents start
        [⟨.compileCalled documents, .ready, start⟩, ⟨.compileReturned true, .ready, e⟩,
          ⟨.executeCalled (Document.templates e.compilations), .compiled, e⟩,
          ⟨.executeReturned false, .compiled, e'⟩]
        (some .execution) .executeFailed
  | executed (e e' : Environment) :
      Opening documents start
        [⟨.compileCalled documents, .ready, start⟩, ⟨.compileReturned true, .ready, e⟩,
          ⟨.executeCalled (Document.templates e.compilations), .compiled, e⟩,
          ⟨.executeReturned true, .compiled, e'⟩]
        none .executed

/-- `Announced c headline state calls`: the failure that the headline tells, if there is one, has
been announced by these calls. -/
inductive Announced (c : Collaborators σ) : Option Headline → RunState → List Moment → Prop
  | silent (state : RunState) : Announced c none state []
  | unheard (headline : Headline) (state : RunState) :
      c.onError = none → Announced c (some headline) state []
  | heard (headline : Headline) (state : RunState) (e e' : Environment) :
      c.onError.isSome → Announced c (some headline) state
        [⟨.errorCalled headline, state, e⟩, ⟨.errorReturned, state, e'⟩]

/-- `Course c documents start calls result state`: a run makes these calls, ends with this result
and leaves this state. -/
inductive Course (c : Collaborators σ) (documents : List String) (start : Environment) :
    List Moment → Except Fault RunState → RunState → Prop
  | compileFaulted (e : Environment) (f : Fault) :
      Course c documents start
        [⟨.compileCalled documents, .ready, start⟩, ⟨.compileFaulted f, .ready, e⟩]
        (.error f) .ready
  | executeFaulted (e e' : Environment) (f : Fault) :
      Course c documents start
        [⟨.compileCalled documents, .ready, start⟩, ⟨.compileReturned true, .ready, e⟩,
          ⟨.executeCalled (Document.templates e.compilations), .compiled, e⟩,
          ⟨.executeFaulted f, .compiled, e'⟩]
        (.error f) .compiled
  | errorFaulted {opening : List Moment} {headline : Headline} {state : RunState}
      (e e' : Environment) (f : Fault) :
      Opening documents start opening (some headline) state → c.onError.isSome →
      Course c documents start
        (opening ++ [⟨.errorCalled headline, state, e⟩, ⟨.errorFaulted f, state, e'⟩])
        (.error f) state
  | closingFaulted {opening announcement : List Moment} {headline : Option Headline}
      {state : RunState} (e : Environment) (f : Fault) :
      Opening documents start opening headline state → Announced c headline state announcement →
      Course c documents start (opening ++ announcement ++ [⟨.closing, state, e⟩]) (.error f) state
  | returned {opening announcement : List Moment} {headline : Option Headline} {state : RunState}
      (e : Environment) :
      Opening documents start opening headline state → Announced c headline state announcement →
      Course c documents start (opening ++ announcement ++ [⟨.closing, state, e⟩]) (.ok state) state

/-- `Written batch past`: the diagnostics are handed to the writer one after the other, and it
returns each time.  What the writer does meanwhile is nothing that the pipeline does. -/
inductive Written : List Diagnostic → List Happening → Prop
  | nil : Written [] []
  | cons {d : Diagnostic} {batch : List Diagnostic} {inner rest : List Happening} :
      (∀ h ∈ inner, h.isOwn = false) → Written batch rest →
      Written (d :: batch) (.writing d :: (inner ++ .written d :: rest))

/-- Behind the closing of a run in `state` there is only its flush, which has written all that was
pending. -/
def Closed (state : RunState) (past : List Moment) : Prop :=
  ∃ before e after, past = before ++ ⟨.closing, state, e⟩ ::
      ⟨.taken e.pending, state, { e with pending := [] }⟩ :: after ∧
    Written e.pending (after.map Moment.happening)

theorem Closed.append {state : RunState} {past : List Moment} (before : List Moment)
    (h : Closed state past) : Closed state (before ++ past) := by
  obtain ⟨front, e, after, rfl, hw⟩ := h
  exact ⟨before ++ front, e, after, by rw [List.append_assoc], hw⟩

/-! ## What collaborators leave -/

/-- The state is the same, and nothing that has happened is the pipeline's own. -/
def Quiet (s s' : Session σ) : Prop :=
  s'.world.state = s.world.state ∧
    ∃ new, s'.past = s.past ++ new ∧ ∀ m ∈ new, m.happening.isOwn = false

theorem Quiet.trans {s t u : Session σ} (h : Quiet s t) (h' : Quiet t u) : Quiet s u := by
  obtain ⟨hstate, new, hnew, hown⟩ := h
  obtain ⟨hstate', new', hnew', hown'⟩ := h'
  refine ⟨hstate'.trans hstate, new ++ new', by rw [hnew', hnew, List.append_assoc], ?_⟩
  intro m hm
  rcases List.mem_append.mp hm with hm | hm
  · exact hown m hm
  · exact hown' m hm

theorem Quiet.noted {s : Session σ} {h : Happening} (hh : h.isOwn = false) :
    Quiet s (s.noted h) := by
  refine ⟨rfl, [_], rfl, fun m hm => ?_⟩
  rw [List.mem_singleton.mp hm]
  exact hh

theorem Quiet.of_past {s s' : Session σ} (hstate : s'.world.state = s.world.state)
    (hpast : s'.past = s.past) : Quiet s s' :=
  ⟨hstate, [], by rw [hpast, List.append_nil], fun _ h => absurd h List.not_mem_nil⟩

theorem quiet_stepLaw : StepLaw (@Quiet σ) :=
  .of_noted (fun _ _ => .of_past) (fun _ _ _ => .trans) fun _ _ => .noted

/-! ## Flushing -/

section
variable {write : Diagnostic → Play σ Unit}

theorem writeAll_written (hwrite : ∀ d, (write d).Keeps Quiet) :
    ∀ {batch : List Diagnostic} {s s' : Session σ}, writeAll write batch s = some (.ok (), s') →
      ∃ new, s'.past = s.past ++ new ∧ Written batch (new.map Moment.happening)
  | [], s, s', h => by
      cases h
      exact ⟨[], (List.append_nil _).symm, .nil⟩
  | d :: rest, s, s', h => by
      rw [writeAll, Play.note_bind, Play.attempt_bind_eq_some_iff] at h
      obtain ⟨q, t, hwritten, h⟩ := h
      obtain ⟨-, inner, hinner, hown⟩ := hwrite d _ _ _ hwritten
      match q with
      | .error f => exact nomatch h
      | .ok () =>
          obtain ⟨new, hnew, hrest⟩ := writeAll_written hwrite (s := t.noted (.written d)) h
          refine ⟨⟨.writing d, s.world.state, s.world.environment⟩ ::
            (inner ++ ⟨.written d, t.world.state, t.world.environment⟩ :: new), ?_, ?_⟩
          · rw [hnew, Session.noted_past, hinner, Session.noted_past]
            simp
          · rw [List.map_cons, List.map_append, List.map_cons]
            refine .cons (fun h hh => ?_) hrest
            obtain ⟨m, hm, rfl⟩ := List.mem_map.mp hh
            exact hown m hm

theorem flushWith_written (hwrite : ∀ d, (write d).Keeps Quiet) {s s' : Session σ}
    (h : flushWith write s = some (.ok (), s')) :
    ∃ new, s'.past = s.past ++ ⟨.taken s.world.environment.pending, s.world.state,
        { s.world.environment with pending := [] }⟩ :: new ∧
      Written s.world.environment.pending (new.map Moment.happening) := by
  obtain ⟨new, hnew, hw⟩ := writeAll_written hwrite h
  exact ⟨new, by rw [hnew]; simp, hw⟩

/-- Whenever the play returns, what has happened ends in a flush that has written what was
pending. -/
def Play.ReturnsClosed (m : Play σ RunState) : Prop :=
  ∀ s state s', m s = some (.ok state, s') →
    ∃ new, s'.past = s.past ++ new ∧ Closed state new

theorem close_returnsClosed (hwrite : ∀ d, (write d).Keeps Quiet) :
    (close (flushWith write)).ReturnsClosed := by
  intro s state s' h
  obtain ⟨q, hq, h⟩ := exists_of_close h
  cases q with
  | error f => cases h
  | ok _ =>
      cases h
      obtain ⟨after, hafter, hwritten⟩ := flushWith_written hwrite hq
      obtain ⟨hstate, -⟩ := keeps_flushWith quiet_stepLaw hwrite _ _ _ hq
      rw [hstate]
      refine ⟨_, ?_, [], s.world.environment, after, rfl, hwritten⟩
      rw [hafter]
      simp

end

/-- Something more may have happened. -/
def Grows (s s' : Session σ) : Prop := ∃ new, s'.past = s.past ++ new

theorem grows_runLaw : RunLaw (@Grows σ) where
  refl _ := ⟨[], (List.append_nil _).symm⟩
  trans := by
    rintro s t u ⟨new, hnew⟩ ⟨new', hnew'⟩
    exact ⟨new ++ new', by rw [hnew', hnew, List.append_assoc]⟩
  touch _ _ := ⟨[], (List.append_nil _).symm⟩
  reported _ _ := ⟨[_], rfl⟩
  shown _ _ := ⟨[], (List.append_nil _).symm⟩
  own _ _ _ _ := ⟨[_], rfl⟩
  moved _ _ _ := ⟨[_], rfl⟩

theorem Play.ReturnsClosed.bind {α : Type} {m : Play σ α} {next : α → Play σ RunState}
    (hm : m.Keeps Grows) (hnext : ∀ a, (next a).ReturnsClosed) : (m >>= next).ReturnsClosed := by
  intro s state s' h
  rcases Play.bind_eq_some_iff.mp h with ⟨f, -, hf⟩ | ⟨a, t, ha, h⟩
  · cases hf
  · obtain ⟨before, hbefore⟩ := hm s _ t ha
    obtain ⟨new, hnew, hclosed⟩ := hnext a t state s' h
    exact ⟨before ++ new, by rw [hnew, hbefore, List.append_assoc], hclosed.append before⟩

theorem closed_planLaw {p : Pipeline σ} {perform : Behaviour σ → Play σ Bool}
    {write : Diagnostic → Play σ Unit} (hperform : ∀ b, (perform b).Keeps Grows)
    (hwrite : ∀ d, (write d).Keeps Quiet) :
    PlanLaw p perform perform (flushWith write) (flushWith write) fun m _ => m.ReturnsClosed where
  close := close_returnsClosed hwrite
  call k _ _ hnext :=
    .bind (k.keeps_play grows_runLaw (fun _ => ⟨[_], rfl⟩) fun b _ => hperform b) hnext
  move _ _ _ hleft hm := .bind (grows_runLaw.move hleft) fun _ => hm
  warn hm := .bind (.modify fun _ => ⟨[_], rfl⟩) fun _ => hm
  look hnext := .bind (.session grows_runLaw.refl) fun s => hnext s.world.environment

/-! ## The calls in what happens -/

theorem Silent.calls_eq_nil {state : RunState} {past : List Moment} (h : Silent state past) :
    calls past = [] := TemplateRun.calls_eq_nil fun m hm => (h m hm).2

theorem calls_warning (e : Environment) : calls (warning e) = [] := by
  rw [warning]
  split <;> rfl

theorem calls_cons {m : Moment} (h : m.happening.isCall) (past : List Moment) :
    calls (m :: past) = m :: calls past := List.filter_cons_of_pos h

theorem calls_cons_append {m m' : Moment} {inner : List Moment} (hinner : calls inner = [])
    (hm : m.happening.isCall) (hm' : m'.happening.isCall) (past : List Moment) :
    calls (m :: (inner ++ m' :: past)) = m :: m' :: calls past := by
  rw [calls_cons hm, calls_append, hinner, List.nil_append, calls_cons hm']

section
variable {p : Pipeline σ} {c : Collaborators σ} {documents : List String} {start e : Environment}
  {opening announcement past : List Moment} {headline : Headline} {state last : RunState}
  {r : Except Fault RunState}

theorem Closes.course {headline : Option Headline} (h : Closes state e past r)
    (ho : Opening documents start opening headline state)
    (ha : Announced c headline state announcement) :
    Course c documents start (opening ++ announcement ++ calls past) r state := by
  obtain ⟨flushed, rfl, hsilent, hr⟩ := h
  rw [calls_cons rfl, hsilent.calls_eq_nil]
  cases r with
  | error f => exact .closingFaulted e f ho ha
  | ok answer =>
      rw [hr answer rfl]
      exact .returned e ho ha

theorem GivesUp.course (h : GivesUp c headline state e past r)
    (ho : Opening documents start opening (some headline) state) :
    Course c documents start (opening ++ calls past) r state := by
  cases h with
  | unheard hnone hcloses =>
      have hcourse := hcloses.course ho (.unheard headline state hnone)
      rwa [List.append_nil] at hcourse
  | heard e' hsome hinner hcloses =>
      have hcourse := hcloses.course ho (.heard headline state e e' hsome)
      rw [List.append_assoc] at hcourse
      rwa [calls_cons_append hinner.calls_eq_nil rfl rfl]
  | faulted e' f hsome hinner =>
      rw [calls_cons_append hinner.calls_eq_nil rfl rfl]
      exact .errorFaulted e e' f ho hsome

/-- What is executed is what compiling has left. -/
theorem Executes.course (h : Executes c e past r last) :
    Course c documents start ([⟨.compileCalled documents, .ready, start⟩,
      ⟨.compileReturned true, .ready, e⟩] ++ calls past) r last := by
  cases h with
  | faulted e' f hinner =>
      rw [calls_cons_append hinner.calls_eq_nil rfl rfl]
      exact .executeFaulted e e' f
  | refused e' hinner hgives =>
      rw [calls_cons_append hinner.calls_eq_nil rfl rfl]
      exact hgives.course (.executeRefused e e')
  | accepted e' hinner hcloses =>
      have hopening : Opening documents start _ none .executed := .executed e e'
      have hcourse := hcloses.course (c := c) hopening (.silent _)
      rw [List.append_nil] at hcourse
      rwa [calls_cons_append hinner.calls_eq_nil rfl rfl]

/-- A run inside whose compile call nothing is the pipeline's own takes one of the courses. -/
theorem Runs.course {inner : List Moment} (h : Runs p start inner .ready past r last)
    (hinner : ∀ m ∈ inner, m.happening.isOwn = false) :
    Course p.collaborators p.documents start (calls past) r last := by
  have hnil := TemplateRun.calls_eq_nil hinner
  cases h with
  | faulted e f =>
      rw [calls_cons_append hnil rfl rfl]
      exact .compileFaulted e f
  | refused e hgives =>
      rw [calls_cons_append hnil rfl rfl]
      exact hgives.course (.compileRefused e)
  | accepted e hexecutes =>
      rw [calls_cons_append hnil rfl rfl]
      have hskip (rest : List Moment) : calls (⟨.moved .ready .compiled, .compiled, e⟩ ::
          (warning e ++ rest)) = calls rest := by
        rw [← List.singleton_append, calls_append, calls_append, calls_warning]
        rfl
      rw [hskip]
      exact hexecutes.course

end

/-! ## Runs of a pipeline -/

section
variable {p : Pipeline σ} {s s' : Session σ}

/-- A run that starts when the pipeline is ready takes one of the courses, however deep flushes
may be nested. -/
theorem run_course (hp : p.collaborators.NeverRun) {r : Except Fault RunState}
    (hs : s.world.state = .ready) :
    ∀ {depth : Nat}, (p.reentry depth).run s = some (r, s') → ∃ new, s'.past = s.past ++ new ∧
      Course p.collaborators p.documents s.world.environment (calls new) r s'.world.state ∧
      ∀ state, r = .ok state → Closed state new
  | 0, h => nomatch h
  | depth + 1, h => by
      have hperform := keeps_traverses p depth
      have hquiet {b : Behaviour σ} (hb : b.NeverRuns) : (act (p.reentry depth) b).Keeps Quiet :=
        keeps_act quiet_stepLaw.toActLaw (keeps_flush quiet_stepLaw hp.write depth) (.inl hb)
      obtain ⟨hflush, -⟩ := keeps_reentry (traverses_reentryLaw p) (depth + 1)
      obtain ⟨new, inner, q, t, hnew, ht, hpast, -, hruns⟩ := runWith_runs hperform hflush hs h
      -- what the engine does while it compiles is quiet, so no run is nested in this one
      obtain ⟨hstate, inner', hpast', hown⟩ := hquiet (hp.compile p.documents) _ _ _ ht
      cases List.append_cancel_left (hpast'.symm.trans hpast)
      rw [hstate, Session.noted_world, hs] at hruns
      refine ⟨new, hnew, hruns.course hown, ?_⟩
      rintro state rfl
      have hgrows (b : Behaviour σ) : (act (p.reentry depth) b).Keeps Grows :=
        (hperform b).mono fun _ _ ⟨new, hnew, _⟩ => ⟨new, hnew⟩
      have hclosed := closed_planLaw (p := p) hgrows fun d =>
        quiet_stepLaw.discarding (hquiet (hp.write d))
      have hrun := (Plan.runWith_eq p _ _ s).symm.trans h
      rw [if_pos hs] at hrun
      obtain ⟨new', hnew', hclosed⟩ := hclosed.play .compiling s state s' hrun
      cases List.append_cancel_left (hnew'.symm.trans hnew)
      exact hclosed

/-- A run that returns has called the engine, announced what has failed, and flushed, in this
order; it returns the state that it leaves, and has written what was pending at the last. -/
theorem run_returns (hp : p.collaborators.NeverRun) {state : RunState}
    (hs : s.world.state = .ready) (h : p.run s = some (.ok state, s')) :
    s'.world.state = state ∧ ∃ new opening headline announcement e,
      s'.past = s.past ++ new ∧
      Opening p.documents s.world.environment opening headline state ∧
      Announced p.collaborators headline state announcement ∧
      calls new = opening ++ announcement ++ [⟨.closing, state, e⟩] ∧
      Closed state new := by
  obtain ⟨new, hnew, hcourse, hclosed⟩ := run_course hp hs h
  generalize hcalls : calls new = made at hcourse
  cases hcourse with
  | returned e ho ha =>
      exact ⟨rfl, new, _, _, _, e, hnew, ho, ha, hcalls, hclosed _ rfl⟩

end

/-- An engine that reports in both of its calls and says no to the second, and a callback and a
writer that report again. -/
def refusingPipeline : Pipeline Unit where
  collaborators :=
    { compile := fun _ => .report ⟨.note, "compiled"⟩ (.flush fun _ => .done true)
      execute := fun _ => .report ⟨.error, "refused"⟩ (.done false)
      onError := some fun _ => .report ⟨.note, "heard"⟩ (.done true)
      write := fun d => .report ⟨.note, d.text⟩ (.done true) }
  documents := ["a.jamplate"]

theorem refusingPipeline_neverRun : refusingPipeline.collaborators.NeverRun where
  compile _ := fun _ => trivial
  execute _ := trivial
  onError := by
    rintro onError ⟨⟩ headline
    trivial
  write _ := trivial

theorem refusingPipeline_returns : ∃ s',
    refusingPipeline.run (.blank ()) = some (.ok .executeFailed, s') ∧
    s'.world.state = .executeFailed ∧ ∃ new opening headline announcement e,
      s'.past = (Session.blank ()).past ++ new ∧
      Opening refusingPipeline.documents .fresh opening headline .executeFailed ∧
      Announced refusingPipeline.collaborators headline .executeFailed announcement ∧
      calls new = opening ++ announcement ++ [⟨.closing, .executeFailed, e⟩] ∧
      Closed .executeFailed new := by
  have hresult : (refusingPipeline.run (.blank ())).map Prod.fst = some (.ok .executeFailed) := rfl
  obtain ⟨⟨r, s'⟩, hrun, rfl⟩ := Option.map_eq_some_iff.mp hresult
  exact ⟨s', hrun, run_returns refusingPipeline_neverRun rfl hrun⟩

end TemplateRun
