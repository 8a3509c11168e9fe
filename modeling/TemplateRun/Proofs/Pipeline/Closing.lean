/-
# `Closing` — whether a run has the diagnostics written

The last thing that a run does is to have the diagnostics written.  It comes to that point once,
unless a call of the engine or of the callback faults: then the run ends at once, and what has been
reported stays where it is (`Concludes`).

    flushed    the calls have come back; what was pending at the start and all that was reported
               is taken away at the end, and nothing is the pipeline's own after that
    escaped    a call has faulted; nothing has been taken away

This is said of engines and callbacks that neither have diagnostics written nor run the pipeline
themselves (`KeepsToItself`).  Nothing is asked of the writer: when it is called, every run is
refused.  That a reported diagnostic can be left behind is shown by `reportingPipeline`.
-/
import TemplateRun.Proofs.Pipeline.Course
import TemplateRun.Proofs.Pipeline.Phase

namespace TemplateRun

variable {σ : Type}

/-! ## Collaborators that keep to themselves -/

/-- Whatever comes of its steps, the behaviour has no diagnostics written and does not run the
pipeline. -/
def Behaviour.KeepsToItself : Behaviour σ → Prop
  | .done _ => True
  | .fail _ => True
  | .act _ next => ∀ w, (next w).KeepsToItself
  | .report _ next => next.KeepsToItself
  | .say _ next => ∀ r, (next r).KeepsToItself
  | .flush _ => False
  | .run _ => False

/-- The engine and the callback keep to themselves. -/
structure Collaborators.KeepToThemselves (c : Collaborators σ) : Prop where
  compile : ∀ documents, (c.compile documents).KeepsToItself
  execute : ∀ selection, (c.execute selection).KeepsToItself
  onError : ∀ onError, c.onError = some onError → ∀ headline, (onError headline).KeepsToItself

/-- It makes no difference what such a behaviour could ask for. -/
theorem act_eq_of_keepsToItself (r r' : Reentry σ) {b : Behaviour σ} (hb : b.KeepsToItself) :
    act r b = act r' b := by
  induction b with
  | done verdict => rfl
  | fail f => rfl
  | act change next ih =>
      rw [act, act]
      exact congrArg _ (funext fun _ => congrArg _ (funext fun s => ih s.world (hb s.world)))
  | report d next ih =>
      rw [act, act]
      exact congrArg _ (funext fun _ => ih hb)
  | say notice next ih =>
      rw [act, act]
      exact congrArg _ (funext fun q => ih q (hb q))
  | flush next _ => exact hb.elim
  | run next _ => exact hb.elim

/-! ## Gathering -/

/-- Whether a run goes on after this, with all that was pending. -/
def Happening.gathers : Happening → Bool
  | .compileCalled _ | .compileReturned _ | .executeCalled _ | .executeReturned _ => true
  | .errorCalled _ | .errorReturned => true
  | .reported _ | .moved _ _ | .noTemplates => true
  | _ => false

/-- The diagnostic that is reported. -/
def Happening.reported? : Happening → Option Diagnostic
  | .reported d => some d
  | _ => none

/-- What has been reported, in order. -/
def reportedIn (past : List Moment) : List Diagnostic :=
  past.filterMap fun m => m.happening.reported?

theorem reportedIn_append (past more : List Moment) :
    reportedIn (past ++ more) = reportedIn past ++ reportedIn more := List.filterMap_append

/-- `Gathers s new s'`: what happens between the two sessions is `new`, and what it reports is
pending in addition. -/
structure Gathers (s : Session σ) (new : List Moment) (s' : Session σ) : Prop where
  past : s'.past = s.past ++ new
  each : ∀ m ∈ new, m.happening.gathers
  pending : s'.world.environment.pending = s.world.environment.pending ++ reportedIn new

section
variable {s t u : Session σ} {new more : List Moment}

theorem Gathers.of_past (hpast : t.past = s.past)
    (hpending : t.world.environment.pending = s.world.environment.pending) : Gathers s [] t where
  past := by rw [hpast, List.append_nil]
  each _ hm := nomatch hm
  pending := by rw [hpending]; exact (List.append_nil _).symm

theorem Gathers.trans (h : Gathers s new t) (h' : Gathers t more u) :
    Gathers s (new ++ more) u where
  past := by rw [h'.past, h.past, List.append_assoc]
  each := List.forall_mem_append.mpr ⟨h.each, h'.each⟩
  pending := by rw [h'.pending, h.pending, reportedIn_append, List.append_assoc]

/-- Between the two sessions the run goes on and keeps the state, and something may be reported. -/
def Reports (s s' : Session σ) : Prop := s'.world.state = s.world.state ∧ ∃ new, Gathers s new s'

theorem reports_actLaw : ActLaw (@Reports σ) where
  refl s := ⟨rfl, [], .of_past rfl rfl⟩
  trans s t u h h' := by
    obtain ⟨hstate, new, hnew⟩ := h
    obtain ⟨hstate', new', hnew'⟩ := h'
    exact ⟨hstate'.trans hstate, new ++ new', hnew.trans hnew'⟩
  touch s change := ⟨rfl, [], .of_past rfl rfl⟩
  reported s d := ⟨rfl, _, rfl, List.forall_mem_singleton.mpr rfl, rfl⟩
  shown s text := ⟨rfl, [], .of_past rfl rfl⟩

theorem act_reports (r : Reentry σ) {b : Behaviour σ} (hb : b.KeepsToItself) :
    (act r b).Keeps Reports := by
  rw [act_eq_of_keepsToItself r ⟨Play.endless, Play.endless⟩ hb]
  exact keeps_act reports_actLaw .endless (.inr .endless)

theorem Gathers.noted (h : Happening) (hgathers : h.gathers) (hown : h.isOwn) :
    Gathers s [⟨h, s.world.state, s.world.environment⟩] (s.noted h) where
  past := rfl
  each := List.forall_mem_singleton.mpr hgathers
  pending := by cases h <;> first | exact (List.append_nil _).symm | exact nomatch hown

theorem Gathers.movedTo (target : RunState) :
    Gathers s [⟨.moved s.world.state target, target, s.world.environment⟩] (s.movedTo target) where
  past := rfl
  each := List.forall_mem_singleton.mpr rfl
  pending := (List.append_nil _).symm

end

/-! ## Conclusions -/

/-- The fault that comes out of a call of the engine or of the callback. -/
def Happening.faultOfCall? : Happening → Option Fault
  | .compileFaulted f | .executeFaulted f | .errorFaulted f => some f
  | _ => none

/-- `Concludes pending past r left`: a run that has found these diagnostics pending has come to its
end with this result, and those in `left` are pending then. -/
inductive Concludes (pending : List Diagnostic) :
    List Moment → Except Fault RunState → List Diagnostic → Prop
  | flushed {front back : List Moment} {r : Except Fault RunState} (state : RunState)
      (e : Environment) (left : List Diagnostic) :
      (∀ m ∈ front, m.happening.gathers) → e.pending = pending ++ reportedIn front →
      (∀ m ∈ back, m.happening.isOwn = false) →
      (∀ last, r = .ok last → last = state ∧ Written e.pending (back.map Moment.happening)) →
      Concludes pending
        (front ++ ⟨.closing, state, e⟩ :: ⟨.taken e.pending, state, { e with pending := [] }⟩ ::
          back) r left
  | escaped {front : List Moment} {m : Moment} (f : Fault) :
      (∀ m ∈ front, m.happening.gathers) → m.happening.faultOfCall? = some f →
      Concludes pending (front ++ [m]) (.error f) (pending ++ reportedIn front)

/-- Between the two sessions a run comes to its end. -/
def ComesToEnd (s s' : Session σ) (r : Except Fault RunState) : Prop :=
  ∃ new, s'.past = s.past ++ new ∧
    Concludes s.world.environment.pending new r s'.world.environment.pending

section
variable {p : Pipeline σ} {perform : Behaviour σ → Play σ Bool}
  {write : Diagnostic → Play σ Unit} {s t s' : Session σ} {r : Except Fault RunState}

theorem Gathers.comesToEnd {new : List Moment} (h : Gathers s new t) (h' : ComesToEnd t s' r) :
    ComesToEnd s s' r := by
  obtain ⟨more, hmore, hends⟩ := h'
  refine ⟨new ++ more, by rw [hmore, h.past, List.append_assoc], ?_⟩
  generalize ht : t.world.environment.pending = pending at hends
  generalize s'.world.environment.pending = left at hends
  rw [h.pending] at ht
  cases hends with
  | flushed state e left hfront hpending hback hr =>
      rw [← List.append_assoc]
      refine .flushed state e left (List.forall_mem_append.mpr ⟨h.each, hfront⟩) ?_ hback hr
      rw [hpending, ← ht, reportedIn_append, List.append_assoc]
  | @escaped front _ f hfront hm =>
      rw [← List.append_assoc, ← ht, List.append_assoc _ (reportedIn new), ← reportedIn_append]
      exact .escaped f (List.forall_mem_append.mpr ⟨h.each, hfront⟩) hm

theorem close_comesToEnd (hwrite : ∀ d, (write d).Keeps Quiet)
    (h : close (flushWith write) s = some (r, s')) : ComesToEnd s s' r := by
  have hback {q : Except Fault Unit}
      (hq : writeAll write s.world.environment.pending (s.noted .closing).emptied = some (q, s')) :
      ∃ back, s'.past = s.past ++ ⟨.closing, s.world.state, s.world.environment⟩ ::
        ⟨.taken s.world.environment.pending, s.world.state,
          { s.world.environment with pending := [] }⟩ :: back ∧
        s'.world.state = s.world.state ∧ (∀ m ∈ back, m.happening.isOwn = false) ∧
        (q = .ok () → Written s.world.environment.pending (back.map Moment.happening)) := by
    obtain ⟨hstate, back, hback, hown⟩ := keeps_writeAll quiet_stepLaw hwrite _ _ _ _ hq
    refine ⟨back, by rw [hback]; simp, hstate, hown, ?_⟩
    rintro rfl
    obtain ⟨back', hback', hwritten⟩ := writeAll_written hwrite hq
    rwa [List.append_cancel_left (hback.symm.trans hback')]
  have hnone : ∀ m ∈ ([] : List Moment), m.happening.gathers :=
    fun _ hm => absurd hm List.not_mem_nil
  obtain ⟨q, hq, rfl⟩ := exists_of_close h
  obtain ⟨back, hpast, hstate, hown, hwritten⟩ := hback hq
  refine ⟨_, hpast, .flushed _ _ _ hnone (List.append_nil _).symm hown ?_⟩
  intro last hlast
  cases q with
  | error f => cases hlast
  | ok _ =>
      cases hlast
      exact ⟨hstate, hwritten rfl⟩

/-- Whenever the play comes to an end, so does a run. -/
def Play.EndsRun (m : Play σ RunState) : Prop := ∀ s r s', m s = some (r, s') → ComesToEnd s s' r

theorem Collaborators.KeepToThemselves.of_behaviour? (hp : p.collaborators.KeepToThemselves)
    {k : Call} {b : Behaviour σ} (hb : k.behaviour? p = some b) : b.KeepsToItself := by
  cases k with
  | compile =>
      cases hb
      exact hp.compile _
  | execute selection =>
      cases hb
      exact hp.execute _
  | announce headline =>
      obtain ⟨onError, hheard, rfl⟩ := Option.map_eq_some_iff.mp hb
      exact hp.onError onError hheard headline

/-- A call that keeps to itself faults, and so does the run, or the run goes on. -/
theorem Call.play_endsRun {k : Call}
    (hperform : ∀ b, k.behaviour? p = some b → (perform b).Keeps Reports)
    {next : Bool → Play σ RunState} (hnext : ∀ verdict, (next verdict).EndsRun) :
    (k.play p perform >>= next).EndsRun := by
  intro s r s' h
  cases hb : k.behaviour? p with
  | none =>
      rw [play_of_none hb] at h
      exact hnext true s r s' h
  | some b =>
      have hcalled : Gathers s _ (s.noted (k.called p.documents)) :=
        .noted _ (by cases k <;> rfl) (k.isOwn_called _)
      rcases Play.bind_eq_some_iff.mp h with ⟨f, hf, rfl⟩ | ⟨verdict, u, hok, h⟩
      · obtain ⟨t, ht, rfl⟩ := exists_of_play hb hf
        obtain ⟨-, new, hnew⟩ := hperform b hb _ _ t ht
        have hfaulted : (k.came (.error f)).faultOfCall? = some f := by cases k <;> rfl
        refine hcalled.comesToEnd
          ⟨new ++ [⟨k.came (.error f), t.world.state, t.world.environment⟩], ?_, ?_⟩
        · rw [Session.noted_past t, hnew.past, List.append_assoc]
        · rw [Session.noted_world t, hnew.pending]
          exact .escaped f hnew.each hfaulted
      · obtain ⟨t, ht, rfl⟩ := exists_of_play hb hok
        obtain ⟨-, new, hnew⟩ := hperform b hb _ _ t ht
        have hreturned : Gathers t _ (t.noted (k.came (.ok verdict))) :=
          .noted _ (by cases k <;> rfl) (k.isOwn_came _).1
        exact ((hcalled.trans hnew).trans hreturned).comesToEnd (hnext verdict _ r s' h)

theorem endsRun_planLaw (hp : p.collaborators.KeepToThemselves)
    (hperform : ∀ b : Behaviour σ, b.KeepsToItself → (perform b).Keeps Reports)
    (hwrite : ∀ d, (write d).Keeps Quiet) :
    PlanLaw p perform perform (flushWith write) (flushWith write) fun m _ => m.EndsRun where
  close _ _ _ := close_comesToEnd hwrite
  call _ _ _ hnext := Call.play_endsRun (fun b hb => hperform b (hp.of_behaviour? hb)) hnext
  move target _ _ _ hm _ r s' h := (Gathers.movedTo target).comesToEnd (hm _ r s' h)
  warn hm _ r s' h := (Gathers.noted .noTemplates rfl rfl).comesToEnd (hm _ r s' h)
  look hnext s r s' h := hnext s.world.environment s r s' h

end

/-! ## Runs of a pipeline -/

section
variable {p : Pipeline σ}

/-- If the engine keeps to itself while it compiles, a run refuses all others from its start. -/
theorem run_eq_runWith (hcompile : (p.collaborators.compile p.documents).KeepsToItself)
    (depth : Nat) : (p.reentry (depth + 1)).run =
      runWith p.collaborators p.documents (act (p.refusing depth))
        (p.refusing (depth + 1)).flush := by
  funext s
  rw [run_eq_runRefusingLater, Pipeline.runRefusingLater, runWith, Play.session_bind,
    Play.session_bind, act_eq_of_keepsToItself (p.reentry depth) (p.refusing depth) hcompile]
  by_cases hs : s.world.state = .ready
  · rw [if_pos hs, if_pos hs]
  · rw [if_neg hs, if_neg hs]
    rfl

/-- How often a run has had the diagnostics written. -/
def closings (past : List Moment) : Nat := past.countP fun m => m.happening = .closing

theorem closings_eq_zero {past : List Moment} (h : ∀ m ∈ past, m.happening ≠ .closing) :
    closings past = 0 := by
  rw [closings, List.countP_eq_zero]
  intro m hm
  simpa using h m hm

theorem Happening.ne_closing_of_gathers {h : Happening} (hg : h.gathers) :
    h ≠ .closing ∧ h.faultOfCall? = none := by
  cases h <;> simp_all [Happening.gathers, Happening.faultOfCall?]

theorem Happening.ne_closing_of_not_own {h : Happening} (hown : h.isOwn = false) :
    h ≠ .closing ∧ h.faultOfCall? = none := by
  cases h <;> simp_all [Happening.isOwn, Happening.faultOfCall?]

/-- The diagnostics are written once, or a call has faulted and they are not written at all. -/
theorem Concludes.closes_or_escapes {pending left : List Diagnostic} {past : List Moment}
    {r : Except Fault RunState} (h : Concludes pending past r left) :
    (closings past = 1 ∧ ∀ m ∈ past, m.happening.faultOfCall? = none) ∨
      closings past = 0 ∧ ∃ m ∈ past, ∃ f, m.happening.faultOfCall? = some f := by
  cases h with
  | @flushed front back _ state e left hfront _ hback _ =>
      have hfront (m : Moment) (hm : m ∈ front) := Happening.ne_closing_of_gathers (hfront m hm)
      have hback (m : Moment) (hm : m ∈ back) := Happening.ne_closing_of_not_own (hback m hm)
      refine .inl ⟨?_, List.forall_mem_append.mpr ⟨fun m hm => (hfront m hm).2, ?_⟩⟩
      · have hnone := closings_eq_zero fun m hm => (hfront m hm).1
        have hnone' := closings_eq_zero fun m hm => (hback m hm).1
        unfold closings at *
        rw [List.countP_append, List.countP_cons, List.countP_cons, hnone, hnone']
        rfl
      · refine List.forall_mem_cons.mpr ⟨rfl, List.forall_mem_cons.mpr ⟨rfl, fun m hm => ?_⟩⟩
        exact (hback m hm).2
  | @escaped front m f hfront hm =>
      refine .inr ⟨closings_eq_zero (List.forall_mem_append.mpr ⟨fun m hm => ?_, ?_⟩),
        m, by simp, f, hm⟩
      · exact (Happening.ne_closing_of_gathers (hfront m hm)).1
      · refine List.forall_mem_singleton.mpr fun hclosing => ?_
        rw [hclosing] at hm
        exact nomatch hm

end

/-- A run of a pipeline that is ready has the diagnostics written exactly once if no call of the
engine or of the callback faults: it takes away all that is pending or has been reported, and if
it returns, the writer has been given that, one by one.  If a call faults, the run ends there, and
all of that is pending still. -/
theorem run_concludes {p : Pipeline σ} (hp : p.collaborators.KeepToThemselves) {depth : Nat}
    {s s' : Session σ} {r : Except Fault RunState} (hs : s.world.state = .ready)
    (h : (p.reentry depth).run s = some (r, s')) :
    ∃ new, s'.past = s.past ++ new ∧
      Concludes s.world.environment.pending new r s'.world.environment.pending ∧
      (closings new = 1 ↔ ∀ m ∈ new, m.happening.faultOfCall? = none) ∧
      (closings new ≠ 1 → closings new = 0) := by
  cases depth with
  | zero => exact nomatch h
  | succ depth =>
      rw [run_eq_runWith (hp.compile p.documents)] at h
      obtain ⟨-, -, hperform⟩ := keeps_refusing quiet_stepLaw p depth
      have hwrite (d : Diagnostic) : Play.Keeps Quiet
          (act (p.refusing depth) (p.collaborators.write d) >>= fun _ => pure ()) :=
        quiet_stepLaw.discarding (hperform _)
      rw [Plan.runWith_eq, if_pos hs] at h
      have hlaw := endsRun_planLaw hp (fun _ => act_reports (p.refusing depth)) hwrite
      obtain ⟨new, hnew, hconcludes⟩ := hlaw.play .compiling s r s' h
      refine ⟨new, hnew, hconcludes, ?_⟩
      rcases hconcludes.closes_or_escapes with ⟨hone, hnone⟩ | ⟨hzero, m, hm, f, hf⟩
      · exact ⟨⟨fun _ => hnone, fun _ => hone⟩, fun hne => absurd hone hne⟩
      · refine ⟨⟨fun hone => ?_, fun hnone => ?_⟩, fun _ => hzero⟩
        · rw [hzero] at hone
          exact nomatch hone
        · rw [hnone m hm] at hf
          exact nomatch hf

/-- An engine that reports something and says no to compiling, and a callback that does what is
given.  The writer reports in turn, and asks for a flush and for a run. -/
def reportingPipeline (heard : Behaviour Unit) : Pipeline Unit where
  collaborators :=
    { compile := fun _ => .report ⟨.error, "lost"⟩ (.done false)
      execute := fun _ => .done true
      onError := some fun _ => heard
      write := fun d =>
        if d.text = "lost" then .report ⟨.note, "again"⟩ (.flush fun _ => .run fun _ => .done true)
        else .done true }
  documents := ["a.jamplate"]

theorem reportingPipeline_keepToThemselves {heard : Behaviour Unit} (h : heard.KeepsToItself) :
    (reportingPipeline heard).collaborators.KeepToThemselves where
  compile _ := trivial
  execute _ := trivial
  onError := by
    rintro onError ⟨⟩ headline
    exact h

theorem reportingPipeline_concludes : ∃ s',
    ((reportingPipeline (.done true)).reentry 4).run (.blank ()) = some (.ok .compileFailed, s') ∧
    ∃ new, s'.past = (Session.blank ()).past ++ new ∧
      Concludes [] new (.ok .compileFailed) s'.world.environment.pending ∧
      (closings new = 1 ↔ ∀ m ∈ new, m.happening.faultOfCall? = none) ∧
      (closings new ≠ 1 → closings new = 0) := by
  have hresult : (((reportingPipeline (.done true)).reentry 4).run (.blank ())).map Prod.fst =
      some (.ok .compileFailed) := rfl
  obtain ⟨⟨r, s'⟩, hrun, rfl⟩ := Option.map_eq_some_iff.mp hresult
  have hheard : (Behaviour.done true : Behaviour Unit).KeepsToItself := trivial
  exact ⟨s', hrun, run_concludes (reportingPipeline_keepToThemselves hheard) rfl hrun⟩

/-- If the callback faults, what the engine has reported is never written, and the pipeline cannot
be run again. -/
theorem reportingPipeline_never_flushes : ∃ (heard : Behaviour Unit) (f : Fault)
    (s' : Session Unit), (reportingPipeline heard).collaborators.KeepToThemselves ∧
    (Session.blank ()).world.state = .ready ∧
    (reportingPipeline heard).run (.blank ()) = some (.error f, s') ∧
    s'.world.state = .compileFailed ∧ closings s'.past = 0 ∧
    s'.world.environment.pending = [⟨.error, "lost"⟩] := by
  have hresult : ((reportingPipeline (.fail (.foreign "Exception" "boom"))).run (.blank ())).map
      (fun q => (q.1, q.2.world.state, closings q.2.past, q.2.world.environment.pending)) =
        some (.error (.foreign "Exception" "boom"), .compileFailed, 0, [⟨.error, "lost"⟩]) := rfl
  obtain ⟨⟨r, s'⟩, hrun, hq⟩ := Option.map_eq_some_iff.mp hresult
  simp only [Prod.mk.injEq] at hq
  obtain ⟨rfl, hstate, hclosings, hpending⟩ := hq
  have hheard : (Behaviour.fail (.foreign "Exception" "boom") : Behaviour Unit).KeepsToItself :=
    trivial
  have hkeep := reportingPipeline_keepToThemselves hheard
  exact ⟨_, _, s', hkeep, rfl, hrun, hstate, hclosings, hpending⟩

end TemplateRun
