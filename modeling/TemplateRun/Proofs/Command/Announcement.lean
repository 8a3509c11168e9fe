/-
# `Announcement` — the pipeline of the program

In the program the callback and the writer do one thing: they write a line to the user.  Any such
line can be written, so both always succeed, and flushes with them.  What is left to go wrong in a
run is the engine (`Engine.run_ends`).

A headline that the callback is called with is written: from then on it stands in what the user has
been shown (`Engine.run_tells`).
-/
import TemplateRun.Command.Host
import TemplateRun.Proofs.Console.Notice
import TemplateRun.Proofs.Pipeline.Ending
import TemplateRun.Proofs.Pipeline.Way

namespace TemplateRun

variable {σ : Type}

namespace Engine

/-- The engine never runs the pipeline that calls it, which it is not given either. -/
structure NeverRuns (e : Engine σ) : Prop where
  compile : ∀ documents, (e.compile documents).NeverRuns
  execute : ∀ selection, (e.execute selection).NeverRuns

theorem neverRuns_announce (notice : Console.Notice) :
    (announce notice : Behaviour σ).NeverRuns := by
  rintro (f | ⟨⟩)
  · trivial
  · trivial

theorem NeverRuns.collaborators {e : Engine σ} (he : e.NeverRuns) : e.collaborators.NeverRun where
  compile := he.compile
  execute := he.execute
  onError := by
    rintro onError ⟨⟩ headline
    exact neverRuns_announce _
  write d := neverRuns_announce _

/-! ## Lines -/

theorem act_announce (r : Reentry σ) (notice : Console.Notice) (s : Session σ) :
    ∃ text, s.terminal.console.write notice = .ok text ∧
      act r (announce notice) s = some (.ok true, { s with terminal := s.terminal.show text }) := by
  obtain ⟨text, htext⟩ := s.terminal.console.write_eq_ok notice
  refine ⟨text, htext, ?_⟩
  rw [announce, act, Play.attempt_bind_eq_some_iff]
  refine ⟨.ok (), { s with terminal := s.terminal.show text }, ?_, rfl⟩
  rw [Play.say, Play.put, htext]

theorem succeeds_announce {I : RunState → Prop} (r : Reentry σ) (notice : Console.Notice) :
    (act r (announce notice)).Succeeds I := by
  refine Play.succeeds_of_apply fun s => ?_
  obtain ⟨text, -, hact⟩ := act_announce r notice s
  exact ⟨true, _, hact, rfl⟩

/-! ## Runs -/

abbrev pipeline (e : Engine σ) (documents : List String) : Pipeline σ :=
  ⟨e.collaborators, documents⟩

/-- The engine has ended in this fault, and this is the last thing to have happened. -/
def EndedIn (f : Fault) (s : Session σ) : Prop :=
  ∃ t : Session σ, s = t.noted (.compileFaulted f) ∨ s = t.noted (.executeFaulted f)

section
variable {e : Engine σ} {documents : List String} {I : RunState → Prop}

theorem flush_succeeds (depth : Nat) :
    ((e.pipeline documents).reentry (depth + 1)).flush.Succeeds I := by
  refine flushWith_succeeds fun d => ?_
  exact Play.EndsIn.bind (succeeds_announce _ _) fun _ => Play.succeeds_pure ()

/-- From a state in which the calls of the engine end, a plan ends, and in a fault only if the
engine has ended in it. -/
theorem plan_endsIn {depth : Nat} (hI : ∀ target, target ≠ .ready → I target)
    (hcompile : (act ((e.pipeline documents).reentry depth) (e.compile documents)).Ends I)
    (hexecute : ∀ selection,
      (act ((e.pipeline documents).reentry depth) (e.execute selection)).Ends I) (plan : Plan) :
    (plan.play (e.pipeline documents) (act ((e.pipeline documents).reentry depth))
      ((e.pipeline documents).reentry (depth + 1)).flush).EndsIn I EndedIn := by
  refine (ends_planLaw hI (fun k => Call.play_endsIn ?_) (flush_succeeds depth)).play plan
  cases k with
  | compile =>
      rintro b ⟨⟩
      exact hcompile.mono fun f t _ => ⟨t, .inl rfl⟩
  | execute selection =>
      rintro b ⟨⟩
      exact (hexecute selection).mono fun f t _ => ⟨t, .inr rfl⟩
  | announce headline =>
      rintro b ⟨⟩
      exact (succeeds_announce _ _).endsIn

/-- A run of the program's pipeline ends, and in a fault only if the engine has ended in it. -/
theorem run_ends (he : e.NeverRuns) {s : Session σ} (hs : s.world.state = .ready) :
    ∃ r s', (e.pipeline documents).run s = some (r, s') ∧ ∀ f, r = .error f → EndedIn f s' := by
  obtain ⟨depth, hdepth⟩ := Pipeline.exists_depthLimit
  have hends {b : Behaviour σ} (hb : b.NeverRuns) :
      (act ((e.pipeline documents).reentry (depth + 1)) b).Ends fun _ => True :=
    act_ends (flush_succeeds depth).ends (.inl hb)
  obtain ⟨r, s', hrun, -, hfaults⟩ := plan_endsIn (fun _ _ => trivial)
    (hends (he.compile documents)) (fun selection => hends (he.execute selection)) .compiling s
    trivial
  refine ⟨r, s', ?_, hfaults⟩
  rw [Pipeline.run, hdepth]
  exact ((Plan.runWith_eq _ _ _ s).trans (if_pos hs)).trans hrun

end

end Engine

/-! ## Headlines -/

/-- What the user is shown has only grown, and the line of each headline that the callback was
called with is in what is new. -/
def Tells (s s' : Session σ) : Prop :=
  s'.terminal.console = s.terminal.console ∧ ∃ new more, s'.past = s.past ++ new ∧
    s'.terminal.shown = s.terminal.shown ++ more ∧
    ∀ m ∈ new, ∀ headline, m.happening = .errorCalled headline →
      ∃ before after, more = before ++ s.terminal.console.headlineLine headline ++ after

theorem Tells.trans {s t u : Session σ} (h : Tells s t) (h' : Tells t u) : Tells s u := by
  obtain ⟨hconsole, new, more, hnew, hmore, hlines⟩ := h
  obtain ⟨hconsole', new', more', hnew', hmore', hlines'⟩ := h'
  refine ⟨hconsole'.trans hconsole, new ++ new', more ++ more', ?_, ?_, ?_⟩
  · rw [hnew', hnew, List.append_assoc]
  · rw [hmore', hmore, String.append_assoc]
  · intro m hm headline hh
    rcases List.mem_append.mp hm with hm | hm
    · obtain ⟨before, after, h⟩ := hlines m hm headline hh
      exact ⟨before, after ++ more', by rw [h, String.append_assoc]⟩
    · obtain ⟨before, after, h⟩ := hlines' m hm headline hh
      refine ⟨more ++ before, after, ?_⟩
      rw [h, hconsole, String.append_assoc, String.append_assoc, String.append_assoc]

theorem Tells.of_shown {s s' : Session σ} {new : List Moment} {more : String}
    (hconsole : s'.terminal.console = s.terminal.console) (hnew : s'.past = s.past ++ new)
    (hmore : s'.terminal.shown = s.terminal.shown ++ more)
    (hcalls : ∀ m ∈ new, ∀ headline, m.happening ≠ .errorCalled headline) : Tells s s' :=
  ⟨hconsole, new, more, hnew, hmore, fun m hm headline hh => absurd hh (hcalls m hm headline)⟩

theorem Tells.of_past {s s' : Session σ} {more : String} (hpast : s'.past = s.past)
    (hconsole : s'.terminal.console = s.terminal.console)
    (hmore : s'.terminal.shown = s.terminal.shown ++ more) : Tells s s' := by
  have hnew : s'.past = s.past ++ [] := by rw [hpast, List.append_nil]
  exact .of_shown hconsole hnew hmore fun _ hm => absurd hm List.not_mem_nil

theorem Tells.of_terminal {s s' : Session σ} (hpast : s'.past = s.past)
    (hterminal : s'.terminal = s.terminal) : Tells s s' := by
  have hshown : s'.terminal.shown = s.terminal.shown ++ "" := by
    rw [hterminal, String.append_empty]
  exact .of_past hpast (congrArg Terminal.console hterminal) hshown

theorem noted_terminal (s : Session σ) (h : Happening) :
    ∃ more, (s.noted h).terminal = s.terminal.show more := by
  rw [Session.noted]
  cases h.record? with
  | none => exact ⟨"", by rw [Terminal.show, String.append_empty]⟩
  | some r => exact ⟨_, rfl⟩

theorem Tells.noted (s : Session σ) {h : Happening} (hh : ∀ headline, h ≠ .errorCalled headline) :
    Tells s (s.noted h) := by
  obtain ⟨more, hmore⟩ := noted_terminal s h
  refine .of_shown (by rw [hmore]; rfl) (s.noted_past h) (by rw [hmore]; rfl) ?_
  intro m hm headline
  rw [List.mem_singleton.mp hm]
  exact hh headline

theorem Tells.shown (s : Session σ) (text : String) :
    Tells s { s with terminal := s.terminal.show text } :=
  .of_past rfl rfl rfl

theorem tells_stepLaw : StepLaw (@Tells σ) where
  refl _ := .of_terminal rfl rfl
  trans _ _ _ := .trans
  touch _ _ := .of_terminal rfl rfl
  reported s d :=
    .trans (t := { s with world := { s.world with environment := s.world.environment.report d } })
      (.of_terminal rfl rfl) (.noted _ nofun)
  shown := .shown
  emptied s :=
    .trans (t := { s with world.environment.pending := [] }) (.of_terminal rfl rfl) (.noted _ nofun)
  noted s h hown := by
    refine .noted s ?_
    rintro headline rfl
    cases hown

theorem tells_runLaw : RunLaw (@Tells σ) where
  toActLaw := tells_stepLaw.toActLaw
  own s _ _ hh := .noted s hh
  moved s target _ :=
    .trans (t := { s with world := { s.world with state := target } }) (.of_terminal rfl rfl)
      (.noted _ nofun)

section
variable {e : Engine σ} {documents : List String}

theorem tells_heard {r : Reentry σ} {headline : Headline} :
    ((Call.announce headline).play (e.pipeline documents) (act r)).Keeps Tells := by
  intro s q s' h
  obtain ⟨t, ht, rfl⟩ := Call.exists_of_play rfl h
  obtain ⟨text, htext, hact⟩ :=
    @Engine.act_announce σ r (.headline headline) (s.noted (.errorCalled headline))
  rw [Console.write_headline] at htext
  cases htext
  cases hact.symm.trans ht
  refine ⟨rfl, [⟨.errorCalled headline, s.world.state, s.world.environment⟩,
    ⟨.errorReturned, s.world.state, s.world.environment⟩], _, ?_, rfl, ?_⟩
  · rw [Session.noted_past, Session.noted_past, List.append_assoc]
    rfl
  · intro m hm other hother
    rcases List.mem_cons.mp hm with rfl | hm
    · cases hother
      exact ⟨"", "", by rw [String.empty_append, String.append_empty]; rfl⟩
    · rw [List.mem_singleton.mp hm] at hother
      cases hother

theorem tells_play (he : e.NeverRuns) {r : Reentry σ}
    (hperform : ∀ b : Behaviour σ, b.NeverRuns → (act r b).Keeps Tells) (k : Call) :
    (k.play (e.pipeline documents) (act r)).Keeps Tells := by
  cases k with
  | compile =>
      refine Call.keeps_play tells_runLaw _ (fun s => .noted s nofun) ?_
      rintro b ⟨⟩
      exact hperform _ (he.compile documents)
  | execute selection =>
      refine Call.keeps_play tells_runLaw _ (fun s => .noted s nofun) ?_
      rintro b ⟨⟩
      exact hperform _ (he.execute selection)
  | announce headline => exact tells_heard

/-- All headlines of a run are told. -/
theorem Engine.run_tells (he : e.NeverRuns) (depth : Nat) :
    ((e.pipeline documents).reentry depth).run.Keeps Tells := by
  have hflush := keeps_flush tells_stepLaw (p := e.pipeline documents) fun _ =>
    Engine.neverRuns_announce _
  cases depth with
  | zero => exact .endless
  | succ depth =>
      have hcall := @tells_play σ e documents he _ fun b hb =>
        keeps_act tells_stepLaw.toActLaw (hflush depth) (.inl hb)
      exact keeps_runWith tells_runLaw hcall (hflush (depth + 1))

/-- A run of the program's pipeline goes one of the ways, and tells its headlines. -/
theorem Engine.run_way (he : e.NeverRuns) {s : Session σ} (hs : s.world.state = .ready) :
    ∃ (way : RunWay) (s' : Session σ) (new : List Moment),
      (e.pipeline documents).run s = some (way.result, s') ∧
      s'.past = s.past ++ new ∧ way.Traces new ∧ Tells s s' := by
  obtain ⟨r, s', hrun, hfaults⟩ := @Engine.run_ends σ e documents he s hs
  obtain ⟨new, hnew, hcourse, -⟩ := run_course he.collaborators hs hrun
  obtain ⟨way, rfl, htraces⟩ := RunWay.exists_traces rfl hcourse fun f hf => by
    have hne := RunWay.course_ne_nil hcourse
    obtain ⟨t, rfl | rfl⟩ := hfaults f hf
    · exact ⟨_, RunWay.getLast?_calls hnew.symm rfl hne, .inl rfl⟩
    · exact ⟨_, RunWay.getLast?_calls hnew.symm rfl hne, .inr rfl⟩
  exact ⟨way, s', new, hrun, hnew, htraces.of_calls, Engine.run_tells he _ _ _ _ hrun⟩

end

end TemplateRun
