/-
# `Phase` — in which state each call is made

What a run does it does in phases, and each phase has its state:

    compile      the pipeline is ready, and another run can start inside the call
    warning      compiling has said yes, and there is nothing to execute
    execute      the state is `compiled`, and what is executed is what compiling has left
    announcing   the state is one of the failures, and the headline is the one of that failure
    closing      the state is final

An outer run goes on from a state that an inner one has left, so the state of a call is not the one
that the run has had before.  But a run changes the state once its compile call has come back and
before each phase that follows, and meanwhile no run can start: so the phases hold for nested runs
as for others (`InPhase`).  That no run can start is said by a run that refuses every other run
once it has compiled (`runRefusingLater`), which is the run that there is.
-/
import TemplateRun.Command.ExitCode
import TemplateRun.Proofs.Pipeline.Refusal

namespace TemplateRun

variable {σ : Type}

/-! ## Where another run can start -/

/-- Run the pipeline, and refuse to run it again once the compile call has come back. -/
def Pipeline.runRefusingLater (p : Pipeline σ) (depth : Nat) : Play σ RunState := do
  let c := p.collaborators
  let perform := act (p.refusing depth)
  let flush := (p.refusing (depth + 1)).flush
  if (← Play.session).world.state = .ready then
    Play.note (.compileCalled p.documents)
    let compile := act (p.reentry depth) (c.compile p.documents)
    let verdict ← calling compile .compileReturned .compileFaulted
    if verdict then proceed c perform flush
    else giveUp c perform flush .compileFailed .compilation
  else refuse

section
variable {p : Pipeline σ} {perform perform' : Behaviour σ → Play σ Bool}
  {flush flush' : Play σ Unit}

theorem staysLeft_runLaw : RunLaw (@StaysLeft σ) where
  toActLaw := staysLeft_stepLaw.toActLaw
  own _ _ _ _ := .of_eq rfl
  moved _ _ hleft _ := hleft

variable (hperform : ∀ b, (perform b).Keeps StaysLeft)
  (hperform' : ∀ b, (perform b).SameOnceLeft (perform' b))
include hperform hperform'

theorem Call.play_same (k : Call) :
    (k.play p perform).SameOnceLeft (k.play p perform') := by
  rw [Call.play, Call.play]
  cases k.behaviour? p with
  | none => exact .refl _
  | some b =>
      refine .bind (.modify fun _ => .of_eq rfl) (.refl _) fun _ => ?_
      exact .bind (.attempt (hperform b)) (hperform' b).attempt fun _ => .refl _

theorem same_planLaw (hflush : flush.Keeps StaysLeft) (hflush' : flush.SameOnceLeft flush') :
    PlanLaw p perform perform' flush flush' Play.SameOnceLeft where
  close := .bind (.modify fun _ => .of_eq rfl) (.refl _) fun _ =>
    .bind hflush hflush' fun _ => .refl _
  call k _ _ hnext :=
    .bind (k.keeps_play staysLeft_runLaw (fun _ => .of_eq rfl) fun b _ => hperform b)
      (k.play_same hperform hperform') hnext
  move _ _ _ hleft hm := .bind (staysLeft_runLaw.move hleft) (.refl _) fun _ => hm
  warn hm := .bind (.modify fun _ => .of_eq rfl) (.refl _) fun _ => hm
  look hnext := .bind (.session staysLeft_runLaw.refl) (.refl _) fun s =>
    hnext s.world.environment

omit hperform hperform' in
/-- A plan that begins with leaving the ready state is the same everywhere. -/
theorem PlanLaw.play_move (h : PlanLaw p perform perform' flush flush' Play.SameOnceLeft)
    {target : RunState} (hleft : target ≠ .ready) (next : Plan) :
    (Plan.move target hleft next).play p perform flush =
      (Plan.move target hleft next).play p perform' flush' :=
  funext fun s => h.play next (s.movedTo target) hleft

end

/-- While a run executes, announces or closes, every other run is refused. -/
theorem run_eq_runRefusingLater (p : Pipeline σ) (depth : Nat) :
    (p.reentry (depth + 1)).run = p.runRefusingLater depth := by
  obtain ⟨-, -, hperform⟩ := reentry_staysLeft p depth
  obtain ⟨hflush, -, -⟩ := reentry_staysLeft p (depth + 1)
  obtain ⟨hflush', -⟩ := reentry_same p (depth + 1)
  have hsame := same_planLaw (p := p) hperform (perform_same p depth) hflush hflush'
  have hproceed : proceed p.collaborators (act (p.reentry depth)) (p.reentry (depth + 1)).flush =
      proceed p.collaborators (act (p.refusing depth)) (p.refusing (depth + 1)).flush := by
    rw [Plan.proceed_eq, Plan.proceed_eq]
    exact hsame.play_move _ _
  have hgiveUp : giveUp p.collaborators (act (p.reentry depth)) (p.reentry (depth + 1)).flush
      .compileFailed .compilation = giveUp p.collaborators (act (p.refusing depth))
        (p.refusing (depth + 1)).flush .compileFailed .compilation := by
    have hfailed : RunState.compileFailed ≠ .ready := nofun
    rw [Plan.giveUp_eq _ _ _ _ hfailed, Plan.giveUp_eq _ _ _ _ hfailed]
    exact hsame.play_move _ _
  funext s
  change runWith p.collaborators p.documents (act (p.reentry depth)) (p.reentry (depth + 1)).flush
    s = _
  rw [runWith, Pipeline.runRefusingLater, Play.session_bind, Play.session_bind, hproceed, hgiveUp]
  by_cases hs : s.world.state = .ready
  · rw [if_pos hs, if_pos hs]
  · rw [if_neg hs, if_neg hs]
    rfl

/-! ## Phases -/

/-- Whether a call of the engine to execute comes back. -/
def Happening.endsExecute : Happening → Bool
  | .executeReturned _ | .executeFaulted _ => true
  | _ => false

/-- Whether a call of the callback comes back. -/
def Happening.endsError : Happening → Bool
  | .errorReturned | .errorFaulted _ => true
  | _ => false

/-- A call comes back, and until then the state stays and nothing is the pipeline's own. -/
def ComesBack (state : RunState) (ends : Happening → Bool) (after : List Moment) : Prop :=
  ∃ inner m rest, after = inner ++ m :: rest ∧ Silent state inner ∧ m.state = state ∧
    ends m.happening

theorem ComesBack.append {state : RunState} {ends : Happening → Bool} {after : List Moment}
    (h : ComesBack state ends after) (back : List Moment) :
    ComesBack state ends (after ++ back) := by
  obtain ⟨inner, m, rest, rfl, hm⟩ := h
  exact ⟨inner, m, rest ++ back, by rw [List.append_assoc, List.cons_append], hm⟩

/-- What the pipeline does by itself between a compile call that says yes and the call that
executes. -/
def passage (state : RunState) (e : Environment) : List Moment :=
  ⟨.moved state .compiled, .compiled, e⟩ :: warning e

/-- A failure is a state with a headline. -/
inductive Fails : RunState → Headline → Prop
  | compiling : Fails .compileFailed .compilation
  | executing : Fails .executeFailed .execution

/-- `InPhase before m after`: what is done in `m` is done in its phase.  A compile call that says
yes is followed by the passage to the execute call, and this is the only place for such a call. -/
def InPhase (before : List Moment) (m : Moment) (after : List Moment) : Prop :=
  let e := m.environment
  match m.happening with
  | .compileCalled _ => m.state = .ready
  | .compileReturned true =>
    passage m.state e ++ [⟨.executeCalled (Document.templates e.compilations), .compiled, e⟩] <+:
      after
  | .noTemplates =>
    Document.templates e.compilations = [] ∧
      (∃ state, [⟨.compileReturned true, state, e⟩, ⟨.moved state .compiled, .compiled, e⟩] <:+
        before) ∧
      [⟨.executeCalled [], .compiled, e⟩] <+: after
  | .executeCalled selection =>
    m.state = .compiled ∧ selection = e.compilations.filter (Document.hasSuffix ".jamplate") ∧
      (∃ state, ⟨.compileReturned true, state, e⟩ :: passage state e <:+ before) ∧
      ComesBack .compiled Happening.endsExecute after
  | .executeReturned _ | .executeFaulted _ => m.state = .compiled
  | .errorCalled headline => Fails m.state headline ∧ ComesBack m.state Happening.endsError after
  | .errorReturned | .errorFaulted _ => m.state.isFailure
  | .closing => m.state.isTerminal
  | _ => True

section
variable {p : Pipeline σ} {c : Collaborators σ} {state last : RunState} {e : Environment}
  {headline : Headline} {m : Moment} {before after inner past : List Moment}
  {r : Except Fault RunState}

theorem InPhase.frame (h : InPhase before m after) (front back : List Moment) :
    InPhase (front ++ before) m (after ++ back) := by
  obtain ⟨happening, state, e⟩ := m
  cases happening with
  | compileReturned verdict =>
      cases verdict with
      | true => exact h.trans (List.prefix_append after back)
      | false => trivial
  | noTemplates =>
      obtain ⟨hnone, ⟨source, hbefore⟩, hafter⟩ := h
      refine ⟨hnone, ⟨source, hbefore.trans (List.suffix_append front before)⟩, ?_⟩
      exact hafter.trans (List.prefix_append after back)
  | executeCalled selection =>
      obtain ⟨hstate, hselection, ⟨source, hbefore⟩, hafter⟩ := h
      refine ⟨hstate, hselection, ⟨source, ?_⟩, hafter.append back⟩
      exact hbefore.trans (List.suffix_append front before)
  | errorCalled headline => exact ⟨h.1, h.2.append back⟩
  | _ => exact h

theorem AtEach.behind (h : AtEach InPhase past) (front : List Moment) :
    AtEach (fun before => InPhase (front ++ before)) past := by
  refine h.mono fun before m after hm => ?_
  rw [← after.append_nil]
  exact hm.frame front []

theorem atEach_inPhase_append (h : AtEach InPhase past) (h' : AtEach InPhase after) :
    AtEach InPhase (past ++ after) := by
  refine atEach_append.mpr ⟨h.mono fun _ _ _ hm => hm.frame [] after, ?_⟩
  exact h'.behind past

theorem atEach_inPhase_cons (hm : InPhase [] m past) (h : AtEach InPhase past) :
    AtEach InPhase (m :: past) :=
  atEach_cons.mpr ⟨hm, h.behind [m]⟩

theorem inPhase_of_not_own (hown : m.happening.isOwn = false) : InPhase before m after := by
  obtain ⟨happening, state, e⟩ := m
  cases happening <;> trivial

theorem Silent.inPhase (h : Silent state past) : AtEach InPhase past := by
  rintro before m after rfl
  exact inPhase_of_not_own (h m (by simp)).2

theorem Closes.inPhase (h : Closes state e past r) (hstate : state.isTerminal) :
    AtEach InPhase past := by
  obtain ⟨flushed, rfl, hsilent, -⟩ := h
  exact atEach_inPhase_cons hstate hsilent.inPhase

theorem GivesUp.inPhase (h : GivesUp c headline state e past r) (hfails : Fails state headline) :
    AtEach InPhase past := by
  have hfailure : state.isFailure := by cases hfails <;> rfl
  have hterminal : state.isTerminal := by cases hfails <;> rfl
  cases h with
  | unheard _ hcloses => exact hcloses.inPhase hterminal
  | heard e' _ hinner hcloses =>
      refine atEach_inPhase_cons ⟨hfails, _, _, _, rfl, hinner, rfl, rfl⟩ ?_
      refine atEach_inPhase_append hinner.inPhase ?_
      exact atEach_inPhase_cons hfailure (hcloses.inPhase hterminal)
  | faulted e' f _ hinner =>
      refine atEach_inPhase_cons ⟨hfails, _, _, _, rfl, hinner, rfl, rfl⟩ ?_
      refine atEach_inPhase_append hinner.inPhase ?_
      exact atEach_inPhase_cons hfailure atEach_nil

/-- Executing begins with a call for what has been compiled, and behind the call all is in phase. -/
theorem Executes.begins (h : Executes c e past r last) : ∃ rest,
    past = ⟨.executeCalled (Document.templates e.compilations), .compiled, e⟩ :: rest ∧
      ComesBack .compiled Happening.endsExecute rest ∧ AtEach InPhase rest := by
  cases h with
  | faulted e' f hinner =>
      refine ⟨_, rfl, ⟨_, _, _, rfl, hinner, rfl, rfl⟩, ?_⟩
      exact atEach_inPhase_append hinner.inPhase (atEach_inPhase_cons rfl atEach_nil)
  | refused e' hinner hgives =>
      refine ⟨_, rfl, ⟨_, _, _, rfl, hinner, rfl, rfl⟩, ?_⟩
      refine atEach_inPhase_append hinner.inPhase (atEach_inPhase_cons rfl ?_)
      exact atEach_inPhase_cons trivial (hgives.inPhase .executing)
  | accepted e' hinner hcloses =>
      refine ⟨_, rfl, ⟨_, _, _, rfl, hinner, rfl, rfl⟩, ?_⟩
      refine atEach_inPhase_append hinner.inPhase (atEach_inPhase_cons rfl ?_)
      exact atEach_inPhase_cons trivial (hcloses.inPhase rfl)

theorem inPhase_passage :
    AtEach (fun before m after => InPhase before m
        (after ++ ⟨.executeCalled (Document.templates e.compilations), .compiled, e⟩ :: past))
      (⟨.compileReturned true, state, e⟩ :: passage state e) := by
  refine atEach_cons.mpr ⟨⟨past, by rw [List.append_assoc]; rfl⟩, ?_⟩
  rw [passage, warning]
  split
  · next hnone =>
      refine atEach_cons.mpr ⟨trivial, atEach_cons.mpr ⟨?_, atEach_nil⟩⟩
      rw [hnone]
      exact ⟨hnone, ⟨state, List.suffix_rfl⟩, past, rfl⟩
  · exact atEach_cons.mpr ⟨trivial, atEach_nil⟩

theorem Runs.inPhase (hinner : AtEach InPhase inner) (h : Runs p e inner state past r last) :
    AtEach InPhase past := by
  cases h with
  | faulted e' f =>
      refine atEach_inPhase_cons rfl (atEach_inPhase_append hinner ?_)
      exact atEach_inPhase_cons trivial atEach_nil
  | refused e' hgives =>
      refine atEach_inPhase_cons rfl (atEach_inPhase_append hinner ?_)
      refine atEach_inPhase_cons trivial (atEach_inPhase_cons trivial ?_)
      exact hgives.inPhase .compiling
  | accepted e' hexecutes =>
      obtain ⟨rest, rfl, hcomes, hrest⟩ := hexecutes.begins
      refine atEach_inPhase_cons rfl (atEach_inPhase_append hinner ?_)
      have hbehind := hrest.behind (⟨.compileReturned true, state, e'⟩ :: passage state e' ++
        [⟨.executeCalled (Document.templates e'.compilations), .compiled, e'⟩])
      simp only [List.append_assoc, List.singleton_append] at hbehind
      refine atEach_append.mpr ⟨inPhase_passage, atEach_cons.mpr ⟨?_, hbehind⟩⟩
      exact ⟨rfl, rfl, ⟨state, by simp⟩, hcomes⟩

theorem Stretch.inPhase (h : Stretch p state past last) : AtEach InPhase past := by
  -- the induction is on how runs are nested
  induction h with
  | nil => exact atEach_nil
  | cons _ hown _ ih => exact atEach_inPhase_cons (inPhase_of_not_own hown) ih
  | run _ hrun _ hinner hrest => exact atEach_inPhase_append (hrun.inPhase hinner) hrest

/-! ## Runs that return -/

variable {answer : RunState}

theorem GivesUp.returns (h : GivesUp c headline state e past (.ok answer)) : answer = state := by
  cases h with
  | unheard _ hcloses =>
      obtain ⟨_, -, -, hanswer⟩ := hcloses
      exact hanswer answer rfl
  | heard _ _ _ hcloses =>
      obtain ⟨_, -, -, hanswer⟩ := hcloses
      exact hanswer answer rfl

theorem Executes.returns (h : Executes c e past (.ok answer) last) :
    answer = last ∧ last.isTerminal := by
  cases h with
  | refused _ _ hgives => exact ⟨hgives.returns, rfl⟩
  | accepted _ _ hcloses =>
      obtain ⟨_, -, -, hanswer⟩ := hcloses
      exact ⟨hanswer answer rfl, rfl⟩

theorem Runs.returns (h : Runs p e inner state past (.ok answer) last) :
    answer = last ∧ last.isTerminal := by
  cases h with
  | refused _ hgives => exact ⟨hgives.returns, rfl⟩
  | accepted _ hexecutes => exact hexecutes.returns

/-- A run that returns was ready and returns the final state that it leaves. -/
theorem reentry_run_returns {s s' : Session σ} : ∀ {depth : Nat},
    (p.reentry depth).run s = some (.ok answer, s') →
      s.world.state = .ready ∧ s'.world.state = answer ∧ answer.isTerminal
  | 0, h => nomatch h
  | depth + 1, h => by
      by_cases hs : s.world.state = .ready
      · obtain ⟨hflush, -⟩ := keeps_reentry (traverses_reentryLaw p) (depth + 1)
        obtain ⟨_, _, _, _, -, -, -, -, hruns⟩ := runWith_runs (keeps_traverses p depth) hflush hs h
        obtain ⟨rfl, hterminal⟩ := hruns.returns
        exact ⟨hs, rfl, hterminal⟩
      · exact absurd ((runWith_refused hs).symm.trans h) (by simp)

end

/-- Whatever is done to a pipeline, each call is made in its phase, and nothing but the phase says
that there is nothing to execute.  A run can start in the ready state alone, so that a run refuses
all others once it has compiled; and a run that returns answers with the final state that it
leaves, for which there is an exit code. -/
theorem calls_in_phase (p : Pipeline σ) (depth : Nat) (b : Behaviour σ) {s s' : Session σ}
    {r : Except Fault Bool} (h : act (p.reentry depth) b s = some (r, s')) :
    (∃ new, s'.past = s.past ++ new ∧ AtEach InPhase new) ∧
    (∀ happening : Happening, happening.record? =
      some ⟨.warning, pipelineLogger, "No .jamplate units to execute."⟩ ↔
        happening = .noTemplates) ∧
    (∀ depth, (p.reentry (depth + 1)).run = p.runRefusingLater depth) ∧
    ∀ (depth : Nat) (t t' : Session σ) (q : Except Fault RunState),
      (p.reentry depth).run t = some (q, t') →
        (t.world.state ≠ .ready → q = .error (.alreadyRan t.world.state) ∧ t' = t) ∧
        ∀ state, q = .ok state → t.world.state = .ready ∧ t'.world.state = state ∧
          state.isTerminal ∧ (ExitCode.ofState? state).isSome := by
  obtain ⟨new, hnew, hstretch⟩ := keeps_traverses p depth b s r s' h
  refine ⟨⟨new, hnew, hstretch.inPhase⟩, fun happening => ?_, run_eq_runRefusingLater p, ?_⟩
  · cases happening <;> simp [Happening.record?]
  · intro depth t t' q hrun
    refine ⟨fun ht => ?_, ?_⟩
    · cases depth with
      | zero => exact nomatch hrun
      | succ depth =>
          have hrefused := (runWith_refused ht).symm.trans hrun
          cases hrefused
          exact ⟨rfl, rfl⟩
    · rintro state rfl
      obtain ⟨hready, hstate, hterminal⟩ := reentry_run_returns hrun
      refine ⟨hready, hstate, hterminal, ?_⟩
      rwa [ExitCode.isSome_ofState?]

/-- The engine says no to the run inside and yes to the one around it, and each call is in its
phase. -/
theorem nestingPipeline_in_phase : ∃ r s' t',
    act (nestingPipeline.reentry 3) (.run fun _ => .done true) (.blank false) = some (r, s') ∧
    (∃ new, s'.past = (Session.blank false).past ++ new ∧ AtEach InPhase new) ∧
    (nestingPipeline.reentry 3).run (.blank false) = some (.ok .executed, t') ∧
    t'.world.state = .executed ∧
    (nestingPipeline.reentry 3).run t' = some (.error (.alreadyRan .executed), t') := by
  have hacted : (act (nestingPipeline.reentry 3) (.run fun _ => .done true)
      (.blank false)).isSome := rfl
  obtain ⟨⟨r, s'⟩, hact⟩ := Option.isSome_iff_exists.mp hacted
  obtain ⟨hphases, -, -, hruns⟩ := calls_in_phase nestingPipeline 3 _ hact
  have hresult : ((nestingPipeline.reentry 3).run (.blank false)).map Prod.fst =
      some (.ok .executed) := rfl
  obtain ⟨⟨q, t'⟩, hrun, rfl⟩ := Option.map_eq_some_iff.mp hresult
  obtain ⟨-, hstate, -, -⟩ := (hruns 3 _ _ _ hrun).2 .executed rfl
  have hleft : t'.world.state ≠ .ready := by rw [hstate]; exact nofun
  refine ⟨r, s', t', hact, hphases, hrun, hstate, ?_⟩
  rw [← hstate]
  exact runWith_refused hleft

end TemplateRun
