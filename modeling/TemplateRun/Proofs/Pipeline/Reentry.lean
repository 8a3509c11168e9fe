/-
# `Reentry` — what happens when collaborators run the pipeline again

Collaborators may run the pipeline while it calls them, so one run can happen inside another.  What
has happened is then described as it is nested (`Stretch`), with one notion for each part of a run:

    Silent       collaborators and flushes are at work, and the state stays
    Closes       the closing flush
    GivesUp      the failure is announced, then the run closes
    Executes     the engine is called for the templates, and what follows from its answer
    Runs         a whole run, given what happens inside its compile call
    Stretch      one such run after the other, with silence between them

Only a `Stretch` that starts when the pipeline is ready can hold a run, so runs are nested in
compile calls and nowhere else: once the pipeline has left that state, a stretch is silent
(`Stretch.silent`).

Whatever collaborators do, what happens is a stretch (`keeps_traverses`).  The induction over how
deep they go is made once, for any relation (`keeps_reentry`).
-/
import TemplateRun.Proofs.Pipeline.Plan

namespace TemplateRun

variable {σ : Type}

/-! ## Relations that are kept at every depth -/

section
variable {R : Session σ → Session σ → Prop} {p : Pipeline σ}

/-- A flush keeps the relation if its writes do, and a run if its calls and its flush do. -/
structure ReentryLaw (R : Session σ → Session σ → Prop) (p : Pipeline σ) : Prop
    extends ActLaw R where
  flush : ∀ {write : Diagnostic → Play σ Unit}, (∀ d, (write d).Keeps R) →
    (flushWith write).Keeps R
  run : ∀ {perform : Behaviour σ → Play σ Bool} {flush : Play σ Unit},
    (∀ b, (perform b).Keeps R) → flush.Keeps R →
    (runWith p.collaborators p.documents perform flush).Keeps R

theorem keeps_reentry (hR : ReentryLaw R p) :
    ∀ depth, (p.reentry depth).flush.Keeps R ∧ (p.reentry depth).run.Keeps R
  | 0 => ⟨.endless, .endless⟩
  | depth + 1 => by
      obtain ⟨hflush, hrun⟩ := keeps_reentry hR depth
      have hperform (b : Behaviour σ) : (act (p.reentry depth) b).Keeps R :=
        keeps_act hR.toActLaw hflush (.inr hrun)
      have hflush' : (p.reentry (depth + 1)).flush.Keeps R :=
        hR.flush fun d => hR.discarding (hperform _)
      exact ⟨hflush', hR.run hperform hflush'⟩

theorem keeps_perform (hR : ReentryLaw R p) (depth : Nat) (b : Behaviour σ) :
    (act (p.reentry depth) b).Keeps R := by
  obtain ⟨hflush, hrun⟩ := keeps_reentry hR depth
  exact keeps_act hR.toActLaw hflush (.inr hrun)

end

/-! ## Each moment of a past -/

/-- `Q before m after` holds of each moment `m`, with what was before it and what came after. -/
def AtEach (Q : List Moment → Moment → List Moment → Prop) (past : List Moment) : Prop :=
  ∀ before m after, past = before ++ m :: after → Q before m after

section
variable {Q Q' : List Moment → Moment → List Moment → Prop} {past more : List Moment} {m : Moment}

theorem AtEach.mono (h : AtEach Q past)
    (hQ : ∀ before m after, Q before m after → Q' before m after) : AtEach Q' past :=
  fun before m after hpast => hQ before m after (h before m after hpast)

theorem atEach_nil : AtEach Q [] := by
  intro before m after h
  exact absurd h.symm (by simp)

theorem atEach_cons :
    AtEach Q (m :: past) ↔ Q [] m past ∧ AtEach (fun before => Q (m :: before)) past := by
  constructor
  · intro h
    refine ⟨h [] m past rfl, fun before m' after hpast => ?_⟩
    exact h (m :: before) m' after (by rw [hpast, List.cons_append])
  · rintro ⟨hm, h⟩ before m' after hpast
    cases before with
    | nil =>
        cases hpast
        exact hm
    | cons first before =>
        cases hpast
        exact h before m' after rfl

instance decidableAtEach : (Q : List Moment → Moment → List Moment → Prop) →
    [∀ before m after, Decidable (Q before m after)] → (past : List Moment) →
    Decidable (AtEach Q past)
  | _, _, [] => .isTrue atEach_nil
  | Q, _, m :: past =>
      have := decidableAtEach (fun before => Q (m :: before)) past
      decidable_of_iff _ atEach_cons.symm

theorem atEach_append :
    AtEach Q (past ++ more) ↔
      AtEach (fun before m after => Q before m (after ++ more)) past ∧
        AtEach (fun before => Q (past ++ before)) more := by
  induction past generalizing Q with
  | nil => exact ⟨fun h => ⟨atEach_nil, h⟩, And.right⟩
  | cons m past ih =>
      rw [List.cons_append, atEach_cons, ih, atEach_cons, and_assoc]
      rfl

/-- The four places in a call: its beginning, what happens inside, its end, and what follows. -/
theorem atEach_call {m' : Moment} (hbegin : Q [] m (past ++ m' :: more))
    (hinner : AtEach (fun before m₁ after => Q (m :: before) m₁ (after ++ m' :: more)) past)
    (hend : Q (m :: past) m' more)
    (hmore : AtEach (fun before => Q (m :: (past ++ m' :: before))) more) :
    AtEach Q (m :: (past ++ m' :: more)) := by
  refine atEach_cons.mpr ⟨hbegin, atEach_append.mpr ⟨hinner, atEach_cons.mpr ⟨?_, hmore⟩⟩⟩
  rwa [List.append_nil]

end

/-! ## Parts of a run -/

/-- Nothing that happens is the pipeline's own, and the state stays. -/
def Silent (state : RunState) (past : List Moment) : Prop :=
  ∀ m ∈ past, m.state = state ∧ m.happening.isOwn = false

/-- `Closes state e past r`: the pipeline has what is pending in `e` written, and if it returns,
then the state. -/
def Closes (state : RunState) (e : Environment) (past : List Moment) (r : Except Fault RunState) :
    Prop :=
  ∃ flushed, past = ⟨.closing, state, e⟩ :: flushed ∧ Silent state flushed ∧
    ∀ last, r = .ok last → last = state

/-- `GivesUp c headline state e past r`: in `state`, the callback hears the headline if there is
one, and if it returns the run closes. -/
inductive GivesUp (c : Collaborators σ) (headline : Headline) (state : RunState)
    (e : Environment) : List Moment → Except Fault RunState → Prop
  | unheard {past : List Moment} {r : Except Fault RunState} :
      c.onError = none → Closes state e past r → GivesUp c headline state e past r
  | heard {inner past : List Moment} {r : Except Fault RunState} (e' : Environment) :
      c.onError.isSome → Silent state inner → Closes state e' past r →
      GivesUp c headline state e
        (⟨.errorCalled headline, state, e⟩ :: (inner ++ ⟨.errorReturned, state, e'⟩ :: past)) r
  | faulted {inner : List Moment} (e' : Environment) (f : Fault) :
      c.onError.isSome → Silent state inner →
      GivesUp c headline state e
        (⟨.errorCalled headline, state, e⟩ :: (inner ++ [⟨.errorFaulted f, state, e'⟩])) (.error f)

/-- `Executes c e past r last`: the engine is called for the templates that are compiled in `e`. -/
inductive Executes (c : Collaborators σ) (e : Environment) :
    List Moment → Except Fault RunState → RunState → Prop
  | faulted {inner : List Moment} (e' : Environment) (f : Fault) :
      Silent .compiled inner →
      Executes c e
        (⟨.executeCalled (Document.templates e.compilations), .compiled, e⟩ ::
          (inner ++ [⟨.executeFaulted f, .compiled, e'⟩]))
        (.error f) .compiled
  | refused {inner past : List Moment} {r : Except Fault RunState} (e' : Environment) :
      Silent .compiled inner → GivesUp c .execution .executeFailed e' past r →
      Executes c e
        (⟨.executeCalled (Document.templates e.compilations), .compiled, e⟩ ::
          (inner ++ ⟨.executeReturned false, .compiled, e'⟩ ::
            ⟨.moved .compiled .executeFailed, .executeFailed, e'⟩ :: past))
        r .executeFailed
  | accepted {inner past : List Moment} {r : Except Fault RunState} (e' : Environment) :
      Silent .compiled inner → Closes .executed e' past r →
      Executes c e
        (⟨.executeCalled (Document.templates e.compilations), .compiled, e⟩ ::
          (inner ++ ⟨.executeReturned true, .compiled, e'⟩ ::
            ⟨.moved .compiled .executed, .executed, e'⟩ :: past))
        r .executed

/-- What is said before nothing is executed. -/
def warning (e : Environment) : List Moment :=
  if Document.templates e.compilations = [] then [⟨.noTemplates, .compiled, e⟩] else []

theorem forall_mem_warning {Q : Moment → Prop} {e : Environment}
    (h : Q ⟨.noTemplates, .compiled, e⟩) : ∀ m ∈ warning e, Q m := by
  intro m hm
  rw [warning] at hm
  split at hm
  · rwa [List.mem_singleton.mp hm]
  · exact absurd hm List.not_mem_nil

/-- `Runs p start inner state past r last`: a run that starts in the environment `start`, and in
whose compile call `inner` happens and leaves `state`.  The answer to the call is acted on in
whatever state that is. -/
inductive Runs (p : Pipeline σ) (start : Environment) (inner : List Moment) (state : RunState) :
    List Moment → Except Fault RunState → RunState → Prop
  | faulted (e : Environment) (f : Fault) :
      Runs p start inner state
        (⟨.compileCalled p.documents, .ready, start⟩ ::
          (inner ++ [⟨.compileFaulted f, state, e⟩]))
        (.error f) state
  | refused {past : List Moment} {r : Except Fault RunState} (e : Environment) :
      GivesUp p.collaborators .compilation .compileFailed e past r →
      Runs p start inner state
        (⟨.compileCalled p.documents, .ready, start⟩ ::
          (inner ++ ⟨.compileReturned false, state, e⟩ ::
            ⟨.moved state .compileFailed, .compileFailed, e⟩ :: past))
        r .compileFailed
  | accepted {past : List Moment} {r : Except Fault RunState} {last : RunState} (e : Environment) :
      Executes p.collaborators e past r last →
      Runs p start inner state
        (⟨.compileCalled p.documents, .ready, start⟩ ::
          (inner ++ ⟨.compileReturned true, state, e⟩ ::
            ⟨.moved state .compiled, .compiled, e⟩ :: (warning e ++ past)))
        r last

/-- `Stretch p state past last`: what can happen from `state` on, until `last`. -/
inductive Stretch (p : Pipeline σ) : RunState → List Moment → RunState → Prop
  | nil (state : RunState) : Stretch p state [] state
  | cons {state last : RunState} {m : Moment} {rest : List Moment} :
      m.state = state → m.happening.isOwn = false → Stretch p state rest last →
      Stretch p state (m :: rest) last
  | run {e : Environment} {inner past rest : List Moment} {r : Except Fault RunState}
      {state next last : RunState} :
      Stretch p .ready inner state → Runs p e inner state past r next → Stretch p next rest last →
      Stretch p .ready (past ++ rest) last

section
variable {p : Pipeline σ}

theorem Stretch.append {state next last : RunState} {past more : List Moment}
    (h : Stretch p state past next) (h' : Stretch p next more last) :
    Stretch p state (past ++ more) last := by
  induction h with
  | nil state => exact h'
  | cons hstate hown _ ih => exact .cons hstate hown (ih h')
  | run hinner hrun _ _ ih =>
      rw [List.append_assoc]
      exact .run hinner hrun (ih h')

/-- No run can start in another state. -/
theorem Stretch.silent {state last : RunState} {past : List Moment} (h : Stretch p state past last)
    (hstate : state ≠ .ready) : last = state ∧ Silent state past := by
  induction h with
  | nil state => exact ⟨rfl, fun _ hm => absurd hm List.not_mem_nil⟩
  | cons hm hown _ ih =>
      obtain ⟨hlast, hsilent⟩ := ih hstate
      refine ⟨hlast, fun m' hm' => ?_⟩
      rcases List.mem_cons.mp hm' with rfl | hm'
      · exact ⟨hm, hown⟩
      · exact hsilent m' hm'
  | run _ _ _ => exact absurd rfl hstate

/-! ## Where the engine is not called -/

def Happening.ofEngine : Happening → Bool
  | .compileCalled _ | .compileReturned _ | .compileFaulted _ => true
  | .executeCalled _ | .executeReturned _ | .executeFaulted _ => true
  | _ => false

theorem Happening.ofEngine_eq_false {h : Happening} (hown : h.isOwn = false) :
    h.ofEngine = false := by
  cases h <;> first | rfl | exact nomatch hown

/-- The state stays, and the engine is not called. -/
def Abides (state : RunState) (past : List Moment) : Prop :=
  ∀ m ∈ past, m.state = state ∧ m.happening.ofEngine = false

section
variable {state : RunState} {e : Environment} {past more : List Moment}
  {r : Except Fault RunState}

theorem abides_nil : Abides state [] := fun _ h => nomatch h

theorem abides_cons {m : Moment} : Abides state (m :: past) ↔
    (m.state = state ∧ m.happening.ofEngine = false) ∧ Abides state past :=
  List.forall_mem_cons

theorem abides_append :
    Abides state (past ++ more) ↔ Abides state past ∧ Abides state more := List.forall_mem_append

theorem Silent.abides (h : Silent state past) : Abides state past := by
  intro m hm
  obtain ⟨hstate, hown⟩ := h m hm
  exact ⟨hstate, Happening.ofEngine_eq_false hown⟩

theorem Closes.abides (h : Closes state e past r) : Abides state past := by
  obtain ⟨flushed, rfl, hsilent, -⟩ := h
  exact abides_cons.mpr ⟨⟨rfl, rfl⟩, hsilent.abides⟩

theorem GivesUp.abides {c : Collaborators σ} {headline : Headline}
    (h : GivesUp c headline state e past r) : Abides state past := by
  cases h with
  | unheard _ hcloses => exact hcloses.abides
  | heard e' _ hinner hcloses =>
      refine abides_cons.mpr ⟨⟨rfl, rfl⟩, abides_append.mpr ⟨hinner.abides, ?_⟩⟩
      exact abides_cons.mpr ⟨⟨rfl, rfl⟩, hcloses.abides⟩
  | faulted e' f _ hinner =>
      refine abides_cons.mpr ⟨⟨rfl, rfl⟩, abides_append.mpr ⟨hinner.abides, ?_⟩⟩
      exact abides_cons.mpr ⟨⟨rfl, rfl⟩, abides_nil⟩

end

/-! ## What collaborators leave is a stretch -/

/-- Between the two sessions there is a stretch. -/
def Traverses (p : Pipeline σ) (s s' : Session σ) : Prop :=
  ∃ new, s'.past = s.past ++ new ∧ Stretch p s.world.state new s'.world.state

theorem Traverses.of_past {s s' : Session σ} (hstate : s'.world.state = s.world.state)
    (hpast : s'.past = s.past) : Traverses p s s' := by
  refine ⟨[], by rw [hpast, List.append_nil], ?_⟩
  rw [hstate]
  exact .nil _

theorem Traverses.trans {s t u : Session σ} (h : Traverses p s t) (h' : Traverses p t u) :
    Traverses p s u := by
  obtain ⟨new, hnew, hs⟩ := h
  obtain ⟨new', hnew', hs'⟩ := h'
  exact ⟨new ++ new', by rw [hnew', hnew, List.append_assoc], hs.append hs'⟩

theorem Traverses.noted {s : Session σ} {h : Happening} (hh : h.isOwn = false) :
    Traverses p s (s.noted h) :=
  ⟨[_], rfl, .cons rfl hh (.nil _)⟩

/-- Out of the ready state nothing but silence leads. -/
theorem Traverses.silent {s s' : Session σ} (h : Traverses p s s')
    (hs : s.world.state ≠ .ready) :
    s'.world.state = s.world.state ∧ ∃ new, s'.past = s.past ++ new ∧ Silent s.world.state new := by
  obtain ⟨new, hnew, hstretch⟩ := h
  obtain ⟨hlast, hsilent⟩ := hstretch.silent hs
  exact ⟨hlast, new, hnew, hsilent⟩

theorem traverses_stepLaw (p : Pipeline σ) : StepLaw (Traverses p) :=
  .of_noted (fun _ _ => .of_past) (fun _ _ _ => .trans) fun _ _ => .noted

/-! ## Runs -/

section
variable {perform : Behaviour σ → Play σ Bool} {flush : Play σ Unit} {s s' : Session σ}
  {r : Except Fault RunState} (hperform : ∀ b, (perform b).Keeps (Traverses p))
  (hflush : flush.Keeps (Traverses p))

include hperform in
theorem Call.play_traverses {k : Call} {b : Behaviour σ} (hb : k.behaviour? p = some b)
    {q : Except Fault Bool} (h : k.play p perform s = some (q, s')) :
    ∃ inner, Stretch p s.world.state inner s'.world.state ∧ s'.past = s.past ++
      ⟨k.called p.documents, s.world.state, s.world.environment⟩ ::
        (inner ++ [⟨k.came q, s'.world.state, s'.world.environment⟩]) := by
  obtain ⟨t, ht, rfl⟩ := exists_of_play hb h
  obtain ⟨inner, hinner, hstretch⟩ := hperform b _ _ _ ht
  refine ⟨inner, hstretch, ?_⟩
  rw [Session.noted_past, hinner, Session.noted_past]
  simp

include hflush in
theorem close_closes (hs : s.world.state ≠ .ready) (h : close flush s = some (r, s')) :
    s'.world.state = s.world.state ∧
      ∃ new, s'.past = s.past ++ new ∧ Closes s.world.state s.world.environment new r := by
  obtain ⟨q, hq, rfl⟩ := exists_of_close h
  obtain ⟨hstate, new, hnew, hsilent⟩ := (hflush _ _ _ hq).silent hs
  refine ⟨hstate, _ :: new, ?_, new, rfl, hsilent, ?_⟩
  · rw [hnew, Session.noted_past, List.append_assoc]
    rfl
  · intro last hlast
    cases q with
    | error f => cases hlast
    | ok _ =>
        cases hlast
        exact hstate

include hperform hflush

theorem givingUp_givesUp {state : RunState} {hleft : state ≠ .ready} {headline : Headline}
    (h : (Plan.givingUp state hleft headline).play p perform flush s = some (r, s')) :
    s'.world.state = state ∧ ∃ new,
      s'.past = s.past ++ ⟨.moved s.world.state state, state, s.world.environment⟩ :: new ∧
      GivesUp p.collaborators headline state s.world.environment new r := by
  rw [Plan.givingUp, Plan.play_move] at h
  cases hheard : p.collaborators.onError with
  | none =>
      have hb : (Call.announce headline).behaviour? p = none := by
        rw [Call.behaviour?, hheard, Option.map_none]
      rw [Plan.play, Call.play_of_none hb] at h
      obtain ⟨hlast, new, hnew, hcloses⟩ := close_closes (s := s.movedTo state) hflush hleft h
      refine ⟨hlast, new, ?_, .unheard hheard hcloses⟩
      rw [hnew, Session.movedTo_past, List.append_assoc]
      rfl
  | some onError =>
      have hsome : p.collaborators.onError.isSome := by rw [hheard]; rfl
      have hb : (Call.announce headline).behaviour? p = some (onError headline) := by
        rw [Call.behaviour?, hheard, Option.map_some]
      rcases Plan.play_call_eq_some_iff.mp h with ⟨f, hf, rfl⟩ | ⟨verdict, t, hok, h⟩
      · obtain ⟨inner, hinner, hnew⟩ := Call.play_traverses hperform hb hf
        obtain ⟨hlast, hsilent⟩ := hinner.silent hleft
        refine ⟨hlast, _, ?_, .faulted s'.world.environment f hsome hsilent⟩
        rw [hnew, hlast, Session.movedTo_past, List.append_assoc]
        rfl
      · obtain ⟨inner, hinner, hpast⟩ := Call.play_traverses hperform hb hok
        obtain ⟨hlast, hsilent⟩ := hinner.silent hleft
        rw [Session.movedTo_state] at hlast
        obtain ⟨hlast', new, hnew, hcloses⟩ := close_closes hflush (hlast ▸ hleft) h
        rw [hlast] at hcloses
        refine ⟨hlast'.trans hlast, _, ?_, .heard t.world.environment hsome hsilent hcloses⟩
        rw [hnew, hpast, hlast, Session.movedTo_past]
        simp

theorem executing_executes (hs : s.world.state = .compiled)
    (h : (Plan.executing (Document.templates s.world.environment.compilations)).play p perform
      flush s = some (r, s')) :
    ∃ new, s'.past = s.past ++ new ∧
      Executes p.collaborators s.world.environment new r s'.world.state := by
  have hleft : s.world.state ≠ .ready := by rw [hs]; decide
  rcases Plan.play_call_eq_some_iff.mp h with ⟨f, hf, rfl⟩ | ⟨verdict, t, hok, h⟩
  · obtain ⟨inner, hinner, hpast⟩ := Call.play_traverses hperform rfl hf
    obtain ⟨hlast, hsilent⟩ := hinner.silent hleft
    rw [hs] at hlast hsilent
    refine ⟨_, hpast, ?_⟩
    rw [hlast, hs]
    exact .faulted s'.world.environment f hsilent
  · obtain ⟨inner, hinner, hpast⟩ := Call.play_traverses hperform rfl hok
    obtain ⟨hlast, hsilent⟩ := hinner.silent hleft
    rw [hs] at hlast hsilent
    cases verdict with
    | true =>
        have hexecuted : RunState.executed ≠ .ready := by decide
        obtain ⟨hend, new, hnew, hcloses⟩ :=
          close_closes (s := t.movedTo .executed) hflush hexecuted h
        rw [hend]
        refine ⟨_, ?_, .accepted t.world.environment hsilent hcloses⟩
        rw [hnew, Session.movedTo_past, hpast, hlast, hs]
        simp
    | false =>
        obtain ⟨hend, new, hnew, hgives⟩ := givingUp_givesUp hperform hflush h
        rw [hend]
        refine ⟨_, ?_, .refused t.world.environment hsilent hgives⟩
        rw [hnew, hpast, hlast, hs]
        simp

theorem proceeding_executes (h : Plan.proceeding.play p perform flush s = some (r, s')) :
    ∃ new, s'.past = s.past ++ ⟨.moved s.world.state .compiled, .compiled,
        s.world.environment⟩ :: (warning s.world.environment ++ new) ∧
      Executes p.collaborators s.world.environment new r s'.world.state := by
  rw [Plan.proceeding, Plan.play_move, Plan.executingTemplates, Plan.play_look,
    Session.movedTo_environment] at h
  by_cases hnone : Document.templates s.world.environment.compilations = []
  · rw [if_pos hnone, Plan.play_warn] at h
    obtain ⟨new, hnew, hexecutes⟩ :=
      executing_executes (s := (s.movedTo .compiled).noted .noTemplates) hperform hflush rfl h
    refine ⟨new, ?_, hexecutes⟩
    rw [hnew, Session.noted_past, Session.movedTo_past, warning, if_pos hnone]
    simp
  · rw [if_neg hnone] at h
    obtain ⟨new, hnew, hexecutes⟩ :=
      executing_executes (s := s.movedTo .compiled) hperform hflush rfl h
    refine ⟨new, ?_, hexecutes⟩
    rw [hnew, Session.movedTo_past, warning, if_neg hnone]
    simp

/-- A run that starts when the pipeline is ready.  What happens in its compile call is what whoever
compiles has done. -/
theorem runWith_runs (hs : s.world.state = .ready)
    (h : runWith p.collaborators p.documents perform flush s = some (r, s')) :
    ∃ new inner q t, s'.past = s.past ++ new ∧
      perform (p.collaborators.compile p.documents) (s.noted (.compileCalled p.documents)) =
        some (q, t) ∧
      t.past = (s.noted (.compileCalled p.documents)).past ++ inner ∧
      Stretch p .ready inner t.world.state ∧
      Runs p s.world.environment inner t.world.state new r s'.world.state := by
  rw [Plan.runWith_eq, if_pos hs] at h
  have hb : Call.compile.behaviour? p = some (p.collaborators.compile p.documents) := rfl
  rcases Plan.play_call_eq_some_iff.mp h with ⟨f, hf, rfl⟩ | ⟨verdict, u, hok, h⟩
  · obtain ⟨t, ht, rfl⟩ := Call.exists_of_play hb hf
    obtain ⟨inner, hpast, hinner⟩ := hperform _ _ _ _ ht
    rw [Session.noted_world, hs] at hinner
    refine ⟨_, inner, _, t, ?_, ht, hpast, hinner, .faulted t.world.environment f⟩
    rw [Session.noted_past, hpast, Session.noted_past, hs]
    simp
  · obtain ⟨t, ht, rfl⟩ := Call.exists_of_play hb hok
    obtain ⟨inner, hpast, hinner⟩ := hperform _ _ _ _ ht
    rw [Session.noted_world, hs] at hinner
    cases verdict with
    | false =>
        obtain ⟨hend, new, hnew, hgives⟩ := givingUp_givesUp hperform hflush h
        rw [hend]
        refine ⟨_, inner, _, t, ?_, ht, hpast, hinner, .refused t.world.environment hgives⟩
        rw [hnew, Session.noted_past, hpast, Session.noted_past, hs]
        simp
    | true =>
        obtain ⟨new, hnew, hexecutes⟩ := proceeding_executes hperform hflush h
        refine ⟨_, inner, _, t, ?_, ht, hpast, hinner, .accepted t.world.environment hexecutes⟩
        rw [hnew, Session.noted_past, hpast, Session.noted_past, hs]
        simp

omit hperform hflush

theorem runWith_refused {c : Collaborators σ} {documents : List String}
    (hs : s.world.state ≠ .ready) :
    runWith c documents perform flush s = some (.error (.alreadyRan s.world.state), s) := by
  rw [runWith, Play.session_bind, if_neg hs]
  rfl

end

theorem traverses_reentryLaw (p : Pipeline σ) : ReentryLaw (Traverses p) p where
  toActLaw := (traverses_stepLaw p).toActLaw
  flush hwrite := keeps_flushWith (traverses_stepLaw p) hwrite
  run hperform hflush := by
    intro s r s' h
    by_cases hs : s.world.state = .ready
    · obtain ⟨new, _, _, _, hnew, -, -, hinner, hruns⟩ := runWith_runs hperform hflush hs h
      refine ⟨new, hnew, ?_⟩
      rw [hs, ← List.append_nil new]
      exact .run hinner hruns (.nil _)
    · rw [runWith_refused hs] at h
      cases h
      exact .of_past rfl rfl

/-- Whatever is done to a pipeline, from outside and by its collaborators, what happens is a
stretch. -/
theorem keeps_traverses (p : Pipeline σ) (depth : Nat) (b : Behaviour σ) :
    (act (p.reentry depth) b).Keeps (Traverses p) :=
  keeps_perform (traverses_reentryLaw p) depth b

end

end TemplateRun
