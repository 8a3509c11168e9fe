/-
# `Transition` — the log tells the state

Each change of state leaves a record with the names of two states in it.  Whoever has the log and
nothing else can read the changes back (`transitions`) and knows the state (`shownState`), since the
changes are a path that begins at the ready state (`Connects`):

    (ready, a), (a, b), (b, c)        ready, then a, then b, and now c

This holds in the middle of nested runs as well.  A run records a change from whatever state the
runs inside its compile call have left, and not from the one that it has found at its own start; so
a final state can be left again, in the log as in the pipeline (`nestingPipeline_traced`).  What an
outer run cannot meet is a change behind its execute call, because no run starts there.

The changes are taken from what has happened (`Steps`): a moment changes the state and says so, or
leaves it.
-/
import Mathlib.Data.List.Basic
import TemplateRun.Proofs.Pipeline.Nesting

namespace TemplateRun

variable {σ : Type}

/-! ## Reading a log -/

def transitionRecord (change : RunState × RunState) : Log.Record :=
  ⟨.debug, pipelineLogger, "Pipeline " ++ change.1.name ++ " -> " ++ change.2.name⟩

def allChanges : List (RunState × RunState) :=
  RunState.all.flatMap fun source => RunState.all.map fun target => (source, target)

/-- The change that a record is of, if it is of one. -/
def Log.Record.change? (r : Log.Record) : Option (RunState × RunState) :=
  allChanges.find? fun change => transitionRecord change = r

/-- The changes of which a log has records. -/
def transitions (log : List Log.Record) : List (RunState × RunState) :=
  log.filterMap Log.Record.change?

/-- The state in which a log leaves the pipeline. -/
def shownState (log : List Log.Record) : RunState :=
  ((transitions log).getLast?.map Prod.snd).getD .ready

/-- Whether a record reads like one of a change. -/
def Log.Record.readsLikeChange (r : Log.Record) : Bool :=
  "Pipeline ".toList.isPrefixOf r.message.toList

theorem readsLikeChange_transitionRecord (change : RunState × RunState) :
    (transitionRecord change).readsLikeChange = true := by
  rw [Log.Record.readsLikeChange, transitionRecord, String.append_assoc, String.append_assoc,
    String.toList_append, List.isPrefixOf_iff_prefix]
  exact List.prefix_append _ _

theorem change?_transitionRecord (change : RunState × RunState) :
    (transitionRecord change).change? = some change := by
  have hall : ∀ change ∈ allChanges, (transitionRecord change).change? = some change := by
    decide +kernel
  have hmem : change ∈ allChanges := by
    obtain ⟨source, target⟩ := change
    cases source <;> cases target <;> decide
  exact hall change hmem

/-! ## Paths -/

/-- `Connects start changes last`: each change starts where the one before it has ended. -/
inductive Connects : RunState → List (RunState × RunState) → RunState → Prop
  | nil (state : RunState) : Connects state [] state
  | cons {source target last : RunState} {changes : List (RunState × RunState)} :
      Connects target changes last → Connects source ((source, target) :: changes) last

theorem Connects.last {start last : RunState} {changes : List (RunState × RunState)}
    (h : Connects start changes last) :
    (changes.getLast?.map Prod.snd).getD start = last := by
  induction h with
  | nil state => rfl
  | @cons source target last changes h ih =>
      cases changes with
      | nil =>
          cases h
          rfl
      | cons change rest => exact ih

/-- The changes that a pipeline makes: it never becomes ready, and it ends executing from the state
in which it executes. -/
structure Lawful (change : RunState × RunState) : Prop where
  left : change.2 ≠ .ready
  executing : change.2 = .executed ∨ change.2 = .executeFailed → change.1 = .compiled

/-! ## From state to state -/

/-- The change that a happening is, if it is one. -/
def Happening.change? : Happening → Option (RunState × RunState)
  | .moved source target => some (source, target)
  | _ => none

/-- `Steps state past last`: from `state`, each moment makes a lawful change or leaves the state, up
to `last`. -/
inductive Steps : RunState → List Moment → RunState → Prop
  | nil (state : RunState) : Steps state [] state
  | stay {state last : RunState} {m : Moment} {past : List Moment} :
      m.happening.change? = none → m.state = state → Steps state past last →
      Steps state (m :: past) last
  | move {source target last : RunState} {e : Environment} {past : List Moment} :
      Lawful (source, target) → Steps target past last →
      Steps source (⟨.moved source target, target, e⟩ :: past) last

section
variable {state next last : RunState} {past more before after : List Moment} {m : Moment}

theorem Steps.append (h : Steps state past next) (h' : Steps next more last) :
    Steps state (past ++ more) last := by
  induction h with
  | nil state => exact h'
  | stay hchange hstate _ ih => exact .stay hchange hstate (ih h')
  | move hlawful _ ih => exact .move hlawful (ih h')

theorem Steps.upTo (h : Steps state (before ++ m :: after) last) :
    Steps state (before ++ [m]) m.state := by
  induction before generalizing state with
  | nil =>
      cases h with
      | stay hchange hstate _ =>
          rw [hstate]
          exact .stay hchange hstate (.nil state)
      | move hlawful _ => exact .move hlawful (.nil _)
  | cons first before ih =>
      cases h with
      | stay hchange hstate hrest => exact .stay hchange hstate (ih hrest)
      | move hlawful hrest => exact .move hlawful (ih hrest)

/-! ## The log of the steps -/

/-- What a happening leaves in the log is the record of its change, or none that could be taken for
the record of one. -/
theorem Happening.record?_eq (happening : Happening) :
    (∃ change, happening.change? = some change ∧
      happening.record? = some (transitionRecord change)) ∨
    happening.change? = none ∧ ∀ r, happening.record? = some r →
      r.change? = none ∧ r.readsLikeChange = false := by
  have hwarning : ∀ r, Happening.noTemplates.record? = some r →
      r.change? = none ∧ r.readsLikeChange = false := by
    rintro r ⟨⟩
    decide +kernel
  cases happening with
  | moved source target => exact .inl ⟨(source, target), rfl, rfl⟩
  | noTemplates => exact .inr ⟨rfl, hwarning⟩
  | _ => exact .inr ⟨rfl, fun _ h => nomatch h⟩

/-- The log of what has happened tells the changes, in order. -/
theorem transitions_pastLog (past : List Moment) :
    transitions (pastLog past) = past.filterMap fun m => m.happening.change? := by
  rw [transitions, pastLog, List.filterMap_filterMap]
  refine List.filterMap_congr fun m _ => ?_
  rcases m.happening.record?_eq with ⟨change, hchange, hrecord⟩ | ⟨hchange, hrecord⟩
  · rw [hrecord, hchange]
    exact change?_transitionRecord change
  · rw [hchange, Option.bind_eq_none_iff]
    exact fun r hr => (hrecord r hr).1

theorem filter_readsLikeChange_pastLog (past : List Moment) :
    (pastLog past).filter Log.Record.readsLikeChange =
      (transitions (pastLog past)).map transitionRecord := by
  rw [transitions_pastLog, pastLog, List.filter_filterMap, List.map_filterMap]
  refine List.filterMap_congr fun m _ => ?_
  rcases m.happening.record?_eq with ⟨change, hchange, hrecord⟩ | ⟨hchange, hrecord⟩
  · rw [hrecord, hchange, Option.filter_some, readsLikeChange_transitionRecord]
    rfl
  · rw [hchange, Option.map_none, Option.filter_eq_none_iff]
    intro r hr
    rw [(hrecord r hr).2]
    exact Bool.false_ne_true

theorem Steps.connects (h : Steps state past last) :
    Connects state (transitions (pastLog past)) last ∧
      ∀ change ∈ transitions (pastLog past), Lawful change := by
  rw [transitions_pastLog]
  induction h with
  | nil state => exact ⟨.nil state, fun _ h => absurd h List.not_mem_nil⟩
  | stay hchange _ _ ih =>
      rw [List.filterMap_cons, hchange]
      exact ih
  | @move source target last e past hlawful _ ih =>
      obtain ⟨hconnects, hall⟩ := ih
      rw [List.filterMap_cons]
      exact ⟨.cons hconnects, List.forall_mem_cons.mpr ⟨hlawful, hall⟩⟩

end

/-! ## The steps of a run -/

section
variable {p : Pipeline σ} {c : Collaborators σ} {state last : RunState} {e : Environment}
  {headline : Headline} {inner past : List Moment} {r : Except Fault RunState}

theorem Happening.change?_eq_none {happening : Happening} (hown : happening.isOwn = false) :
    happening.change? = none := by
  cases happening <;> first | rfl | exact nomatch hown

theorem Silent.steps (h : Silent state past) : Steps state past state := by
  induction past with
  | nil => exact .nil state
  | cons m past ih =>
      obtain ⟨⟨hstate, hown⟩, hpast⟩ := List.forall_mem_cons.mp h
      exact .stay (Happening.change?_eq_none hown) hstate (ih hpast)

theorem Closes.steps (h : Closes state e past r) : Steps state past state := by
  obtain ⟨flushed, rfl, hsilent, -⟩ := h
  exact .stay rfl rfl hsilent.steps

theorem GivesUp.steps (h : GivesUp c headline state e past r) : Steps state past state := by
  cases h with
  | unheard _ hcloses => exact hcloses.steps
  | heard e' _ hinner hcloses =>
      exact .stay rfl rfl (hinner.steps.append (.stay rfl rfl hcloses.steps))
  | faulted e' f _ hinner =>
      exact .stay rfl rfl (hinner.steps.append (.stay rfl rfl (.nil state)))

/-- Nothing changes the state while the engine executes, so executing ends from `compiled`. -/
theorem Executes.steps (h : Executes c e past r last) : Steps .compiled past last := by
  cases h with
  | faulted e' f hinner =>
      exact .stay rfl rfl (hinner.steps.append (.stay rfl rfl (.nil .compiled)))
  | refused e' hinner hgives =>
      refine .stay rfl rfl (hinner.steps.append (.stay rfl rfl (.move ?_ hgives.steps)))
      exact ⟨nofun, fun _ => rfl⟩
  | accepted e' hinner hcloses =>
      refine .stay rfl rfl (hinner.steps.append (.stay rfl rfl (.move ?_ hcloses.steps)))
      exact ⟨nofun, fun _ => rfl⟩

theorem steps_warning (e : Environment) : Steps .compiled (warning e) .compiled := by
  rw [warning]
  split
  · exact .stay rfl rfl (.nil .compiled)
  · exact .nil .compiled

/-- The answer to a compile call changes the state, from wherever the runs inside have led. -/
theorem Runs.steps (hinner : Steps .ready inner state) (h : Runs p e inner state past r last) :
    Steps .ready past last := by
  cases h with
  | faulted e' f => exact .stay rfl rfl (hinner.append (.stay rfl rfl (.nil state)))
  | refused e' hgives =>
      refine .stay rfl rfl (hinner.append (.stay rfl rfl (.move ?_ hgives.steps)))
      exact ⟨nofun, nofun⟩
  | accepted e' hexecutes =>
      refine .stay rfl rfl (hinner.append (.stay rfl rfl (.move ?_ ?_)))
      · exact ⟨nofun, nofun⟩
      · exact (steps_warning e').append hexecutes.steps

theorem Stretch.steps (h : Stretch p state past last) : Steps state past last := by
  -- the induction is on how runs are nested
  induction h with
  | nil state => exact .nil state
  | cons hstate hown _ ih => exact .stay (Happening.change?_eq_none hown) hstate ih
  | run _ hrun _ hinner hrest => exact (hrun.steps hinner).append hrest

end

/-! ## The log of a pipeline -/

/-- `Faithful log state`: the log of a pipeline that was ready says how it has come to `state`. -/
structure Faithful (log : List Log.Record) (state : RunState) : Prop where
  /-- What reads like the record of a change is the record of one. -/
  records : log.filter Log.Record.readsLikeChange = (transitions log).map transitionRecord
  connected : Connects .ready (transitions log) state
  lawful : ∀ change ∈ transitions log, Lawful change
  shown : shownState log = state

theorem Steps.faithful {past : List Moment} {last : RunState} (h : Steps .ready past last) :
    Faithful (pastLog past) last where
  records := filter_readsLikeChange_pastLog past
  connected := h.connects.1
  lawful := h.connects.2
  shown := h.connects.1.last

/-- Whatever is done to a pipeline, from outside and by its collaborators, the log is faithful in
the end and was so at each moment. -/
theorem log_traces_states (p : Pipeline σ) (depth : Nat) (b : Behaviour σ) {s s' : Session σ}
    {r : Except Fault Bool} (h : act (p.reentry depth) b s = some (r, s'))
    (hready : s.world.state = .ready) :
    ∃ new, s'.past = s.past ++ new ∧ Faithful (pastLog new) s'.world.state ∧
      AtEach (fun before m _ => Faithful (pastLog (before ++ [m])) m.state) new := by
  obtain ⟨new, hnew, hstretch⟩ := keeps_traverses p depth b s r s' h
  have hsteps := hstretch.steps
  rw [hready] at hsteps
  refine ⟨new, hnew, hsteps.faithful, ?_⟩
  rintro before m after rfl
  exact hsteps.upTo.faithful

/-- The run inside the compile call leaves a failure, and the run around it goes on from there. -/
theorem nestingPipeline_traced : ∃ r s' new,
    act (nestingPipeline.reentry 3) (.run fun _ => .done true) (.blank false) = some (r, s') ∧
    s'.past = (Session.blank false).past ++ new ∧ Faithful (pastLog new) s'.world.state ∧
    AtEach (fun before m _ => Faithful (pastLog (before ++ [m])) m.state) new ∧
    transitions (pastLog new) =
      [(.ready, .compileFailed), (.compileFailed, .compiled), (.compiled, .executed)] := by
  have hresult : (act (nestingPipeline.reentry 3) (.run fun _ => .done true)
      (.blank false)).map (fun q => transitions (pastLog q.2.past)) = some
      [(.ready, .compileFailed), (.compileFailed, .compiled), (.compiled, .executed)] := by
    decide +kernel
  obtain ⟨⟨r, s'⟩, hrun, htransitions⟩ := Option.map_eq_some_iff.mp hresult
  obtain ⟨new, hnew, hfaithful, heach⟩ := log_traces_states nestingPipeline 3 _ hrun rfl
  have hpast : s'.past = new := hnew
  rw [hpast] at htransitions
  exact ⟨r, s', new, hrun, hnew, hfaithful, heach, htransitions⟩

end TemplateRun
