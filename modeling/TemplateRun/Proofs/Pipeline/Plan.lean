/-
# `Plan` — the body of a run, as data

Much is to be said of runs: what they keep, when they end, what they do not depend on, what comes
out of them.  A proof of any of this has to go through the whole body of a run, from the call that
compiles to the closing flush.  So the body is written down once more, as a tree that can be gone
through by induction:

    Call     what the engine or the callback is called for
    Plan     which call is next and how it goes on for either answer, up to the closing flush
    play     to carry a plan out; the calls and the flush are given

`runWith_eq` says that a run of a pipeline that is ready carries out `Plan.compiling`, and that is
where the body of a run is read.  `PlanLaw.play` is the induction: what each step of a plan keeps
holds of every plan.  It is stated for two ways of carrying a plan out, since two runs are compared
now and then; of one run, it is stated with the same way twice.
-/
import TemplateRun.Proofs.Pipeline.Play

namespace TemplateRun

variable {σ : Type}

/-! ## Calls -/

/-- What a run calls the engine or the callback for. -/
inductive Call where
  | compile
  | execute (selection : List String)
  | announce (headline : Headline)

namespace Call

@[simp] def called (documents : List String) : Call → Happening
  | compile => .compileCalled documents
  | execute selection => .executeCalled selection
  | announce headline => .errorCalled headline

theorem isOwn_called (documents : List String) (k : Call) : (k.called documents).isOwn := by
  cases k <;> rfl

@[simp] def returned : Call → Bool → Happening
  | compile, verdict => .compileReturned verdict
  | execute _, verdict => .executeReturned verdict
  | announce _, _ => .errorReturned

@[simp] def faulted : Call → Fault → Happening
  | compile, f => .compileFaulted f
  | execute _, f => .executeFaulted f
  | announce _, f => .errorFaulted f

/-- What happens when the call has come to this. -/
@[simp] def came (k : Call) : Except Fault Bool → Happening
  | .ok verdict => k.returned verdict
  | .error f => k.faulted f

theorem isOwn_came (k : Call) (r : Except Fault Bool) :
    (k.came r).isOwn ∧ ∀ headline, k.came r ≠ .errorCalled headline := by
  cases k <;> cases r <;> exact ⟨rfl, nofun⟩

/-- What whoever is called does, if there is anybody. -/
def behaviour? (p : Pipeline σ) : Call → Option (Behaviour σ)
  | compile => some (p.collaborators.compile p.documents)
  | execute selection => some (p.collaborators.execute selection)
  | announce headline => p.collaborators.onError.map fun onError => onError headline

/-- Make the call.  If there is nobody to call, nothing happens. -/
def play (p : Pipeline σ) (perform : Behaviour σ → Play σ Bool) (k : Call) : Play σ Bool :=
  match k.behaviour? p with
  | none => pure true
  | some b => do
    Play.note (k.called p.documents)
    calling (perform b) k.returned k.faulted

section
variable {p : Pipeline σ} {perform : Behaviour σ → Play σ Bool} {k : Call}

theorem play_of_none (hb : k.behaviour? p = none) : k.play p perform = pure true := by
  rw [play, hb]

theorem play_apply {b : Behaviour σ} (hb : k.behaviour? p = some b) (s : Session σ) :
    k.play p perform s = (perform b (s.noted (k.called p.documents))).map fun q =>
      (q.1, q.2.noted (k.came q.1)) := by
  rw [play, hb]
  dsimp only
  rw [Play.note_bind, calling, Play.bind_apply, Play.attempt]
  rcases perform b _ with _ | ⟨_ | _, _⟩
  all_goals rfl

theorem exists_of_play {b : Behaviour σ} (hb : k.behaviour? p = some b) {s s' : Session σ}
    {r : Except Fault Bool} (h : k.play p perform s = some (r, s')) :
    ∃ t, perform b (s.noted (k.called p.documents)) = some (r, t) ∧ s' = t.noted (k.came r) := by
  rw [play_apply hb] at h
  obtain ⟨⟨r, t⟩, ht, ⟨⟩⟩ := Option.map_eq_some_iff.mp h
  exact ⟨t, ht, rfl⟩

end

end Call

/-- To close is to flush, and to say how far the pipeline has come. -/
theorem exists_of_close {flush : Play σ Unit} {s s' : Session σ} {r : Except Fault RunState}
    (h : close flush s = some (r, s')) :
    ∃ q, flush (s.noted .closing) = some (q, s') ∧ r = q.map fun _ => s'.world.state := by
  rw [close, Play.note_bind] at h
  rcases Play.bind_eq_some_iff.mp h with ⟨f, hf, rfl⟩ | ⟨_, t, hok, h⟩
  · exact ⟨.error f, hf, rfl⟩
  · cases h
    exact ⟨.ok (), hok, rfl⟩

/-! ## Plans -/

/-- What is left of a run.  A run never goes back to the ready state. -/
inductive Plan where
  /-- Have the diagnostics written. -/
  | close
  | call (k : Call) (next : Bool → Plan)
  | move (target : RunState) (hleft : target ≠ .ready) (next : Plan)
  /-- Say that there is nothing to execute. -/
  | warn (next : Plan)
  | look (next : Environment → Plan)

namespace Plan

/-- Carry the plan out. -/
def play (p : Pipeline σ) (perform : Behaviour σ → Play σ Bool) (flush : Play σ Unit) :
    Plan → Play σ RunState
  | close => TemplateRun.close flush
  | call k next => do (next (← k.play p perform)).play p perform flush
  | move target _ next => do
    Play.move target
    next.play p perform flush
  | warn next => do
    Play.note .noTemplates
    next.play p perform flush
  | look next => do (next (← Play.session).world.environment).play p perform flush

/-- The engine has said no. -/
def givingUp (state : RunState) (hleft : state ≠ .ready) (headline : Headline) : Plan :=
  move state hleft (call (.announce headline) fun _ => close)

def executing (selection : List String) : Plan :=
  call (.execute selection) fun verdict =>
    if verdict then move .executed (by decide) close
    else givingUp .executeFailed (by decide) .execution

/-- Execute the templates, and say so before if there are none. -/
def executingTemplates : Plan :=
  look fun e =>
    let selection := Document.templates e.compilations
    if selection = [] then warn (executing selection) else executing selection

/-- The documents have been compiled. -/
def proceeding : Plan := move .compiled (by decide) executingTemplates

/-- The whole body of a run. -/
def compiling : Plan :=
  call .compile fun verdict =>
    if verdict then proceeding else givingUp .compileFailed (by decide) .compilation

section
variable {p : Pipeline σ} {perform : Behaviour σ → Play σ Bool} {flush : Play σ Unit}
  {s s' : Session σ} {next : Plan}

theorem play_move {target : RunState} {hleft : target ≠ .ready} :
    (move target hleft next).play p perform flush s =
      next.play p perform flush (s.movedTo target) := rfl

theorem play_warn : (warn next).play p perform flush s =
    next.play p perform flush (s.noted .noTemplates) := rfl

theorem play_look {next : Environment → Plan} : (look next).play p perform flush s =
    (next s.world.environment).play p perform flush s := rfl

theorem play_call_eq_some_iff {k : Call} {next : Bool → Plan} {r : Except Fault RunState} :
    (call k next).play p perform flush s = some (r, s') ↔
      (∃ f, k.play p perform s = some (.error f, s') ∧ r = .error f) ∨
      ∃ verdict t, k.play p perform s = some (.ok verdict, t) ∧
        (next verdict).play p perform flush t = some (r, s') := Play.bind_eq_some_iff

end

/-! ## The body of a run -/

section
variable (p : Pipeline σ) (perform : Behaviour σ → Play σ Bool) (flush : Play σ Unit)

theorem giveUp_eq (state : RunState) (hleft : state ≠ .ready) (headline : Headline) :
    giveUp p.collaborators perform flush state headline =
      (givingUp state hleft headline).play p perform flush := by
  rw [givingUp, play, play, Call.play, Call.behaviour?, giveUp]
  cases p.collaborators.onError <;> rfl

theorem executing_eq (selection : List String) :
    TemplateRun.executing p.collaborators perform flush selection =
      (executing selection).play p perform flush := by
  have hnext (verdict : Bool) : (if verdict then (do
        Play.move .executed
        TemplateRun.close flush)
      else giveUp p.collaborators perform flush .executeFailed .execution) =
      (if verdict then move .executed (by decide) close
        else givingUp .executeFailed (by decide) .execution).play p perform flush := by
    cases verdict with
    | true => rfl
    | false => exact giveUp_eq p perform flush .executeFailed (by decide) .execution
  exact congrArg (fun next => do
    Play.note (.executeCalled selection)
    next (← calling (perform (p.collaborators.execute selection)) .executeReturned .executeFaulted))
    (funext hnext)

theorem proceed_eq :
    proceed p.collaborators perform flush = proceeding.play p perform flush := by
  funext s
  rw [proceed, proceeding, play_move, executingTemplates, play_look, Play.move_bind,
    Play.session_bind]
  dsimp only
  split
  · rw [executing_eq]
    rfl
  · rw [executing_eq]

/-- A run of a pipeline that is ready carries the plan out, and another one refuses. -/
theorem runWith_eq (s : Session σ) :
    runWith p.collaborators p.documents perform flush s =
      if s.world.state = .ready then compiling.play p perform flush s
      else some (.error (.alreadyRan s.world.state), s) := by
  have hnext (verdict : Bool) : (if verdict then proceed p.collaborators perform flush
      else giveUp p.collaborators perform flush .compileFailed .compilation) =
      (if verdict then proceeding
        else givingUp .compileFailed (by decide) .compilation).play p perform flush := by
    cases verdict with
    | true => exact proceed_eq p perform flush
    | false => exact giveUp_eq p perform flush .compileFailed (by decide) .compilation
  rw [runWith, Play.session_bind]
  split
  · simp only [hnext]
    rfl
  · rfl

end

end Plan

/-- There is room for a flush in a run. -/
theorem Pipeline.exists_depthLimit : ∃ depth, depthLimit = depth + 2 := ⟨_, rfl⟩

/-! ## Induction on plans -/

/-- The relation between plays is kept by each step of a plan, when the plan is carried out in two
ways. -/
structure PlanLaw (p : Pipeline σ) (perform perform' : Behaviour σ → Play σ Bool)
    (flush flush' : Play σ Unit) (P : Play σ RunState → Play σ RunState → Prop) : Prop where
  close : P (close flush) (close flush')
  call : ∀ (k : Call) {next next' : Bool → Play σ RunState},
    (∀ verdict, P (next verdict) (next' verdict)) →
    P (k.play p perform >>= next) (k.play p perform' >>= next')
  move : ∀ (target : RunState) {m m' : Play σ RunState}, target ≠ .ready → P m m' →
    P (Play.move target >>= fun _ => m) (Play.move target >>= fun _ => m')
  warn : ∀ {m m' : Play σ RunState}, P m m' →
    P (Play.note .noTemplates >>= fun _ => m) (Play.note .noTemplates >>= fun _ => m')
  look : ∀ {next next' : Environment → Play σ RunState}, (∀ e, P (next e) (next' e)) →
    P (Play.session >>= fun s => next s.world.environment)
      (Play.session >>= fun s => next' s.world.environment)

theorem PlanLaw.play {p : Pipeline σ} {perform perform' : Behaviour σ → Play σ Bool}
    {flush flush' : Play σ Unit} {P : Play σ RunState → Play σ RunState → Prop}
    (h : PlanLaw p perform perform' flush flush' P) :
    ∀ plan : Plan, P (plan.play p perform flush) (plan.play p perform' flush')
  | .close => h.close
  | .call k next => h.call k fun verdict => h.play (next verdict)
  | .move target hleft next => h.move target hleft (h.play next)
  | .warn next => h.warn (h.play next)
  | .look next => h.look fun e => h.play (next e)

/-! ## Relations that runs keep -/

/-- Each single thing that the pipeline does keeps the relation as well, but for announcements. -/
structure RunLaw (R : Session σ → Session σ → Prop) : Prop extends ActLaw R where
  own : ∀ s h, h.isOwn → (∀ headline, h ≠ .errorCalled headline) → R s (s.noted h)
  moved : ∀ s target, target ≠ .ready → R s (s.movedTo target)

section
variable {R : Session σ → Session σ → Prop} {p : Pipeline σ} {perform : Behaviour σ → Play σ Bool}
  {flush : Play σ Unit}

theorem RunLaw.move (hR : RunLaw R) {target : RunState} (hleft : target ≠ .ready) :
    Play.Keeps R (Play.move target) := by
  intro s r s' h
  cases h
  exact hR.moved s target hleft

theorem Call.keeps_play (hR : RunLaw R) (k : Call)
    (hcalled : ∀ s : Session σ, R s (s.noted (k.called p.documents)))
    (hperform : ∀ b, k.behaviour? p = some b → (perform b).Keeps R) :
    (k.play p perform).Keeps R := by
  intro s r s' h
  cases hb : k.behaviour? p with
  | none =>
      rw [play_of_none hb] at h
      cases h
      exact hR.refl s
  | some b =>
      obtain ⟨t, ht, rfl⟩ := exists_of_play hb h
      obtain ⟨hown, hcame⟩ := k.isOwn_came r
      exact hR.trans _ _ _ (hcalled s)
        (hR.trans _ _ _ (hperform b hb _ _ _ ht) (hR.own t _ hown hcame))

theorem keeps_close (hR : RunLaw R) (hflush : flush.Keeps R) : (close flush).Keeps R := by
  refine .bind hR.trans (.modify fun s => hR.own s .closing rfl nofun) fun _ => ?_
  exact .bind hR.trans hflush fun _ => .bind hR.trans (.session hR.refl) fun _ => .pure hR.refl _

theorem keeps_planLaw (hR : RunLaw R) (hcall : ∀ k : Call, (k.play p perform).Keeps R)
    (hflush : flush.Keeps R) :
    PlanLaw p perform perform flush flush fun m _ => m.Keeps R where
  close := keeps_close hR hflush
  call k _ _ hnext := .bind hR.trans (hcall k) hnext
  move _ _ _ hleft hm := .bind hR.trans (hR.move hleft) fun _ => hm
  warn hm := .bind hR.trans (.modify fun s => hR.own s _ rfl nofun) fun _ => hm
  look hnext := .bind hR.trans (.session hR.refl) fun s => hnext s.world.environment

/-- A run keeps what its calls and its flush keep. -/
theorem keeps_runWith (hR : RunLaw R) (hcall : ∀ k : Call, (k.play p perform).Keeps R)
    (hflush : flush.Keeps R) : (runWith p.collaborators p.documents perform flush).Keeps R := by
  intro s r s' h
  rw [Plan.runWith_eq] at h
  split at h
  · exact (keeps_planLaw hR hcall hflush).play .compiling s r s' h
  · cases h
    exact hR.refl s

end

end TemplateRun
