/-
# `Play` — what comes of plays put together

Two ways to reason about a play that has come to an end.  The first takes it apart: a play made of
two ends where the first faults or where the second ends (`bind_eq_some_iff`).  The second never
looks inside: a relation between sessions that is kept by each part is kept by the whole
(`Keeps`), as long as the relation may be composed.

The second is what collaborators need, since nothing is known of them.  `ActLaw R` says that `R` is
kept by every single thing a collaborator can do by itself; it follows that `R` is kept by whatever
it does in one call (`keeps_act`), if flushes keep it.  Where the single steps of a flush do
(`StepLaw R`), flushes do, however deep they are nested (`keeps_flush`).  Behaviours that never run
the pipeline (`NeverRuns`) ask nothing more of `R`.  The laws speak of sessions; that plays keep
what the sessions before and after them are in is said here once.
-/
import TemplateRun.Pipeline.Run

namespace TemplateRun

variable {σ α β : Type}

/-! ## Sessions -/

def Session.blank (memory : σ) : Session σ where
  world := ⟨.ready, .fresh, memory⟩
  terminal := .blank .plain
  past := []

def Session.movedTo (s : Session σ) (target : RunState) : Session σ :=
  Session.noted { s with world := { s.world with state := target } } (.moved s.world.state target)

@[simp] theorem Session.movedTo_state (s : Session σ) (target : RunState) :
    (s.movedTo target).world.state = target := rfl

@[simp] theorem Session.movedTo_environment (s : Session σ) (target : RunState) :
    (s.movedTo target).world.environment = s.world.environment := rfl

@[simp] theorem Session.movedTo_past (s : Session σ) (target : RunState) :
    (s.movedTo target).past =
      s.past ++ [⟨.moved s.world.state target, target, s.world.environment⟩] := rfl

def Session.reported (s : Session σ) (d : Diagnostic) : Session σ :=
  Session.noted
    { s with world := { s.world with environment := s.world.environment.report d } } (.reported d)

def Session.emptied (s : Session σ) : Session σ :=
  Session.noted
    { s with world.environment.pending := [] } (.taken s.world.environment.pending)

@[simp] theorem Session.emptied_past (s : Session σ) :
    s.emptied.past = s.past ++ [⟨.taken s.world.environment.pending, s.world.state,
      { s.world.environment with pending := [] }⟩] := rfl

namespace Play

/-! ## Taking plays apart -/

theorem bind_eq_some_iff {m : Play σ α} {next : α → Play σ β} {s s' : Session σ}
    {r : Except Fault β} :
    (m >>= next) s = some (r, s') ↔
      (∃ f, m s = some (.error f, s') ∧ r = .error f) ∨
      ∃ a t, m s = some (.ok a, t) ∧ next a t = some (r, s') := by
  rw [bind_apply]
  match m s with
  | none => simp
  | some (.error f, t) =>
      simp only [Option.some.injEq, Prod.mk.injEq, Except.error.injEq, reduceCtorEq, false_and,
        exists_false, or_false]
      constructor
      · rintro ⟨rfl, rfl⟩
        exact ⟨f, ⟨rfl, rfl⟩, rfl⟩
      · rintro ⟨_, ⟨rfl, rfl⟩, rfl⟩
        exact ⟨rfl, rfl⟩
  | some (.ok a, t) =>
      simp only [Option.some.injEq, Prod.mk.injEq, reduceCtorEq, false_and, exists_false,
        Except.ok.injEq, false_or]
      constructor
      · intro h
        exact ⟨a, t, ⟨rfl, rfl⟩, h⟩
      · rintro ⟨_, _, ⟨rfl, rfl⟩, h⟩
        exact h

theorem attempt_bind_eq_some_iff {m : Play σ α} {next : Except Fault α → Play σ β}
    {s s' : Session σ} {r : Except Fault β} :
    (m.attempt >>= next) s = some (r, s') ↔ ∃ q t, m s = some (q, t) ∧ next q t = some (r, s') := by
  rw [bind_apply, attempt]
  match m s with
  | none => simp
  | some (q, t) =>
      simp only [Option.some.injEq, Prod.mk.injEq]
      constructor
      · intro h
        exact ⟨q, t, ⟨rfl, rfl⟩, h⟩
      · rintro ⟨_, _, ⟨rfl, rfl⟩, h⟩
        exact h

theorem note_bind (h : Happening) (next : Unit → Play σ β) (s : Session σ) :
    (note h >>= next) s = next () (s.noted h) := rfl

theorem session_bind (next : Session σ → Play σ β) (s : Session σ) :
    (session >>= next) s = next s s := rfl

theorem move_bind (target : RunState) (next : Unit → Play σ β) (s : Session σ) :
    (move target >>= next) s = next () (s.movedTo target) := rfl

theorem take_bind (next : List Diagnostic → Play σ β) (s : Session σ) :
    (take >>= next) s = next s.world.environment.pending s.emptied := rfl

/-- To put a line shows something more, if anything, and succeeds if the line can be written. -/
theorem exists_put (line : Console → Except Markup.Defect String) (s : Session σ) :
    ∃ r more, put line s = some (r, { s with terminal := s.terminal.show more }) ∧
      ∀ {text}, line s.terminal.console = .ok text → r = .ok () := by
  cases h : line s.terminal.console with
  | ok text => exact ⟨.ok (), text, by rw [put, h], fun _ => rfl⟩
  | error defect =>
      have hsame : s.terminal.show "" = s.terminal := by rw [Terminal.show, String.append_empty]
      exact ⟨.error (.illMarked defect), "", by rw [put, h, hsame], nofun⟩

/-! ## Keeping a relation -/

/-- Whenever the play ends, in a fault or not, the sessions before and after it are related. -/
def Keeps (R : Session σ → Session σ → Prop) (m : Play σ α) : Prop :=
  ∀ s r s', m s = some (r, s') → R s s'

section
variable {R : Session σ → Session σ → Prop}

theorem Keeps.pure (hrefl : ∀ s, R s s) (a : α) : Keeps R (Pure.pure a : Play σ α) := by
  intro s r s' h
  cases h
  exact hrefl s

theorem Keeps.fault (hrefl : ∀ s, R s s) (f : Fault) : Keeps R (Play.fault f : Play σ α) := by
  intro s r s' h
  cases h
  exact hrefl s

theorem Keeps.endless : Keeps R (Play.endless : Play σ α) := fun _ _ _ h => nomatch h

theorem Keeps.session (hrefl : ∀ s, R s s) : Keeps R (Play.session : Play σ (Session σ)) := by
  intro s r s' h
  cases h
  exact hrefl s

theorem Keeps.modify {f : Session σ → Session σ} (hf : ∀ s, R s (f s)) :
    Keeps R (Play.modify f) := by
  intro s r s' h
  cases h
  exact hf s

theorem Keeps.bind (htrans : ∀ s t u, R s t → R t u → R s u) {m : Play σ α} {next : α → Play σ β}
    (hm : Keeps R m) (hnext : ∀ a, Keeps R (next a)) : Keeps R (m >>= next) := by
  intro s r s' h
  rcases bind_eq_some_iff.mp h with ⟨f, h, -⟩ | ⟨a, t, h, h'⟩
  · exact hm s _ s' h
  · exact htrans s t s' (hm s _ t h) (hnext a t r s' h')

theorem Keeps.mono {R' : Session σ → Session σ → Prop} (hR : ∀ s s', R s s' → R' s s')
    {m : Play σ α} (hm : m.Keeps R) : m.Keeps R' := fun s r s' h => hR s s' (hm s r s' h)

theorem Keeps.attempt {m : Play σ α} (hm : Keeps R m) : Keeps R m.attempt := by
  intro s r s' h
  unfold Play.attempt at h
  split at h
  · exact nomatch h
  · next q t hq =>
      cases h
      exact hm s q _ hq

end

end Play

/-! ## Behaviours that leave the pipeline alone -/

/-- Whatever comes of its steps, the behaviour does not run the pipeline. -/
def Behaviour.NeverRuns : Behaviour σ → Prop
  | .done _ => True
  | .fail _ => True
  | .act _ next => ∀ w, (next w).NeverRuns
  | .report _ next => next.NeverRuns
  | .say _ next => ∀ r, (next r).NeverRuns
  | .flush next => ∀ r, (next r).NeverRuns
  | .run _ => False

/-- None of the collaborators runs the pipeline. -/
structure Collaborators.NeverRun (c : Collaborators σ) : Prop where
  compile : ∀ documents, (c.compile documents).NeverRuns
  execute : ∀ selection, (c.execute selection).NeverRuns
  onError : ∀ onError, c.onError = some onError → ∀ headline, (onError headline).NeverRuns
  write : ∀ d, (c.write d).NeverRuns

/-! ## Relations that collaborators keep -/

/-- What the pipeline does by itself, as against what collaborators do and what a flush does. -/
def Happening.isOwn : Happening → Bool
  | .compileCalled _ | .compileReturned _ | .compileFaulted _ => true
  | .executeCalled _ | .executeReturned _ | .executeFaulted _ => true
  | .errorCalled _ | .errorReturned | .errorFaulted _ => true
  | .closing | .moved _ _ | .noTemplates => true
  | .reported _ | .taken _ | .writing _ | .written _ | .dropped _ => false

/-- Each single thing that a collaborator does by itself keeps the relation. -/
structure ActLaw (R : Session σ → Session σ → Prop) : Prop where
  refl : ∀ s, R s s
  trans : ∀ s t u, R s t → R t u → R s u
  touch : ∀ s change, R s { s with world := s.world.touch change }
  reported : ∀ s d, R s (s.reported d)
  shown : ∀ s text, R s { s with terminal := s.terminal.show text }

/-- Each single step of a flush keeps the relation as well. -/
structure StepLaw (R : Session σ → Session σ → Prop) : Prop extends ActLaw R where
  emptied : ∀ s, R s s.emptied
  noted : ∀ s h, h.isOwn = false → R s (s.noted h)

section
variable {R : Session σ → Session σ → Prop}

namespace ActLaw

variable (hR : ActLaw R)
include hR

theorem report (d : Diagnostic) : Play.Keeps R (Play.report d) := by
  intro s r s' h
  cases h
  exact hR.reported s d

theorem say (notice : Console.Notice) : Play.Keeps R (Play.say notice) := by
  intro s r s' h
  obtain ⟨q, more, hput, -⟩ := Play.exists_put (·.write notice) s
  cases hput.symm.trans h
  exact hR.shown s more

theorem discarding {call : Play σ Bool} (hcall : call.Keeps R) :
    Play.Keeps R (call >>= fun _ => pure ()) :=
  .bind hR.trans hcall fun _ => .pure hR.refl ()

end ActLaw

namespace StepLaw

variable (hR : StepLaw R)
include hR

theorem take : Play.Keeps R Play.take := by
  intro s r s' h
  cases h
  exact hR.emptied s

theorem note {h : Happening} (hown : h.isOwn = false) : Play.Keeps R (Play.note h) :=
  .modify fun s => hR.noted s h hown

end StepLaw

end

section
variable {R : Session σ → Session σ → Prop}

/-- A relation of states and pasts is kept by each step if it is kept by what is noted. -/
theorem StepLaw.of_noted
    (hpast : ∀ s s', s'.world.state = s.world.state → s'.past = s.past → R s s')
    (htrans : ∀ s t u, R s t → R t u → R s u)
    (hnoted : ∀ s h, h.isOwn = false → R s (s.noted h)) : StepLaw R where
  refl s := hpast s s rfl rfl
  trans := htrans
  touch s _ := hpast s _ rfl rfl
  reported s d :=
    htrans s { s with world := { s.world with environment := s.world.environment.report d } } _
      (hpast _ _ rfl rfl) (hnoted _ _ rfl)
  shown s _ := hpast s _ rfl rfl
  emptied s :=
    htrans s { s with world.environment.pending := [] } _ (hpast _ _ rfl rfl) (hnoted _ _ rfl)
  noted := hnoted

/-- One call of a collaborator.  The induction is on what it does. -/
theorem keeps_act (hR : ActLaw R) {r : Reentry σ} (hflush : r.flush.Keeps R) {b : Behaviour σ}
    (hrun : b.NeverRuns ∨ r.run.Keeps R) : (act r b).Keeps R := by
  induction b with
  | done verdict => exact .pure hR.refl verdict
  | fail f => exact .fault hR.refl f
  | act change next ih =>
      refine .bind hR.trans (.modify fun s => hR.touch s _) fun _ => ?_
      refine .bind hR.trans (.session hR.refl) fun s => ih s.world ?_
      exact hrun.imp_left fun h => h s.world
  | report d next ih => exact .bind hR.trans (hR.report d) fun _ => ih hrun
  | say notice next ih =>
      refine .bind hR.trans (.attempt (hR.say notice)) fun q => ih q ?_
      exact hrun.imp_left fun h => h q
  | flush next ih =>
      refine .bind hR.trans (.attempt hflush) fun q => ih q ?_
      exact hrun.imp_left fun h => h q
  | run next ih =>
      have hrun : r.run.Keeps R := hrun.resolve_left id
      exact .bind hR.trans (.attempt hrun) fun q => ih q (.inr hrun)

theorem keeps_writeAll (hR : StepLaw R) {write : Diagnostic → Play σ Unit}
    (hwrite : ∀ d, (write d).Keeps R) : ∀ batch, (writeAll write batch).Keeps R
  | [] => .pure hR.refl ()
  | d :: rest => by
      refine .bind hR.trans (hR.note rfl) fun _ => ?_
      refine .bind hR.trans (.attempt (hwrite d)) fun q => ?_
      match q with
      | .ok () => exact .bind hR.trans (hR.note rfl) fun _ => keeps_writeAll hR hwrite rest
      | .error f => exact .bind hR.trans (hR.note rfl) fun _ => .fault hR.refl f

theorem keeps_flushWith (hR : StepLaw R) {write : Diagnostic → Play σ Unit}
    (hwrite : ∀ d, (write d).Keeps R) : (flushWith write).Keeps R :=
  .bind hR.trans hR.take (keeps_writeAll hR hwrite)

/-- The induction is on how deep flushes may be nested. -/
theorem keeps_flush (hR : StepLaw R) {p : Pipeline σ}
    (hwrite : ∀ d, (p.collaborators.write d).NeverRuns) :
    ∀ depth, (p.reentry depth).flush.Keeps R
  | 0 => .endless
  | depth + 1 =>
      keeps_flushWith hR fun d => hR.discarding
        (keeps_act hR.toActLaw (keeps_flush hR hwrite depth) (.inl (hwrite d)))

end

end TemplateRun
