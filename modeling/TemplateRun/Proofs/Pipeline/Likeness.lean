/-
# `Likeness` — what a pipeline does depends on its world alone

Collaborators see the world and nothing else: not the past, and not what the user has been shown.
So two sessions in one world go the same way.  That is a statement about two runs, and it is made
for any relation `R` that puts sessions of one world side by side and is kept when the same is done
in both (`Likeness R`).  A play respects `R` if from sessions that it relates the play comes to the
same answer and to such sessions again, or to no end in both (`Play.Respects`); a pipeline does,
whatever its collaborators do (`reentry_respects`).

The relation that is of use for runs one after the other is to have more behind one: an earlier past
and an earlier screen (`Session.behind`).  Hence the frame rule for runs (`run_behind`), by which a
pipeline runs in any session as it would in one where nothing has happened (`run_eq_afresh`).
-/
import TemplateRun.Proofs.Pipeline.Plan

namespace TemplateRun

variable {σ α β : Type}

/-! ## Plays that respect a relation -/

/-- Two plays have come to the same answer in related sessions, or both to no end. -/
inductive EndAlike (R : Session σ → Session σ → Prop) :
    (q q' : Option (Except Fault α × Session σ)) → Prop
  | endless : EndAlike R none none
  | ended {r : Except Fault α} {s t : Session σ} :
      R s t → EndAlike R (some (r, s)) (some (r, t))

/-- From related sessions the play comes to the same answer and to related sessions, or to no end in
both. -/
def Play.Respects (R : Session σ → Session σ → Prop) (m : Play σ α) : Prop :=
  ∀ s t, R s t → EndAlike R (m s) (m t)

/-- Related sessions have one world, and stay related when the same is done in both. -/
structure Likeness (R : Session σ → Session σ → Prop) : Prop where
  world : ∀ s t, R s t → s.world = t.world
  changed : ∀ s t, R s t → ∀ f : World σ → World σ,
    R { s with world := f s.world } { t with world := f t.world }
  noted : ∀ s t, R s t → ∀ h, R (s.noted h) (t.noted h)
  say : ∀ notice, (Play.say notice).Respects R

namespace Play

variable {R : Session σ → Session σ → Prop}

theorem Respects.pure (a : α) : (Pure.pure a : Play σ α).Respects R := fun _ _ h => .ended h

theorem Respects.fault (f : Fault) : (Play.fault f : Play σ α).Respects R := fun _ _ h => .ended h

theorem Respects.ofExcept (q : Except Fault α) : (Play.ofExcept q : Play σ α).Respects R := by
  cases q with
  | ok a => exact .pure a
  | error f => exact .fault f

theorem Respects.endless : (Play.endless : Play σ α).Respects R := fun _ _ _ => .endless

theorem Respects.modify {f : Session σ → Session σ} (hf : ∀ s t, R s t → R (f s) (f t)) :
    (Play.modify f).Respects R := fun s t h => .ended (hf s t h)

theorem Respects.bind {m : Play σ α} {next : α → Play σ β} (hm : m.Respects R)
    (hnext : ∀ a, (next a).Respects R) : (m >>= next).Respects R := by
  intro s t h
  have hends := hm s t h
  rw [bind_apply, bind_apply]
  generalize m s = q, m t = q' at hends ⊢
  cases hends with
  | endless => exact .endless
  | @ended r _ _ hlike =>
      cases r with
      | error f => exact .ended hlike
      | ok a => exact hnext a _ _ hlike

theorem Respects.attempt {m : Play σ α} (hm : m.Respects R) : m.attempt.Respects R := by
  intro s t h
  have hends := hm s t h
  rw [Play.attempt, Play.attempt]
  generalize m s = q, m t = q' at hends ⊢
  cases hends with
  | endless => exact .endless
  | ended hlike => exact .ended hlike

section
variable (hR : Likeness R)
include hR

theorem respects_note (h : Happening) : (Play.note h : Play σ Unit).Respects R :=
  .modify fun s t hlike => hR.noted s t hlike h

theorem respects_session {next : Session σ → Play σ β}
    (hworld : ∀ s t, s.world = t.world → next s = next t) (hnext : ∀ s, (next s).Respects R) :
    (Play.session >>= next).Respects R := by
  intro s t h
  rw [Play.session_bind, Play.session_bind, ← hworld s t (hR.world s t h)]
  exact hnext s s t h

theorem respects_report (d : Diagnostic) : (Play.report d : Play σ Unit).Respects R := by
  refine .bind (.modify fun s t h => ?_) fun _ => respects_note hR _
  exact hR.changed s t h fun w => { w with environment := w.environment.report d }

theorem respects_take : (Play.take : Play σ (List Diagnostic)).Respects R := by
  refine respects_session hR (fun s t h => by rw [h]) fun s => .bind (.modify fun s t h => ?_) ?_
  · exact hR.changed s t h fun w => { w with environment := { w.environment with pending := [] } }
  · exact fun _ => .bind (respects_note hR _) fun _ => .pure _

theorem respects_move (target : RunState) : (Play.move target : Play σ Unit).Respects R := by
  refine respects_session hR (fun s t h => by rw [h]) fun s => .bind (.modify fun s t h => ?_) ?_
  · exact hR.changed s t h fun w => { w with state := target }
  · exact fun _ => respects_note hR _

end

end Play

/-! ## Collaborators and flushes -/

section
variable {R : Session σ → Session σ → Prop} (hR : Likeness R)
include hR

/-- One call of a collaborator.  The induction is on what it does. -/
theorem act_respects {r : Reentry σ} (hflush : r.flush.Respects R) (hrun : r.run.Respects R)
    (b : Behaviour σ) : (act r b).Respects R := by
  induction b with
  | done verdict => exact .pure verdict
  | fail f => exact .fault f
  | act change next ih =>
      refine .bind (.modify fun s t h => ?_) fun _ => ?_
      · exact hR.changed s t h fun w => w.touch (change w)
      · exact Play.respects_session hR (fun s t h => by rw [h]) fun s => ih s.world
  | report d next ih => exact .bind (Play.respects_report hR d) fun _ => ih
  | say notice next ih => exact .bind (.attempt (hR.say notice)) ih
  | flush next ih => exact .bind (.attempt hflush) ih
  | run next ih => exact .bind (.attempt hrun) ih

theorem writeAll_respects {write : Diagnostic → Play σ Unit} (hwrite : ∀ d, (write d).Respects R)
    (batch : List Diagnostic) : (writeAll write batch).Respects R := by
  induction batch with
  | nil => exact .pure ()
  | cons d rest ih =>
      refine .bind (Play.respects_note hR (.writing d)) fun _ => ?_
      refine .bind (.attempt (hwrite d)) fun q => ?_
      cases q with
      | ok => exact .bind (Play.respects_note hR (.written d)) fun _ => ih
      | error f => exact .bind (Play.respects_note hR (.dropped rest)) fun _ => .fault f

theorem flushWith_respects {write : Diagnostic → Play σ Unit} (hwrite : ∀ d, (write d).Respects R) :
    (flushWith write).Respects R :=
  .bind (Play.respects_take hR) (writeAll_respects hR hwrite)

/-! ## Runs -/

variable {p : Pipeline σ} {perform : Behaviour σ → Play σ Bool} {flush : Play σ Unit}

theorem Call.play_respects (hperform : ∀ b, (perform b).Respects R) (k : Call) :
    (k.play p perform).Respects R := by
  rw [Call.play]
  cases k.behaviour? p with
  | none => exact .pure true
  | some b =>
      refine .bind (Play.respects_note hR _) fun _ => .bind (.attempt (hperform b)) fun q => ?_
      cases q with
      | ok verdict => exact .bind (Play.respects_note hR _) fun _ => .pure verdict
      | error f => exact .bind (Play.respects_note hR _) fun _ => .fault f

theorem respects_planLaw (hperform : ∀ b, (perform b).Respects R) (hflush : flush.Respects R) :
    PlanLaw p perform perform flush flush fun m _ => m.Respects R where
  close := .bind (Play.respects_note hR .closing) fun _ => .bind hflush fun _ =>
    Play.respects_session hR (fun s t h => by rw [h]) fun _ => .pure _
  call k _ _ hnext := .bind (k.play_respects hR hperform) hnext
  move target _ _ _ hm := .bind (Play.respects_move hR target) fun _ => hm
  warn hm := .bind (Play.respects_note hR .noTemplates) fun _ => hm
  look hnext :=
    Play.respects_session hR (fun s t h => by rw [h]) fun s => hnext s.world.environment

theorem runWith_respects (hperform : ∀ b, (perform b).Respects R) (hflush : flush.Respects R) :
    (runWith p.collaborators p.documents perform flush).Respects R := by
  have hlaw := respects_planLaw (p := p) hR hperform hflush
  intro s t h
  rw [Plan.runWith_eq, Plan.runWith_eq, ← hR.world s t h]
  split
  · exact hlaw.play .compiling s t h
  · exact .ended h

/-- What can be asked of a pipeline respects the relation.  The induction is on how deep
collaborators go. -/
theorem reentry_respects (p : Pipeline σ) (depth : Nat) :
    (p.reentry depth).flush.Respects R ∧ (p.reentry depth).run.Respects R := by
  induction depth with
  | zero => exact ⟨.endless, .endless⟩
  | succ depth ih =>
      obtain ⟨hflush, hrun⟩ := ih
      have hperform := act_respects hR hflush hrun
      have hflush' : (p.reentry (depth + 1)).flush.Respects R :=
        flushWith_respects hR fun d => .bind (hperform _) fun _ => .pure ()
      exact ⟨hflush', runWith_respects hR hperform hflush'⟩

end

/-! ## More behind a session -/

/-- The session with an earlier past and an earlier screen. -/
def Session.behind (before : List Moment) (text : String) (s : Session σ) : Session σ where
  world := s.world
  past := before ++ s.past
  terminal := { s.terminal with shown := text ++ s.terminal.shown }

section
variable (before : List Moment) (text : String)

theorem noted_behind (s : Session σ) (h : Happening) :
    (s.behind before text).noted h = (s.noted h).behind before text := by
  rw [Session.noted, Session.noted, Session.behind, Session.behind, List.append_assoc]
  cases hrecord : h.record? with
  | none => rfl
  | some r =>
      have hshown : text ++ s.terminal.shown ++ s.terminal.log.emit r =
          text ++ (s.terminal.shown ++ s.terminal.log.emit r) := String.append_assoc
      simp only [Terminal.record, Terminal.show, hshown]

theorem say_behind (notice : Console.Notice) (s : Session σ) :
    Play.say notice (s.behind before text) =
      (Play.say notice s).map fun q => (q.1, q.2.behind before text) := by
  rw [Play.say, Play.put, Play.put, Session.behind]
  cases s.terminal.console.write notice with
  | error defect => rfl
  | ok line =>
      have hshown : text ++ s.terminal.shown ++ line = text ++ (s.terminal.shown ++ line) :=
        String.append_assoc
      simp only [Terminal.show, Option.map_some, Session.behind, hshown]

theorem likeness_behind : Likeness fun s t : Session σ => t = s.behind before text where
  world s t h := by
    subst h
    rfl
  changed s t h f := by
    subst h
    rfl
  noted s t h x := by
    subst h
    exact noted_behind before text s x
  say notice s t h := by
    subst h
    rw [say_behind]
    cases Play.say notice s with
    | none => exact .endless
    | some q => exact .ended rfl

/-- A run leaves what is behind it alone, and does not depend on it. -/
theorem run_behind (p : Pipeline σ) (depth : Nat) (s : Session σ) :
    (p.reentry depth).run (s.behind before text) =
      ((p.reentry depth).run s).map fun q => (q.1, q.2.behind before text) := by
  obtain ⟨-, hrun⟩ := reentry_respects (likeness_behind before text) p depth
  have hends := hrun s _ rfl
  generalize (p.reentry depth).run s = q, (p.reentry depth).run (s.behind before text) = q'
    at hends ⊢
  cases hends with
  | endless => rfl
  | ended h =>
      subst h
      rfl

end

/-- The session in the same world in which nothing has happened and nothing is to be read. -/
def Session.afresh (s : Session σ) : Session σ where
  world := s.world
  past := []
  terminal := { s.terminal with shown := "" }

theorem Session.behind_afresh (s : Session σ) :
    s.afresh.behind s.past s.terminal.shown = s := by
  rw [Session.behind, Session.afresh, List.append_nil, String.append_empty]

/-- A run goes as it would if it were the first thing to happen. -/
theorem run_eq_afresh (p : Pipeline σ) (depth : Nat) (s : Session σ) :
    (p.reentry depth).run s =
      ((p.reentry depth).run s.afresh).map fun q => (q.1, q.2.behind s.past s.terminal.shown) := by
  rw [← run_behind, s.behind_afresh]

end TemplateRun
