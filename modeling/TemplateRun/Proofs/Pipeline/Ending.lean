/-
# `Ending` — plays that come to an end

`EndsIn I Q` says of a play that it comes to an end from every state that `I` allows, in such a
state again, and that it can only end in a fault as `Q` allows.  Two cases are of use everywhere:
`Ends`, where any fault is allowed, and `Succeeds`, where none is.  What `I` is depends on the
collaborators: those that never run the pipeline end from all states, and the others at least from
those that are not ready, since there a run is refused.

A run is put together from its calls and its flush (`ends_planLaw`): what it can end in is what its
calls can end in, if the flush succeeds.
-/
import TemplateRun.Proofs.Pipeline.Plan

namespace TemplateRun

variable {σ α β : Type}

namespace Play

/-- From a state that is allowed the play comes to an end in such a state, and if it is a fault, it
is one that is allowed. -/
def EndsIn (I : RunState → Prop) (Q : Fault → Session σ → Prop) (m : Play σ α) : Prop :=
  ∀ s, I s.world.state → ∃ r s', m s = some (r, s') ∧ I s'.world.state ∧ ∀ f, r = .error f → Q f s'

/-- The play comes to an end. -/
def Ends (I : RunState → Prop) (m : Play σ α) : Prop := m.EndsIn I fun _ _ => True

/-- The play comes to an end, and not in a fault. -/
def Succeeds (I : RunState → Prop) (m : Play σ α) : Prop := m.EndsIn I fun _ _ => False

section
variable {I : RunState → Prop} {Q : Fault → Session σ → Prop} {m : Play σ α}

theorem EndsIn.mono {Q' : Fault → Session σ → Prop} (hQ : ∀ f s, Q f s → Q' f s)
    (h : m.EndsIn I Q) : m.EndsIn I Q' := by
  intro s hs
  obtain ⟨r, s', hm, hs', hr⟩ := h s hs
  exact ⟨r, s', hm, hs', fun f hf => hQ f s' (hr f hf)⟩

theorem Succeeds.endsIn (h : m.Succeeds I) : m.EndsIn I Q := h.mono fun _ _ => False.elim

theorem EndsIn.ends (h : m.EndsIn I Q) : m.Ends I := h.mono fun _ _ _ => trivial

theorem succeeds_of_apply
    (h : ∀ s, ∃ a s', m s = some (.ok a, s') ∧ s'.world.state = s.world.state) :
    m.Succeeds I := by
  intro s hs
  obtain ⟨a, s', hm, hstate⟩ := h s
  exact ⟨.ok a, s', hm, hstate ▸ hs, fun _ hf => nomatch hf⟩

theorem Succeeds.apply (h : m.Succeeds I) {s : Session σ} (hs : I s.world.state) :
    ∃ a s', m s = some (.ok a, s') ∧ I s'.world.state := by
  obtain ⟨r, s', hm, hs', hr⟩ := h s hs
  cases r with
  | ok a => exact ⟨a, s', hm, hs'⟩
  | error f => exact (hr f rfl).elim

theorem succeeds_pure (a : α) : (pure a : Play σ α).Succeeds I :=
  succeeds_of_apply fun s => ⟨a, s, rfl, rfl⟩

theorem succeeds_session : (session : Play σ (Session σ)).Succeeds I :=
  succeeds_of_apply fun s => ⟨s, s, rfl, rfl⟩

theorem succeeds_note (h : Happening) : (note h : Play σ Unit).Succeeds I :=
  succeeds_of_apply fun s => ⟨(), s.noted h, rfl, rfl⟩

theorem succeeds_move {target : RunState} (h : I target) :
    (move target : Play σ Unit).Succeeds I := fun s _ =>
  ⟨.ok (), s.movedTo target, rfl, h, fun _ hf => nomatch hf⟩

theorem ends_fault (f : Fault) : (Play.fault f : Play σ α).Ends I := fun s hs =>
  ⟨_, s, rfl, hs, fun _ _ => trivial⟩

theorem EndsIn.bind {next : α → Play σ β} (hm : m.EndsIn I Q)
    (hnext : ∀ a, (next a).EndsIn I Q) : (m >>= next).EndsIn I Q := by
  intro s hs
  obtain ⟨r, t, hm, ht, hr⟩ := hm s hs
  rw [bind_apply, hm]
  cases r with
  | ok a => exact hnext a t ht
  | error f =>
      refine ⟨_, t, rfl, ht, fun f' hf => ?_⟩
      cases hf
      exact hr f rfl

theorem Ends.attempt (h : m.Ends I) : m.attempt.Succeeds I := by
  intro s hs
  obtain ⟨r, t, hm, ht, -⟩ := h s hs
  refine ⟨.ok r, t, ?_, ht, fun _ hf => nomatch hf⟩
  rw [Play.attempt, hm]

theorem ends_say (notice : Console.Notice) : (say notice : Play σ Unit).Ends I := by
  intro s hs
  obtain ⟨r, more, hput, -⟩ := exists_put (·.write notice) s
  exact ⟨r, _, hput, hs, fun _ _ => trivial⟩

end

end Play

section
variable {I : RunState → Prop}

/-! ## Calls and flushes -/

/-- One call of a collaborator.  The induction is on what it does. -/
theorem act_ends {r : Reentry σ} (hflush : r.flush.Ends I) {b : Behaviour σ}
    (hrun : b.NeverRuns ∨ r.run.Ends I) : (act r b).Ends I := by
  induction b with
  | done verdict => exact (Play.succeeds_pure verdict).endsIn
  | fail f => exact Play.ends_fault f
  | act change next ih =>
      have hchange : (Play.modify fun s : Session σ =>
          { s with world := s.world.touch (change s.world) }).Succeeds I :=
        Play.succeeds_of_apply fun s => ⟨(), _, rfl, rfl⟩
      refine hchange.endsIn.bind fun _ => Play.succeeds_session.endsIn.bind fun s => ih s.world ?_
      exact hrun.imp_left fun h => h s.world
  | report d next ih =>
      have hreport : (Play.report d : Play σ Unit).Succeeds I :=
        Play.succeeds_of_apply fun s => ⟨(), s.reported d, rfl, rfl⟩
      exact hreport.endsIn.bind fun _ => ih hrun
  | say notice next ih =>
      exact (Play.ends_say notice).attempt.endsIn.bind fun q => ih q (hrun.imp_left fun h => h q)
  | flush next ih =>
      exact hflush.attempt.endsIn.bind fun q => ih q (hrun.imp_left fun h => h q)
  | run next ih =>
      have hrun : r.run.Ends I := hrun.resolve_left id
      exact hrun.attempt.endsIn.bind fun q => ih q (.inr hrun)

theorem writeAll_succeeds {write : Diagnostic → Play σ Unit}
    (hwrite : ∀ d, (write d).Succeeds I) : ∀ batch, (writeAll write batch).Succeeds I
  | [] => Play.succeeds_pure ()
  | d :: rest => by
      intro s hs
      obtain ⟨⟨⟩, t, hd, ht⟩ := (hwrite d).apply (s := s.noted (.writing d)) hs
      obtain ⟨q, s', hrest, hs', hq⟩ := writeAll_succeeds hwrite rest (t.noted (.written d)) ht
      refine ⟨q, s', ?_, hs', hq⟩
      rw [writeAll, Play.note_bind, Play.attempt_bind_eq_some_iff]
      exact ⟨_, t, hd, hrest⟩

theorem flushWith_succeeds {write : Diagnostic → Play σ Unit}
    (hwrite : ∀ d, (write d).Succeeds I) : (flushWith write).Succeeds I := by
  have htake : (Play.take : Play σ (List Diagnostic)).Succeeds I :=
    Play.succeeds_of_apply fun s => ⟨s.world.environment.pending, s.emptied, rfl, rfl⟩
  exact htake.bind fun batch => writeAll_succeeds hwrite batch

/-! ## Runs -/

variable {p : Pipeline σ} {perform : Behaviour σ → Play σ Bool} {flush : Play σ Unit}
  {Q : Fault → Session σ → Prop}

/-- A call that faults has it noted at once. -/
theorem Call.play_endsIn {k : Call} (hperform : ∀ b, k.behaviour? p = some b →
    (perform b).EndsIn I fun f t => Q f (t.noted (k.faulted f))) :
    (k.play p perform).EndsIn I Q := by
  intro s hs
  cases hb : k.behaviour? p with
  | none =>
      rw [play_of_none hb]
      exact ⟨.ok true, s, rfl, hs, fun _ hf => nomatch hf⟩
  | some b =>
      obtain ⟨r, t, ht, hstate, hr⟩ := hperform b hb (s.noted (k.called p.documents)) hs
      refine ⟨r, t.noted (k.came r), ?_, hstate, ?_⟩
      · rw [play_apply hb, ht]
        rfl
      · rintro f rfl
        exact hr f rfl

theorem close_succeeds (hflush : flush.Succeeds I) : (close flush).Succeeds I := by
  refine (Play.succeeds_note _).bind fun _ => hflush.bind fun _ => ?_
  exact Play.succeeds_session.bind fun s => Play.succeeds_pure _

/-- What a plan can end in is what its calls can end in. -/
theorem ends_planLaw (hI : ∀ target, target ≠ .ready → I target)
    (hcall : ∀ k : Call, (k.play p perform).EndsIn I Q) (hflush : flush.Succeeds I) :
    PlanLaw p perform perform flush flush fun m _ => m.EndsIn I Q where
  close := (close_succeeds hflush).endsIn
  call k _ _ hnext := (hcall k).bind hnext
  move target _ _ hleft hm := (Play.succeeds_move (hI target hleft)).endsIn.bind fun _ => hm
  warn hm := (Play.succeeds_note _).endsIn.bind fun _ => hm
  look hnext := Play.succeeds_session.endsIn.bind fun s => hnext s.world.environment

end

end TemplateRun
