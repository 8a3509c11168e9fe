/-
# `Refusal` — a pipeline that has left the ready state

A run starts only when the pipeline is ready, and nothing leads back to that state.  So there is one
point at which the pipeline leaves it, wherever in nested runs that may be:

    Onward      in a list of states, what comes after a state that is not ready is not ready
    refusing    the pipeline for which running means refusing, without effect, at every depth

Before that point a run can start; from there on the pipeline and the one that refuses are the same
to everyone who asks something of them (`perform_same`).  Whether a refused run was asked for
cannot be seen in the past, since nothing happens then; that is why it is said of plays.
-/
import TemplateRun.Proofs.Pipeline.Nesting

namespace TemplateRun

variable {σ α β : Type}

/-! ## Refusing -/

def refuse : Play σ RunState := fun s => some (.error (.alreadyRan s.world.state), s)

/-- What can be asked of the pipeline when it refuses every run, also from inside its writer. -/
def Pipeline.refusing (p : Pipeline σ) : (depth : Nat) → Reentry σ
  | 0 => ⟨Play.endless, Play.endless⟩
  | depth + 1 =>
    let perform := act (p.refusing depth)
    ⟨flushWith fun d => do
      let _ ← perform (p.collaborators.write d), refuse⟩

/-- A pipeline that refuses every run keeps what the single steps of a flush keep.  The induction
is on how deep flushes may be nested. -/
theorem keeps_refusing {R : Session σ → Session σ → Prop} (hR : StepLaw R) (p : Pipeline σ) :
    ∀ depth, (p.refusing depth).flush.Keeps R ∧ (p.refusing depth).run.Keeps R ∧
      ∀ b, (act (p.refusing depth) b).Keeps R := by
  have hact {r : Reentry σ} (hflush : r.flush.Keeps R) (hrun : r.run.Keeps R) (b : Behaviour σ) :
      (act r b).Keeps R := keeps_act hR.toActLaw hflush (.inr hrun)
  intro depth
  induction depth with
  | zero => exact ⟨.endless, .endless, hact .endless .endless⟩
  | succ depth ih =>
      obtain ⟨-, -, hperform⟩ := ih
      have hflush : (p.refusing (depth + 1)).flush.Keeps R :=
        keeps_flushWith hR fun d => hR.discarding (hperform _)
      have hrun : (p.refusing (depth + 1)).run.Keeps R := by
        intro s r s' h
        cases h
        exact hR.refl s
      exact ⟨hflush, hrun, hact hflush hrun⟩

/-- If the pipeline was not ready before, it is not ready after. -/
def StaysLeft (s s' : Session σ) : Prop := s.world.state ≠ .ready → s'.world.state ≠ .ready

theorem StaysLeft.of_eq {s s' : Session σ} (h : s'.world.state = s.world.state) :
    StaysLeft s s' := by
  intro hs
  rwa [h]

theorem Traverses.staysLeft {p : Pipeline σ} {s s' : Session σ} (h : Traverses p s s') :
    StaysLeft s s' := by
  intro hs
  rwa [(h.silent hs).1]

theorem staysLeft_stepLaw : StepLaw (@StaysLeft σ) :=
  .of_noted (fun _ _ hstate _ => .of_eq hstate) (fun _ _ _ h h' hs => h' (h hs))
    fun _ _ _ => .of_eq rfl

namespace Play

theorem Keeps.staysLeft {p : Pipeline σ} {m : Play σ α} (h : m.Keeps (Traverses p)) :
    m.Keeps StaysLeft := fun s r s' hm => (h s r s' hm).staysLeft

/-- The two plays are the same in every session in which the pipeline is not ready. -/
def SameOnceLeft (m m' : Play σ α) : Prop := ∀ s, s.world.state ≠ .ready → m s = m' s

theorem SameOnceLeft.refl (m : Play σ α) : m.SameOnceLeft m := fun _ _ => rfl

theorem SameOnceLeft.attempt {m m' : Play σ α} (h : m.SameOnceLeft m') :
    m.attempt.SameOnceLeft m'.attempt := by
  intro s hs
  rw [Play.attempt, Play.attempt, h s hs]

theorem SameOnceLeft.bind {m m' : Play σ α} {next next' : α → Play σ β}
    (hkeeps : m.Keeps StaysLeft) (hm : m.SameOnceLeft m')
    (hnext : ∀ a, (next a).SameOnceLeft (next' a)) :
    (m >>= next).SameOnceLeft (m' >>= next') := by
  intro s hs
  rw [bind_apply, bind_apply, ← hm s hs]
  match h : m s with
  | none => rfl
  | some (.error f, t) => rfl
  | some (.ok a, t) => exact hnext a t (hkeeps s _ t h hs)

end Play

section
variable {r r' : Reentry σ}

theorem act_same (hflush : r.flush.Keeps StaysLeft) (hrun : r.run.Keeps StaysLeft)
    (hflush' : r.flush.SameOnceLeft r'.flush) (hrun' : r.run.SameOnceLeft r'.run)
    (b : Behaviour σ) : (act r b).SameOnceLeft (act r' b) := by
  have hlaw := @staysLeft_stepLaw σ
  induction b with
  | done verdict => exact .refl _
  | fail f => exact .refl _
  | act change next ih =>
      refine .bind (.modify fun s => hlaw.touch s _) (.refl _) fun _ => ?_
      exact .bind (.session hlaw.refl) (.refl _) fun s => ih s.world
  | report d next ih => exact .bind (hlaw.report d) (.refl _) fun _ => ih
  | say notice next ih => exact .bind (.attempt (hlaw.say notice)) (.refl _) ih
  | flush next ih => exact .bind (.attempt hflush) hflush'.attempt ih
  | run next ih => exact .bind (.attempt hrun) hrun'.attempt ih

end

section
variable {write write' : Diagnostic → Play σ Unit}

theorem writeAll_same (hwrite : ∀ d, (write d).Keeps StaysLeft)
    (hwrite' : ∀ d, (write d).SameOnceLeft (write' d)) :
    ∀ batch, (writeAll write batch).SameOnceLeft (writeAll write' batch)
  | [] => .refl _
  | d :: rest => by
      have hlaw := @staysLeft_stepLaw σ
      refine .bind (hlaw.note rfl) (.refl _) fun _ => ?_
      refine .bind (.attempt (hwrite d)) (hwrite' d).attempt fun q => ?_
      cases q with
      | ok =>
          exact .bind (hlaw.note rfl) (.refl _) fun _ =>
            writeAll_same hwrite hwrite' rest
      | error f => exact .refl _

theorem flushWith_same (hwrite : ∀ d, (write d).Keeps StaysLeft)
    (hwrite' : ∀ d, (write d).SameOnceLeft (write' d)) :
    (flushWith write).SameOnceLeft (flushWith write') :=
  .bind staysLeft_stepLaw.take (.refl _) (writeAll_same hwrite hwrite')

end

theorem reentry_staysLeft (p : Pipeline σ) (depth : Nat) :
    (p.reentry depth).flush.Keeps StaysLeft ∧ (p.reentry depth).run.Keeps StaysLeft ∧
      ∀ b, (act (p.reentry depth) b).Keeps StaysLeft := by
  obtain ⟨hflush, hrun⟩ := keeps_reentry (traverses_reentryLaw p) depth
  exact ⟨hflush.staysLeft, hrun.staysLeft, fun b => (keeps_traverses p depth b).staysLeft⟩

theorem reentry_same (p : Pipeline σ) : ∀ depth,
    (p.reentry depth).flush.SameOnceLeft (p.refusing depth).flush ∧
      (p.reentry depth).run.SameOnceLeft (p.refusing depth).run
  | 0 => ⟨.refl _, .refl _⟩
  | depth + 1 => by
      obtain ⟨hflush, hrun, hperform⟩ := reentry_staysLeft p depth
      obtain ⟨hflush', hrun'⟩ := reentry_same p depth
      refine ⟨flushWith_same (fun d => ?_) (fun d => ?_), fun s hs => runWith_refused hs⟩
      · exact staysLeft_stepLaw.discarding (hperform _)
      · exact .bind (hperform _) (act_same hflush hrun hflush' hrun' _) fun _ => .refl _

/-- Once the pipeline is not ready, whatever is done to it is what would be done to one that
refuses every run. -/
theorem perform_same (p : Pipeline σ) (depth : Nat) (b : Behaviour σ) :
    (act (p.reentry depth) b).SameOnceLeft (act (p.refusing depth) b) := by
  obtain ⟨hflush, hrun, -⟩ := reentry_staysLeft p depth
  obtain ⟨hflush', hrun'⟩ := reentry_same p depth
  exact act_same hflush hrun hflush' hrun' b

/-! ## Leaving the ready state -/

/-- What comes after a state that is not ready is not ready either. -/
def Onward (states : List RunState) : Prop := states.Pairwise fun a b => a ≠ .ready → b ≠ .ready

/-- The states from `start` on, through what has happened, to `last`. -/
def statesFrom (start : RunState) (past : List Moment) (last : RunState) : List RunState :=
  start :: (past.map Moment.state ++ [last])

section
variable {start next last : RunState} {past more : List Moment}

theorem onward_append (h : Onward (statesFrom start past next))
    (h' : Onward (statesFrom next more last)) : Onward (statesFrom start (past ++ more) last) := by
  unfold Onward statesFrom at *
  rw [← List.cons_append, List.pairwise_append] at h
  obtain ⟨hfront, -, hmeet⟩ := h
  obtain ⟨hleft, hback⟩ := List.pairwise_cons.mp h'
  rw [List.map_append, List.append_assoc, ← List.cons_append, List.pairwise_append]
  refine ⟨hfront, hback, fun a ha b hb hne => ?_⟩
  exact hleft b hb (hmeet a ha next List.mem_cons_self hne)

theorem mem_statesFrom_iff {a : RunState} :
    a ∈ statesFrom start past last ↔ a = start ∨ (∃ m ∈ past, m.state = a) ∨ a = last := by
  simp [statesFrom]

theorem onward_of_stays (h : ∀ m ∈ past, m.state = start) :
    Onward (statesFrom start past start) := by
  have hsame : ∀ a ∈ statesFrom start past start, a = start := by
    intro a ha
    rcases mem_statesFrom_iff.mp ha with rfl | ⟨m, hm, rfl⟩ | rfl
    · rfl
    · exact h m hm
    · rfl
  refine List.pairwise_of_forall_mem_list fun a ha b hb hne => ?_
  rwa [hsame b hb, ← hsame a ha]

theorem onward_of_left (h : ∀ m ∈ past, m.state ≠ .ready) (hlast : last ≠ .ready) :
    Onward (statesFrom start past last) := by
  have hleft : ∀ b ∈ past.map Moment.state ++ [last], b ≠ .ready := by
    intro b hb
    rcases List.mem_append.mp hb with hb | hb
    · obtain ⟨m, hm, rfl⟩ := List.mem_map.mp hb
      exact h m hm
    · rw [List.mem_singleton.mp hb]
      exact hlast
  refine List.pairwise_cons.mpr ⟨fun b hb _ => hleft b hb, ?_⟩
  exact List.pairwise_of_forall_mem_list fun _ _ b hb _ => hleft b hb

end

section
variable {p : Pipeline σ} {c : Collaborators σ} {state last : RunState} {e : Environment}
  {inner past : List Moment} {r : Except Fault RunState}

theorem Abides.left (h : Abides last past) (hlast : last ≠ .ready) :
    ∀ m ∈ past, m.state ≠ .ready := by
  intro m hm
  rw [(h m hm).1]
  exact hlast

theorem Executes.left (h : Executes c e past r last) :
    last ≠ .ready ∧ ∀ m ∈ past, m.state ≠ .ready := by
  have hlast : last ≠ .ready := by cases h <;> exact nofun
  obtain ⟨front, back, rfl, hfront, hback⟩ := h.splits
  refine ⟨hlast, List.forall_mem_append.mpr ⟨fun m hm => ?_, hback.left hlast⟩⟩
  rw [(hfront m hm).1]
  exact nofun

/-- A run that acts on the answer to its compile call leaves the ready state for good. -/
theorem Runs.left (h : Runs p e inner state past r last) : ∃ m rest,
    past = ⟨.compileCalled p.documents, .ready, e⟩ :: (inner ++ m :: rest) ∧ m.state = state ∧
      (rest = [] ∧ last = state ∨ last ≠ .ready ∧ ∀ m ∈ rest, m.state ≠ .ready) := by
  cases h with
  | faulted e' f => exact ⟨_, [], rfl, rfl, .inl ⟨rfl, rfl⟩⟩
  | refused e' hgives =>
      have hfailed : RunState.compileFailed ≠ .ready := nofun
      refine ⟨_, _, rfl, rfl, .inr ⟨hfailed, List.forall_mem_cons.mpr ⟨hfailed, ?_⟩⟩⟩
      exact hgives.abides.left hfailed
  | accepted e' hexecutes =>
      obtain ⟨hlast, hpast⟩ := hexecutes.left
      have hcompiled : RunState.compiled ≠ .ready := nofun
      refine ⟨_, _, rfl, rfl, .inr ⟨hlast, List.forall_mem_cons.mpr ⟨hcompiled, ?_⟩⟩⟩
      exact List.forall_mem_append.mpr ⟨forall_mem_warning hcompiled, hpast⟩

theorem onward_of_runs (hinner : Onward (statesFrom .ready inner state))
    (h : Runs p e inner state past r last) : Onward (statesFrom .ready past last) := by
  have hone (m : Moment) : Onward (statesFrom m.state [m] m.state) :=
    onward_of_stays (List.forall_mem_singleton.mpr rfl)
  obtain ⟨m, rest, rfl, rfl, hrest⟩ := h.left
  have hcall := onward_append (hone ⟨.compileCalled p.documents, .ready, e⟩)
    (onward_append hinner (hone m))
  rw [List.append_cons inner m rest, ← List.cons_append]
  refine onward_append hcall ?_
  rcases hrest with ⟨rfl, rfl⟩ | ⟨hlast, hrest⟩
  · exact onward_of_stays fun _ hm => nomatch hm
  · exact onward_of_left hrest hlast

theorem Stretch.onward (h : Stretch p state past last) :
    Onward (statesFrom state past last) := by
  -- the induction is on how runs are nested
  induction h with
  | nil state => exact onward_of_stays fun _ hm => nomatch hm
  | @cons state last m rest hm _ _ ih =>
      have hone : Onward (statesFrom state [m] state) :=
        onward_of_stays (List.forall_mem_singleton.mpr hm)
      exact onward_append hone ih
  | run _ hrun _ hinner hrest => exact onward_append (onward_of_runs hinner hrun) hrest

end

/-- Whatever is done to a pipeline, once its state is not ready it is never ready again; and in any
session in which it is not, a run is refused and leaves that session as it is, and whatever else is
done is what would be done to a pipeline that refuses every run. -/
theorem ready_left_for_good (p : Pipeline σ) (depth : Nat) (b : Behaviour σ) {s s' : Session σ}
    {r : Except Fault Bool} (h : act (p.reentry depth) b s = some (r, s')) :
    (∃ new, s'.past = s.past ++ new ∧
      Onward (statesFrom s.world.state new s'.world.state)) ∧
    ∀ t : Session σ, t.world.state ≠ .ready → ∃ f : Fault,
      f.family? = some .pipelineState ∧
      f.message = "Pipeline already ran (state: " ++ t.world.state.name ++ ")." ∧
      ∀ depth, (p.reentry (depth + 1)).run t = some (.error f, t) ∧
        (p.refusing (depth + 1)).run t = some (.error f, t) ∧
        ∀ b, act (p.reentry depth) b t = act (p.refusing depth) b t := by
  obtain ⟨new, hnew, hstretch⟩ := keeps_traverses p depth b s r s' h
  refine ⟨⟨new, hnew, hstretch.onward⟩, fun t ht => ⟨.alreadyRan t.world.state, rfl, rfl, ?_⟩⟩
  intro depth
  exact ⟨runWith_refused ht, rfl, fun b => perform_same p depth b t ht⟩

/-- After a run with another one inside, the pipeline refuses the third. -/
theorem nestingPipeline_left_for_good : ∃ r s',
    act (nestingPipeline.reentry 3) (.run fun _ => .done true) (.blank false) = some (r, s') ∧
    s'.world.state = .executed ∧
    (∃ new, s'.past = (Session.blank false).past ++ new ∧
      Onward (statesFrom .ready new s'.world.state)) ∧
    ∃ f : Fault, f.message = "Pipeline already ran (state: executed)." ∧
      (nestingPipeline.reentry 3).run s' = some (.error f, s') := by
  have hresult : (act (nestingPipeline.reentry 3) (.run fun _ => .done true)
      (.blank false)).map (fun q => q.2.world.state) = some .executed := rfl
  obtain ⟨⟨r, s'⟩, hrun, hstate⟩ := Option.map_eq_some_iff.mp hresult
  obtain ⟨hpast, hrefused⟩ := ready_left_for_good nestingPipeline 3 _ hrun
  obtain ⟨f, -, hmessage, hf⟩ := hrefused s' (by rw [hstate]; exact nofun)
  rw [hstate] at hmessage
  exact ⟨r, s', hrun, hstate, hpast, f, hmessage, (hf 2).1⟩

end TemplateRun
