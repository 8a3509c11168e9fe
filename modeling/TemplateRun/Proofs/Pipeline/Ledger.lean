/-
# `Ledger` — where each reported diagnostic is

A flush takes the pending diagnostics away and hands them to the writer one by one.  The writer may
report meanwhile, and have the diagnostics written again, and fault; so several flushes can be under
way, one inside the writer of another.  The past is read as a ledger:

    reported     all that has been reported
    handed       what the writer has been called with, of which it has `written` some, has `refused`
                 some with a fault, and is at work on those that are held
    batches      the flushes under way, the innermost first: what each holds and what waits in it
    lost         what stood behind a diagnostic that the writer has refused

At every moment a diagnostic is in one place (`Balanced`): it has been handed to the writer, is
pending, waits in a batch or is lost.  Each single step of the sink keeps this (`Sink.Step`), and
whatever collaborators do is a path of such steps, in which a flush gives back the batches as it has
found them (`Works`); so it holds whatever they do (`diagnostics_accounted`).
-/
import Mathlib.Algebra.Order.Group.Multiset
import Mathlib.Tactic.Abel
import TemplateRun.Proofs.Pipeline.Reentry

namespace TemplateRun

variable {σ : Type}

/-! ## Ledgers -/

/-- A flush that is under way. -/
structure Batch where
  /-- The diagnostic that the writer is at work on. -/
  held : Option Diagnostic
  waiting : List Diagnostic

namespace Batch

/-- What the writers of these flushes are at work on. -/
def heldIn (batches : List Batch) : Multiset Diagnostic :=
  ↑(batches.flatMap fun b => b.held.toList)

/-- What has been taken away for these flushes and not been handed to the writer. -/
def waitingIn (batches : List Batch) : Multiset Diagnostic := ↑(batches.flatMap Batch.waiting)

/-- Go on with what is left of a flush, which is over if that is nothing. -/
def goOn (rest : List Diagnostic) (outer : List Batch) : List Batch :=
  if rest = [] then outer else ⟨none, rest⟩ :: outer

/-- The writer is called with the next diagnostic of the innermost flush. -/
def hold (d : Diagnostic) : List Batch → List Batch
  | [] => []
  | b :: outer => ⟨some d, b.waiting.tail⟩ :: outer

/-- The writer of the innermost flush has returned. -/
def release : List Batch → List Batch
  | [] => []
  | b :: outer => goOn b.waiting outer

section
variable {d : Diagnostic} {rest : List Diagnostic} {outer : List Batch}

theorem heldIn_none : heldIn (⟨none, rest⟩ :: outer) = heldIn outer := rfl

theorem heldIn_some : heldIn (⟨some d, rest⟩ :: outer) = {d} + heldIn outer := rfl

theorem waitingIn_cons (b : Batch) : waitingIn (b :: outer) = ↑b.waiting + waitingIn outer :=
  (Multiset.coe_add _ _).symm

theorem heldIn_goOn : heldIn (goOn rest outer) = heldIn outer := by
  unfold goOn
  split
  · rfl
  · rfl

theorem waitingIn_goOn : waitingIn (goOn rest outer) = ↑rest + waitingIn outer := by
  unfold goOn
  split
  · next h => rw [h, Multiset.coe_nil, zero_add]
  · exact waitingIn_cons _

end

end Batch

/-- What has become of the diagnostics. -/
structure Ledger where
  reported : Multiset Diagnostic
  handed : Multiset Diagnostic
  written : Multiset Diagnostic
  refused : Multiset Diagnostic
  lost : Multiset Diagnostic
  batches : List Batch

namespace Ledger

/-- Diagnostics have been reported, and nothing else has happened. -/
def opening (reported : List Diagnostic) : Ledger where
  reported := ↑reported
  handed := 0
  written := 0
  refused := 0
  lost := 0
  batches := []

/-- The ledger after one more thing has happened. -/
def enter (l : Ledger) : Happening → Ledger
  | .reported d => { l with reported := {d} + l.reported }
  | .taken batch => { l with batches := Batch.goOn batch l.batches }
  | .writing d => { l with handed := {d} + l.handed, batches := Batch.hold d l.batches }
  | .written d => { l with written := {d} + l.written, batches := Batch.release l.batches }
  | .dropped rest =>
    { l with
      refused := ↑(l.batches.head?.bind Batch.held).toList + l.refused
      lost := ↑rest + l.lost
      batches := l.batches.tail }
  | _ => l

/-- The ledger after a stretch of the past. -/
def after (l : Ledger) (past : List Moment) : Ledger :=
  past.foldl (fun l m => l.enter m.happening) l

/-- Each diagnostic is in one place. -/
structure Balanced (l : Ledger) (pending : List Diagnostic) : Prop where
  reported : l.reported = l.handed + ↑pending + Batch.waitingIn l.batches + l.lost
  handed : l.handed = l.written + l.refused + Batch.heldIn l.batches

section
variable {l : Ledger} {pending rest : List Diagnostic} {d : Diagnostic} {outer : List Batch}

theorem balanced_opening (reported : List Diagnostic) :
    (opening reported).Balanced reported where
  reported := by simp [opening, Batch.waitingIn]
  handed := by simp [opening, Batch.heldIn]

theorem Balanced.handed_le (h : l.Balanced pending) : l.handed ≤ l.reported := by
  rw [h.reported, add_assoc, add_assoc]
  exact Multiset.le_add_right _ _

theorem Balanced.settled (h : l.Balanced pending) (hbatches : l.batches = [])
    (hrefused : l.refused = 0) (hlost : l.lost = 0) : l.reported = l.written + ↑pending := by
  rw [h.reported, h.handed, hrefused, hlost, hbatches]
  simp [Batch.heldIn, Batch.waitingIn]

/-! ### Single steps -/

theorem enter_of_isOwn {h : Happening} (hown : h.isOwn) : l.enter h = l := by
  cases h <;> first | rfl | exact nomatch hown

theorem Balanced.report (h : l.Balanced pending) (d : Diagnostic) :
    (l.enter (.reported d)).Balanced (pending ++ [d]) where
  reported := by
    simp only [enter, h.reported, ← Multiset.coe_add, Multiset.coe_singleton]
    abel
  handed := h.handed

theorem Balanced.take (h : l.Balanced pending) : (l.enter (.taken pending)).Balanced [] where
  reported := by
    simp only [enter, h.reported, Batch.waitingIn_goOn, Multiset.coe_nil]
    abel
  handed := by
    simp only [enter, h.handed, Batch.heldIn_goOn]

theorem enter_writing (hl : l.batches = ⟨none, d :: rest⟩ :: outer) :
    (l.enter (.writing d)).batches = ⟨some d, rest⟩ :: outer := by
  simp only [enter, hl, Batch.hold, List.tail_cons]

theorem enter_written (hl : l.batches = ⟨some d, rest⟩ :: outer) :
    (l.enter (.written d)).batches = Batch.goOn rest outer := by
  simp only [enter, hl, Batch.release]

theorem enter_dropped (hl : l.batches = ⟨some d, rest⟩ :: outer) :
    (l.enter (.dropped rest)).batches = outer := by
  simp only [enter, hl, List.tail_cons]

theorem Balanced.write (h : l.Balanced pending) (hl : l.batches = ⟨none, d :: rest⟩ :: outer) :
    (l.enter (.writing d)).Balanced pending where
  reported := by
    rw [enter_writing hl]
    simp only [enter, h.reported, hl, Batch.waitingIn_cons, ← Multiset.cons_coe,
      ← Multiset.singleton_add]
    abel
  handed := by
    rw [enter_writing hl]
    simp only [enter, h.handed, hl, Batch.heldIn_none, Batch.heldIn_some]
    abel

theorem Balanced.finish (h : l.Balanced pending) (hl : l.batches = ⟨some d, rest⟩ :: outer) :
    (l.enter (.written d)).Balanced pending where
  reported := by
    rw [enter_written hl]
    simp only [enter, h.reported, hl, Batch.waitingIn_cons, Batch.waitingIn_goOn]
  handed := by
    rw [enter_written hl]
    simp only [enter, h.handed, hl, Batch.heldIn_some, Batch.heldIn_goOn]
    abel

theorem Balanced.drop (h : l.Balanced pending) (hl : l.batches = ⟨some d, rest⟩ :: outer) :
    (l.enter (.dropped rest)).Balanced pending where
  reported := by
    rw [enter_dropped hl]
    simp only [enter, h.reported, hl, Batch.waitingIn_cons]
    abel
  handed := by
    rw [enter_dropped hl]
    simp only [enter, h.handed, hl, Batch.heldIn_some, List.head?_cons, Option.bind_some,
      Option.toList_some, Multiset.coe_singleton]
    abel

end

end Ledger

/-! ## The sink -/

/-- Where diagnostics wait: the flushes under way, the innermost first, and what is pending. -/
structure Sink where
  batches : List Batch
  pending : List Diagnostic

/-- The writer of each of these flushes has been called and has not come back. -/
def Batch.Attended (batches : List Batch) : Prop := ∀ b ∈ batches, b.held.isSome

theorem Batch.attended_nil : Batch.Attended [] := fun _ hb => absurd hb List.not_mem_nil

theorem Batch.attended_cons {d : Diagnostic} {rest : List Diagnostic} {outer : List Batch}
    (h : Batch.Attended outer) : Batch.Attended (⟨some d, rest⟩ :: outer) :=
  List.forall_mem_cons.mpr ⟨rfl, h⟩

namespace Sink

/-- `Step q h q'`: how the sink comes from `q` to `q'` when this happens. -/
inductive Step : Sink → Happening → Sink → Prop
  | report (batches : List Batch) (pending : List Diagnostic) (d : Diagnostic) :
      Step ⟨batches, pending⟩ (.reported d) ⟨batches, pending ++ [d]⟩
  | take {batches : List Batch} (pending : List Diagnostic) : Batch.Attended batches →
      Step ⟨batches, pending⟩ (.taken pending) ⟨Batch.goOn pending batches, []⟩
  | write (outer : List Batch) (rest pending : List Diagnostic) (d : Diagnostic) :
      Step ⟨⟨none, d :: rest⟩ :: outer, pending⟩ (.writing d) ⟨⟨some d, rest⟩ :: outer, pending⟩
  | finish (outer : List Batch) (rest pending : List Diagnostic) (d : Diagnostic) :
      Step ⟨⟨some d, rest⟩ :: outer, pending⟩ (.written d) ⟨Batch.goOn rest outer, pending⟩
  | drop (outer : List Batch) (rest pending : List Diagnostic) (d : Diagnostic) :
      Step ⟨⟨some d, rest⟩ :: outer, pending⟩ (.dropped rest) ⟨outer, pending⟩
  | own (q : Sink) (h : Happening) : h.isOwn → Step q h q

/-- `Path q past q'`: how the sink comes from `q` to `q'` in a stretch of the past.  What is pending
is in the environment of each moment. -/
inductive Path : Sink → List Moment → Sink → Prop
  | nil (q : Sink) : Path q [] q
  | cons {q q' q'' : Sink} {m : Moment} {past : List Moment} :
      Step q m.happening q' → m.environment.pending = q'.pending → Path q' past q'' →
      Path q (m :: past) q''

section
variable {q q' q'' : Sink} {past more : List Moment} {h : Happening} {l : Ledger}

theorem Path.append (hpath : Path q past q') (hmore : Path q' more q'') :
    Path q (past ++ more) q'' := by
  induction hpath with
  | nil => exact hmore
  | cons hstep hpending _ ih => exact .cons hstep hpending (ih hmore)

/-- Each step keeps the ledger balanced, and the ledger has the batches of the sink. -/
theorem Step.balanced (hstep : Step q h q') (hbatches : l.batches = q.batches)
    (hl : l.Balanced q.pending) :
    (l.enter h).batches = q'.batches ∧ (l.enter h).Balanced q'.pending := by
  cases hstep with
  | report batches pending d => exact ⟨hbatches, hl.report d⟩
  | take pending _ => exact ⟨congrArg (Batch.goOn pending) hbatches, hl.take⟩
  | write => exact ⟨Ledger.enter_writing hbatches, hl.write hbatches⟩
  | finish => exact ⟨Ledger.enter_written hbatches, hl.finish hbatches⟩
  | drop => exact ⟨Ledger.enter_dropped hbatches, hl.drop hbatches⟩
  | own _ _ hown =>
      rw [Ledger.enter_of_isOwn hown]
      exact ⟨hbatches, hl⟩

end

end Sink

/-- `Balances l past pending batches`: read on from `l`, the ledger is balanced at each moment, and
in the end with what is pending then, and these batches are under way. -/
structure Balances (l : Ledger) (past : List Moment) (pending : List Diagnostic)
    (batches : List Batch) : Prop where
  each : AtEach (fun before m _ => (l.after (before ++ [m])).Balanced m.environment.pending) past
  last : (l.after past).Balanced pending
  batches : (l.after past).batches = batches

theorem Sink.Path.balances {q q' : Sink} {past : List Moment} (hpath : Path q past q') :
    ∀ {l : Ledger}, l.batches = q.batches → l.Balanced q.pending →
      Balances l past q'.pending q'.batches := by
  induction hpath with
  | nil => exact fun hbatches hl => ⟨atEach_nil, hl, hbatches⟩
  | cons hstep hpending _ ih =>
      intro l hbatches hl
      obtain ⟨hbatches', hl'⟩ := hstep.balanced hbatches hl
      obtain ⟨heach, hlast, hend⟩ := ih hbatches' hl'
      rw [← hpending] at hl'
      exact ⟨atEach_cons.mpr ⟨hl', heach⟩, hlast, hend⟩

/-! ## What is done goes its way through the sink -/

/-- Whatever flushes are under way, what happens is a path of the sink that gives them back. -/
def Works (s s' : Session σ) : Prop :=
  ∃ new, s'.past = s.past ++ new ∧ ∀ batches, Batch.Attended batches →
    Sink.Path ⟨batches, s.world.environment.pending⟩ new
      ⟨batches, s'.world.environment.pending⟩

theorem Works.of_past {s s' : Session σ} (hpast : s'.past = s.past)
    (hpending : s'.world.environment.pending = s.world.environment.pending) : Works s s' := by
  refine ⟨[], by rw [hpast, List.append_nil], fun batches _ => ?_⟩
  rw [hpending]
  exact .nil _

theorem Works.trans {s t u : Session σ} (h : Works s t) (h' : Works t u) : Works s u := by
  obtain ⟨new, hnew, hpath⟩ := h
  obtain ⟨new', hnew', hpath'⟩ := h'
  refine ⟨new ++ new', by rw [hnew', hnew, List.append_assoc], fun batches hbatches => ?_⟩
  exact (hpath batches hbatches).append (hpath' batches hbatches)

theorem Works.noted {s : Session σ} {h : Happening} (hown : h.isOwn) : Works s (s.noted h) :=
  ⟨[_], rfl, fun _ _ => .cons (.own _ h hown) rfl (.nil _)⟩

theorem works_runLaw : RunLaw (@Works σ) where
  refl _ := .of_past rfl rfl
  trans _ _ _ := .trans
  touch _ _ := .of_past rfl rfl
  reported _ d := ⟨[_], rfl, fun _ _ => .cons (.report _ _ d) rfl (.nil _)⟩
  shown _ _ := .of_past rfl rfl
  own _ _ hown _ := .noted hown
  moved s target _ :=
    .trans (t := { s with world := { s.world with state := target } }) (.of_past rfl rfl)
      (.noted rfl)

section
variable {write : Diagnostic → Play σ Unit}

/-- The induction is on what is left of the batch.  It starts in a sink in which this batch has been
taken away, and the batches around it are given back. -/
theorem writeAll_path (hwrite : ∀ d, (write d).Keeps Works) :
    ∀ {batch : List Diagnostic} {s s' : Session σ} {r : Except Fault Unit},
      writeAll write batch s = some (r, s') → ∃ new, s'.past = s.past ++ new ∧
        ∀ outer, Batch.Attended outer →
          Sink.Path ⟨Batch.goOn batch outer, s.world.environment.pending⟩ new
            ⟨outer, s'.world.environment.pending⟩
  | [], s, s', r, h => by
      cases h
      exact ⟨[], (List.append_nil _).symm, fun outer _ => .nil _⟩
  | d :: rest, s, s', r, h => by
      rw [writeAll, Play.note_bind, Play.attempt_bind_eq_some_iff] at h
      obtain ⟨q, t, hwritten, h⟩ := h
      obtain ⟨inner, hinner, hpath⟩ := hwrite d _ _ _ hwritten
      cases q with
      | ok =>
          obtain ⟨new, hnew, hrest⟩ := writeAll_path hwrite (s := t.noted (.written d)) h
          refine ⟨⟨.writing d, s.world.state, s.world.environment⟩ ::
            (inner ++ ⟨.written d, t.world.state, t.world.environment⟩ :: new), ?_, ?_⟩
          · rw [hnew, Session.noted_past, hinner, Session.noted_past]
            simp
          · intro outer houter
            have hheld := hpath (⟨some d, rest⟩ :: outer) (Batch.attended_cons houter)
            refine .cons (.write outer rest _ d) rfl (hheld.append ?_)
            exact .cons (.finish outer rest _ d) rfl (hrest outer houter)
      | error f =>
          cases h
          refine ⟨⟨.writing d, s.world.state, s.world.environment⟩ ::
            (inner ++ [⟨.dropped rest, t.world.state, t.world.environment⟩]), ?_, ?_⟩
          · rw [Session.noted_past, hinner, Session.noted_past]
            simp
          · intro outer houter
            have hheld := hpath (⟨some d, rest⟩ :: outer) (Batch.attended_cons houter)
            refine .cons (.write outer rest _ d) rfl (hheld.append ?_)
            exact .cons (.drop outer rest _ d) rfl (.nil _)

theorem flushWith_works (hwrite : ∀ d, (write d).Keeps Works) : (flushWith write).Keeps Works := by
  intro s r s' h
  rw [flushWith, Play.take_bind] at h
  obtain ⟨new, hnew, hpath⟩ := writeAll_path hwrite h
  rw [Session.emptied_past, List.append_assoc, List.singleton_append] at hnew
  exact ⟨_, hnew, fun batches hbatches => .cons (.take _ hbatches) rfl (hpath batches hbatches)⟩

end

theorem works_reentryLaw (p : Pipeline σ) : ReentryLaw Works p where
  toActLaw := works_runLaw.toActLaw
  flush hwrite := flushWith_works hwrite
  run hperform hflush := by
    refine keeps_runWith works_runLaw (fun k => ?_) hflush
    exact k.keeps_play works_runLaw (fun _ => .noted (k.isOwn_called _)) fun b _ => hperform b

/-- Whatever is done to a pipeline, from outside and by its collaborators, is a path of the sink. -/
theorem act_path (p : Pipeline σ) (depth : Nat) (b : Behaviour σ) {s s' : Session σ}
    {r : Except Fault Bool} (h : act (p.reentry depth) b s = some (r, s')) :
    ∃ new, s'.past = s.past ++ new ∧ Sink.Path ⟨[], s.world.environment.pending⟩ new
      ⟨[], s'.world.environment.pending⟩ := by
  obtain ⟨new, hnew, hpath⟩ := keeps_perform (works_reentryLaw p) depth b s r s' h
  exact ⟨new, hnew, hpath [] Batch.attended_nil⟩

/-! ## The account of a past -/

/-- The ledger of a past that begins with these diagnostics pending. -/
def account (start : List Diagnostic) (past : List Moment) : Ledger :=
  (Ledger.opening start).after past

/-- No writer has faulted. -/
def Unbroken (past : List Moment) : Prop := ∀ m ∈ past, ∀ rest, m.happening ≠ .dropped rest

/-- Nothing is lost and nothing doubled. -/
structure Accounted (start : List Diagnostic) (past : List Moment) (pending : List Diagnostic) :
    Prop where
  balanced : (account start past).Balanced pending
  /-- Nothing is handed to the writer more often than it has been reported. -/
  handed_le : (account start past).handed ≤ (account start past).reported
  /-- If no writer has faulted, all that has been reported has been written or is pending as soon
  as no flush is under way. -/
  settled : Unbroken past → (account start past).batches = [] →
    (account start past).reported = (account start past).written + ↑pending

theorem Unbroken.after {past : List Moment} (h : Unbroken past) (l : Ledger) :
    (l.after past).refused = l.refused ∧ (l.after past).lost = l.lost := by
  induction past generalizing l with
  | nil => exact ⟨rfl, rfl⟩
  | cons m past ih =>
      have hkept : (l.enter m.happening).refused = l.refused ∧
          (l.enter m.happening).lost = l.lost := by
        have hm := h m List.mem_cons_self
        cases hh : m.happening <;> first | exact ⟨rfl, rfl⟩ | exact absurd hh (hm _)
      obtain ⟨hrefused, hlost⟩ := ih (fun m' hm' => h m' (List.mem_cons_of_mem m hm'))
        (l.enter m.happening)
      exact ⟨hrefused.trans hkept.1, hlost.trans hkept.2⟩

theorem accounted_of_balanced {start pending : List Diagnostic} {past : List Moment}
    (h : (account start past).Balanced pending) : Accounted start past pending := by
  refine ⟨h, h.handed_le, fun hunbroken hbatches => ?_⟩
  obtain ⟨hrefused, hlost⟩ := hunbroken.after (.opening start)
  exact h.settled hbatches hrefused hlost

/-- Whatever is done to a pipeline, from outside and by its collaborators, each diagnostic is
accounted for at every moment, and in the end no flush is under way. -/
theorem diagnostics_accounted (p : Pipeline σ) (depth : Nat) (b : Behaviour σ) {s s' : Session σ}
    {r : Except Fault Bool} (h : act (p.reentry depth) b s = some (r, s')) :
    ∃ new, s'.past = s.past ++ new ∧
      AtEach (fun before m _ =>
        Accounted s.world.environment.pending (before ++ [m]) m.environment.pending) new ∧
      Accounted s.world.environment.pending new s'.world.environment.pending ∧
      (account s.world.environment.pending new).batches = [] := by
  obtain ⟨new, hnew, hpath⟩ := act_path p depth b h
  have hbalances := hpath.balances rfl (Ledger.balanced_opening _)
  refine ⟨new, hnew, ?_, accounted_of_balanced hbalances.last, hbalances.batches⟩
  exact hbalances.each.mono fun _ _ _ => accounted_of_balanced

/-- A writer that answers the first diagnostic with another one, which it has written at once, and
that faults on the third. -/
def answeringPipeline : Pipeline Unit where
  collaborators :=
    { compile := fun _ => .done true
      execute := fun _ => .done true
      onError := none
      write := fun d =>
        if d.text = "first" then .report ⟨.note, "second"⟩ (.flush fun _ => .done true)
        else if d.text = "third" then .fail (.interrupt "")
        else .done true }
  documents := []

/-- Three reports and a flush. -/
def threeReports : Behaviour Unit :=
  .report ⟨.note, "first"⟩ (.report ⟨.note, "third"⟩ (.report ⟨.note, "fourth"⟩
    (.flush fun _ => .done true)))

theorem answeringPipeline_accounted : ∃ r s',
    act (answeringPipeline.reentry 3) threeReports (.blank ()) = some (r, s') ∧
    ∃ new, s'.past = (Session.blank ()).past ++ new ∧
      AtEach (fun before m _ => Accounted [] (before ++ [m]) m.environment.pending) new ∧
      Accounted [] new s'.world.environment.pending ∧ (account [] new).batches = [] := by
  have hsome : (act (answeringPipeline.reentry 3) threeReports (.blank ())).isSome := rfl
  obtain ⟨⟨r, s'⟩, hrun⟩ := Option.isSome_iff_exists.mp hsome
  exact ⟨r, s', hrun, diagnostics_accounted answeringPipeline 3 threeReports hrun⟩

end TemplateRun
