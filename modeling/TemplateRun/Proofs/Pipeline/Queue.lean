/-
# `Queue` — diagnostics are written in the order in which they are reported

A writer may report while it writes.  What it reports then waits for a later flush, since the flush
under way works on a list that has been taken away before.  So at every moment the diagnostics stand
in one line, in the order in which they have been reported (`Lined`):

    writtenIn      those that have been written, then
    unwritten      those that the flush under way has taken away and not written yet, then
    pending        those that wait

This needs a writer that neither faults nor has diagnostics written while it is at work, and nothing
else (`Calm`).  The invariant that is kept in each step of the sink has one more part, for the
diagnostic that the writer is at work on (`InOrder`).
-/
import TemplateRun.Proofs.Pipeline.Closing
import TemplateRun.Proofs.Pipeline.Ledger

namespace TemplateRun

variable {σ : Type}

/-! ## What has been handed to the writer -/

def Happening.handed? : Happening → Option Diagnostic
  | .writing d => some d
  | _ => none

def Happening.written? : Happening → Option Diagnostic
  | .written d => some d
  | _ => none

def Happening.batch : Happening → List Diagnostic
  | .taken batch => batch
  | _ => []

def handedIn (past : List Moment) : List Diagnostic := past.filterMap fun m => m.happening.handed?

def writtenIn (past : List Moment) : List Diagnostic :=
  past.filterMap fun m => m.happening.written?

/-- What has been taken away to be written, in order. -/
def takenIn (past : List Moment) : List Diagnostic := past.flatMap fun m => m.happening.batch

section
variable (past more : List Moment)

theorem handedIn_append : handedIn (past ++ more) = handedIn past ++ handedIn more :=
  List.filterMap_append

theorem writtenIn_append : writtenIn (past ++ more) = writtenIn past ++ writtenIn more :=
  List.filterMap_append

theorem takenIn_append : takenIn (past ++ more) = takenIn past ++ takenIn more :=
  List.flatMap_append

end

section
variable (past : List Moment) (m : Moment)

theorem filterMap_concat (f : Moment → Option Diagnostic) :
    (past ++ [m]).filterMap f = past.filterMap f ++ (f m).toList := by
  rw [List.filterMap_append]
  cases h : f m <;> simp [h]

theorem reportedIn_concat :
    reportedIn (past ++ [m]) = reportedIn past ++ m.happening.reported?.toList :=
  filterMap_concat past m _

theorem handedIn_concat : handedIn (past ++ [m]) = handedIn past ++ m.happening.handed?.toList :=
  filterMap_concat past m _

theorem writtenIn_concat :
    writtenIn (past ++ [m]) = writtenIn past ++ m.happening.written?.toList :=
  filterMap_concat past m _

theorem takenIn_concat : takenIn (past ++ [m]) = takenIn past ++ m.happening.batch := by
  rw [takenIn_append, takenIn, takenIn, List.flatMap_singleton]

end

namespace Batch

/-- What the writers of these flushes are at work on, in order. -/
def heldOf (batches : List Batch) : List Diagnostic := batches.flatMap fun b => b.held.toList

/-- What these flushes have taken away and not written yet, in order. -/
def unwritten (batches : List Batch) : List Diagnostic :=
  batches.flatMap fun b => b.held.toList ++ b.waiting

theorem unwritten_goOn (batch : List Diagnostic) : unwritten (goOn batch []) = batch := by
  unfold goOn
  split
  · next h => rw [h]; rfl
  · exact List.append_nil batch

theorem heldOf_goOn (batch : List Diagnostic) : heldOf (goOn batch []) = [] := by
  unfold goOn
  split
  · rfl
  · rfl

theorem length_goOn (batch : List Diagnostic) : (goOn batch []).length ≤ 1 := by
  unfold goOn
  split
  · exact Nat.zero_le 1
  · exact Nat.le_refl 1

theorem heldOf_prefix {batches : List Batch} (h : batches.length ≤ 1) :
    heldOf batches <+: unwritten batches := by
  match batches, h with
  | [], _ => exact List.prefix_rfl
  | [b], _ => simp [heldOf, unwritten]

/-- Where nothing is held, and each flush is waiting for its writer, none is under way. -/
theorem eq_nil_of_heldOf {batches : List Batch} (hattended : Attended batches)
    (hheld : heldOf batches = []) : batches = [] := by
  cases batches with
  | nil => rfl
  | cons b outer =>
      obtain ⟨d, hd⟩ := Option.isSome_iff_exists.mp (hattended b List.mem_cons_self)
      simp [heldOf, hd] at hheld

end Batch

/-! ## The order -/

/-- No writer faults, and nothing is taken away to be written while a writer is at work. -/
structure Calm (past : List Moment) : Prop where
  unbroken : Unbroken past
  apart : AtEach (fun before m _ => ∀ batch, m.happening = .taken batch →
    handedIn before = writtenIn before) past

theorem Calm.front {past more : List Moment} (h : Calm (past ++ more)) : Calm past where
  unbroken m hm := h.unbroken m (List.mem_append_left more hm)
  apart := (atEach_append.mp h.apart).1

theorem Calm.append {past more : List Moment} (h : Calm past)
    (hidle : handedIn past = writtenIn past) (h' : Calm more) : Calm (past ++ more) where
  unbroken := List.forall_mem_append.mpr ⟨h.unbroken, h'.unbroken⟩
  apart := by
    refine atEach_append.mpr ⟨h.apart, h'.apart.mono fun before m _ hm batch hbatch => ?_⟩
    rw [handedIn_append, writtenIn_append, hidle, hm batch hbatch]

/-- `InOrder start past q`: what has happened since these diagnostics were pending has kept the
order, and has led the sink to `q`. -/
structure InOrder (start : List Diagnostic) (past : List Moment) (q : Sink) : Prop where
  pending : takenIn past ++ q.pending = start ++ reportedIn past
  unwritten : writtenIn past ++ Batch.unwritten q.batches = takenIn past
  held : writtenIn past ++ Batch.heldOf q.batches = handedIn past
  single : q.batches.length ≤ 1

section
variable {start : List Diagnostic} {past more : List Moment} {q q' : Sink}

theorem inOrder_nil (start : List Diagnostic) : InOrder start [] ⟨[], start⟩ where
  pending := (List.append_nil start).symm
  unwritten := rfl
  held := rfl
  single := Nat.zero_le 1

theorem Happening.no_diagnostic {h : Happening} (hown : h.isOwn) :
    h.reported? = none ∧ h.handed? = none ∧ h.written? = none ∧ h.batch = [] := by
  cases h <;> first | exact ⟨rfl, rfl, rfl, rfl⟩ | cases hown

theorem inOrder_concat_iff {m : Moment} : InOrder start (past ++ [m]) q ↔
    takenIn past ++ m.happening.batch ++ q.pending =
        start ++ (reportedIn past ++ m.happening.reported?.toList) ∧
      writtenIn past ++ m.happening.written?.toList ++ Batch.unwritten q.batches =
        takenIn past ++ m.happening.batch ∧
      writtenIn past ++ m.happening.written?.toList ++ Batch.heldOf q.batches =
        handedIn past ++ m.happening.handed?.toList ∧
      q.batches.length ≤ 1 := by
  rw [← takenIn_concat, ← reportedIn_concat, ← writtenIn_concat, ← handedIn_concat]
  exact ⟨fun h => ⟨h.pending, h.unwritten, h.held, h.single⟩,
    fun ⟨hpending, hunwritten, hheld, hsingle⟩ => ⟨hpending, hunwritten, hheld, hsingle⟩⟩

/-- One step of a calm past.  There is no more than one flush under way, since none begins while a
writer is at work. -/
theorem InOrder.step {m : Moment} (h : InOrder start past q)
    (hunbroken : ∀ rest, m.happening ≠ .dropped rest)
    (hapart : ∀ batch, m.happening = .taken batch → handedIn past = writtenIn past)
    (hstep : Sink.Step q m.happening q') : InOrder start (past ++ [m]) q' := by
  obtain ⟨hpending, hunwritten, hheld, hsingle⟩ := h
  rw [inOrder_concat_iff]
  generalize m.happening = happening at hunbroken hapart hstep
  cases hstep with
  | report batches pending d =>
      refine ⟨?_, ?_, ?_, hsingle⟩
      · change takenIn past ++ [] ++ (pending ++ [d]) = start ++ (reportedIn past ++ [d])
        rw [List.append_nil, ← List.append_assoc, hpending, List.append_assoc]
      · simpa [Happening.written?, Happening.batch] using hunwritten
      · simpa [Happening.written?, Happening.handed?] using hheld
  | take pending hattended =>
      rw [hapart pending rfl] at hheld ⊢
      obtain rfl := Batch.eq_nil_of_heldOf hattended (List.append_right_eq_self.mp hheld)
      rw [Batch.unwritten_goOn, Batch.heldOf_goOn]
      refine ⟨?_, ?_, ?_, Batch.length_goOn pending⟩
      · simpa [Happening.batch, Happening.reported?] using hpending
      · simpa [Happening.written?, Happening.batch, Batch.unwritten] using hunwritten
      · simp [Happening.written?, Happening.handed?]
  | write outer rest pending d =>
      obtain rfl := List.eq_nil_of_length_eq_zero (Nat.le_zero.mp (Nat.le_of_succ_le_succ hsingle))
      refine ⟨?_, ?_, ?_, hsingle⟩
      · simpa [Happening.batch, Happening.reported?] using hpending
      · simpa [Happening.written?, Happening.batch, Batch.unwritten] using hunwritten
      · simpa [Happening.written?, Happening.handed?, Batch.heldOf] using hheld
  | finish outer rest pending d =>
      obtain rfl := List.eq_nil_of_length_eq_zero (Nat.le_zero.mp (Nat.le_of_succ_le_succ hsingle))
      rw [Batch.unwritten_goOn, Batch.heldOf_goOn]
      refine ⟨?_, ?_, ?_, Batch.length_goOn rest⟩
      · simpa [Happening.batch, Happening.reported?] using hpending
      · simpa [Happening.written?, Happening.batch, Batch.unwritten] using hunwritten
      · simpa [Happening.written?, Happening.handed?, Batch.heldOf] using hheld
  | drop outer rest pending d => exact absurd rfl (hunbroken rest)
  | own q _ hown =>
      obtain ⟨hreported, hhanded, hwritten, hbatch⟩ := Happening.no_diagnostic hown
      rw [hreported, hhanded, hwritten, hbatch]
      simpa using ⟨hpending, hunwritten, hheld, hsingle⟩

theorem Sink.Path.exists_of_append {q'' : Sink} (h : Sink.Path q (past ++ more) q'') :
    ∃ q', Sink.Path q past q' ∧ Sink.Path q' more q'' := by
  induction past generalizing q with
  | nil => exact ⟨q, .nil q, h⟩
  | cons m past ih =>
      cases h with
      | cons hstep hpending hrest =>
          obtain ⟨q', hpast, hmore⟩ := ih hrest
          exact ⟨q', .cons hstep hpending hpast, hmore⟩

theorem Sink.Path.pending_of_concat {m : Moment} (h : Sink.Path q (past ++ [m]) q') :
    m.environment.pending = q'.pending := by
  obtain ⟨_, -, hlast⟩ := h.exists_of_append
  cases hlast with
  | cons _ hpending hnil =>
      cases hnil
      exact hpending

/-- A calm past keeps the order.  The induction is on the path. -/
theorem InOrder.path (hpath : Sink.Path q more q') :
    ∀ {past : List Moment}, InOrder start past q → Calm (past ++ more) →
      InOrder start (past ++ more) q' := by
  induction hpath with
  | nil =>
      intro past h _
      rwa [List.append_nil]
  | @cons _ _ _ m more hstep _ _ ih =>
      intro past h hcalm
      have hunbroken := hcalm.unbroken m (by simp)
      have hnext := h.step hunbroken (hcalm.apart past m more rfl) hstep
      rw [List.append_cons] at hcalm ⊢
      exact ih hnext hcalm

end

/-! ## One line -/

/-- What has been written, then what the flush under way has taken away and not written yet, then
what is pending, are all the diagnostics that have been reported, in order. -/
def Lined (start : List Diagnostic) (past : List Moment) (pending : List Diagnostic) : Prop :=
  writtenIn past ++ Batch.unwritten (account start past).batches ++ pending =
    start ++ reportedIn past

/-- `ComesLater start before m after`: if something is reported in `m`, then it comes to the writer
in a flush that begins later, and after all that has been reported before it. -/
def ComesLater (start : List Diagnostic) (before : List Moment) (m : Moment)
    (after : List Moment) : Prop :=
  ∀ d, m.happening = .reported d → ∀ more rest, after = more ++ rest →
    handedIn (before ++ m :: more) <+: start ++ reportedIn before ∨
    (∃ m' ∈ more, ∃ batch, m'.happening = .taken batch) ∧
      start ++ reportedIn before ++ [d] <+: handedIn (before ++ m :: more)

section
variable {start : List Diagnostic} {past : List Moment} {q : Sink}

/-- Read from its beginning, a calm past is in order at each point. -/
theorem inOrder_of_path (hpath : Sink.Path ⟨[], start⟩ past q) (hcalm : Calm past) :
    InOrder start past q := InOrder.path hpath (inOrder_nil start) hcalm

theorem InOrder.lined (h : InOrder start past q) (hpath : Sink.Path ⟨[], start⟩ past q) :
    Lined start past q.pending := by
  have hbatches : (account start past).batches = q.batches :=
    (hpath.balances rfl (Ledger.balanced_opening start)).batches
  rw [Lined, hbatches, h.unwritten, h.pending]

/-- What comes to the writer has been reported, in the same order. -/
theorem InOrder.handed_prefix (h : InOrder start past q) :
    handedIn past <+: takenIn past ∧ takenIn past <+: start ++ reportedIn past := by
  constructor
  · rw [← h.held, ← h.unwritten]
    exact (List.prefix_append_right_inj _).mpr (Batch.heldOf_prefix h.single)
  · rw [← h.pending]
    exact List.prefix_append _ _

theorem takenIn_eq_nil {past : List Moment}
    (h : ∀ m ∈ past, ∀ batch, m.happening ≠ .taken batch) : takenIn past = [] := by
  refine List.flatMap_eq_nil_iff.mpr fun m hm => ?_
  have hm := h m hm
  cases hh : m.happening <;> first | rfl | exact absurd hh (hm _)

theorem comesLater_of_inOrder {before more : List Moment} {m : Moment} {d : Diagnostic}
    {q q' : Sink} (hm : m.happening = .reported d) (h : InOrder start before q)
    (h' : InOrder start (before ++ m :: more) q') :
    handedIn (before ++ m :: more) <+: start ++ reportedIn before ∨
    (∃ m' ∈ more, ∃ batch, m'.happening = .taken batch) ∧
      start ++ reportedIn before ++ [d] <+: handedIn (before ++ m :: more) := by
  obtain ⟨hhanded, htaken⟩ := h'.handed_prefix
  have hreported : reportedIn (before ++ m :: more) =
      reportedIn before ++ [d] ++ reportedIn more := by
    rw [List.append_cons, reportedIn_append, reportedIn_concat, hm]
    rfl
  have hd : start ++ reportedIn before ++ [d] <+: start ++ reportedIn (before ++ m :: more) := by
    rw [hreported, ← List.append_assoc, ← List.append_assoc]
    exact List.prefix_append _ _
  by_cases hlater : start ++ reportedIn before ++ [d] <+: handedIn (before ++ m :: more)
  · refine .inr ⟨?_, hlater⟩
    -- without a flush that begins, there would be less to hand over than has been reported before
    by_contra hlate
    have hnone : ∀ m' ∈ more, ∀ batch, m'.happening ≠ .taken batch :=
      fun m' hm' batch hbatch => hlate ⟨m', hm', batch, hbatch⟩
    have hsame : takenIn (before ++ m :: more) = takenIn before := by
      rw [List.append_cons, takenIn_append, takenIn_concat, takenIn_eq_nil hnone, hm]
      simp [Happening.batch]
    have hlength := (hlater.trans hhanded).length_le
    have hbefore := h.handed_prefix.2.length_le
    rw [hsame] at hlength
    simp only [List.length_append, List.length_singleton] at hlength hbefore
    omega
  · rcases List.prefix_or_prefix_of_prefix (hhanded.trans htaken) hd with hearlier | hearlier
    · rcases List.prefix_concat_iff.mp hearlier with heq | hearlier
      · exact absurd (heq ▸ List.prefix_rfl) hlater
      · exact .inl hearlier
    · exact absurd hearlier hlater

end

/-! ## Writers that only report -/

/-- Whatever comes of its steps, the behaviour does not fault. -/
def Behaviour.NeverFails : Behaviour σ → Prop
  | .done _ => True
  | .fail _ => False
  | .act _ next => ∀ w, (next w).NeverFails
  | .report _ next => next.NeverFails
  | .say _ next => ∀ r, (next r).NeverFails
  | .flush next => ∀ r, (next r).NeverFails
  | .run next => ∀ r, (next r).NeverFails

theorem exists_ok_of_neverFails (r : Reentry σ) {b : Behaviour σ} (hb : b.NeverFails) :
    ∀ {s s' : Session σ} {q : Except Fault Bool}, act r b s = some (q, s') → ∃ v, q = .ok v := by
  induction b with
  | done verdict =>
      intro s s' q h
      cases h
      exact ⟨verdict, rfl⟩
  | fail f => exact hb.elim
  | act change next ih => exact fun h => ih _ (hb _) h
  | report d next ih => exact fun h => ih hb h
  | say notice next ih =>
      intro s s' q h
      rw [act, Play.attempt_bind_eq_some_iff] at h
      obtain ⟨q', t, -, h⟩ := h
      exact ih q' (hb q') h
  | flush next ih =>
      intro s s' q h
      rw [act, Play.attempt_bind_eq_some_iff] at h
      obtain ⟨q', t, -, h⟩ := h
      exact ih q' (hb q') h
  | run next ih =>
      intro s s' q h
      rw [act, Play.attempt_bind_eq_some_iff] at h
      obtain ⟨q', t, -, h⟩ := h
      exact ih q' (hb q') h

/-- Whether a flush is concerned. -/
def Happening.ofFlush : Happening → Bool
  | .taken _ | .writing _ | .written _ | .dropped _ => true
  | _ => false

theorem calm_of_forall {past : List Moment}
    (h : ∀ m ∈ past, (∀ batch, m.happening ≠ .taken batch) ∧ ∀ rest, m.happening ≠ .dropped rest) :
    Calm past where
  unbroken m hm := (h m hm).2
  apart := by
    rintro before m after rfl batch hbatch
    exact absurd hbatch ((h m (by simp)).1 batch)

theorem Happening.unflushed {h : Happening} (hflush : h.ofFlush = false) :
    (∀ batch, h ≠ .taken batch) ∧ (∀ rest, h ≠ .dropped rest) ∧ h.handed? = none ∧
      h.written? = none := by
  cases h <;> simp_all [Happening.ofFlush, Happening.handed?, Happening.written?]

theorem Happening.unflushed_of_gathers {h : Happening} (hg : h.gathers) : h.ofFlush = false := by
  cases h <;> first | rfl | cases hg

theorem handedIn_eq_nil {past : List Moment} (h : ∀ m ∈ past, m.happening.ofFlush = false) :
    handedIn past = [] ∧ writtenIn past = [] := by
  constructor
  · exact List.filterMap_eq_nil_iff.mpr fun m hm => (Happening.unflushed (h m hm)).2.2.1
  · exact List.filterMap_eq_nil_iff.mpr fun m hm => (Happening.unflushed (h m hm)).2.2.2

/-- Between the two sessions it is calm, and in the end no writer is at work. -/
def Rests (s s' : Session σ) : Prop :=
  ∃ new, s'.past = s.past ++ new ∧ handedIn new = writtenIn new ∧ Calm new

section
variable {s t u : Session σ}

theorem Rests.of_unflushed {new : List Moment} (hpast : t.past = s.past ++ new)
    (hnew : ∀ m ∈ new, m.happening.ofFlush = false) : Rests s t := by
  obtain ⟨hhanded, hwritten⟩ := handedIn_eq_nil hnew
  refine ⟨new, hpast, hhanded.trans hwritten.symm, calm_of_forall fun m hm => ?_⟩
  obtain ⟨htaken, hdropped, -⟩ := Happening.unflushed (hnew m hm)
  exact ⟨htaken, hdropped⟩

theorem Rests.of_past (hpast : t.past = s.past) : Rests s t :=
  .of_unflushed (hpast.trans (List.append_nil _).symm) fun _ h => absurd h List.not_mem_nil

theorem Rests.noted {h : Happening} (hflush : h.ofFlush = false) : Rests s (s.noted h) :=
  .of_unflushed (s.noted_past h) (List.forall_mem_singleton.mpr hflush)

theorem Rests.trans (h : Rests s t) (h' : Rests t u) : Rests s u := by
  obtain ⟨new, hnew, hidle, hcalm⟩ := h
  obtain ⟨new', hnew', hidle', hcalm'⟩ := h'
  refine ⟨new ++ new', by rw [hnew', hnew, List.append_assoc], ?_, hcalm.append hidle hcalm'⟩
  rw [handedIn_append, writtenIn_append, hidle, hidle']

theorem Rests.emptied : Rests s s.emptied := by
  refine ⟨_, s.emptied_past, rfl, ?_, ?_⟩
  · exact List.forall_mem_singleton.mpr fun _ h => by cases h
  · exact atEach_cons.mpr ⟨fun _ _ => rfl, atEach_nil⟩

/-- The writer is called, does nothing that concerns a flush, and returns. -/
theorem Rests.written {d : Diagnostic} {inner : List Moment}
    (hpast : t.past = (s.noted (.writing d)).past ++ inner)
    (hinner : ∀ m ∈ inner, m.happening.ofFlush = false) : Rests s (t.noted (.written d)) := by
  obtain ⟨hhanded, hwritten⟩ := handedIn_eq_nil hinner
  refine ⟨⟨.writing d, s.world.state, s.world.environment⟩ ::
    (inner ++ [⟨.written d, t.world.state, t.world.environment⟩]), ?_, ?_, ?_⟩
  · rw [Session.noted_past, hpast, Session.noted_past, List.append_assoc, List.append_assoc]
    rfl
  · rw [← List.singleton_append, handedIn_append, handedIn_append, writtenIn_append,
      writtenIn_append, hhanded, hwritten]
    rfl
  · refine calm_of_forall (List.forall_mem_cons.mpr ⟨by simp, List.forall_mem_append.mpr ⟨?_, ?_⟩⟩)
    · intro m hm
      obtain ⟨htaken, hdropped, -⟩ := Happening.unflushed (hinner m hm)
      exact ⟨htaken, hdropped⟩
    · exact List.forall_mem_singleton.mpr (by simp)

end

theorem rests_runLaw : RunLaw (@Rests σ) where
  refl _ := .of_past rfl
  trans _ _ _ := .trans
  touch _ _ := .of_past rfl
  reported _ d := .trans (.of_past rfl) (.noted (h := .reported d) rfl)
  shown _ _ := .of_past rfl
  own _ h hown _ := .noted (by cases h <;> first | rfl | cases hown)
  moved s target _ :=
    .trans (t := { s with world := { s.world with state := target } }) (.of_past rfl) (.noted rfl)

section
variable {p : Pipeline σ}
  (hwrite : ∀ d, (p.collaborators.write d).KeepsToItself ∧ (p.collaborators.write d).NeverFails)
include hwrite

theorem writeAll_rests (r : Reentry σ) (batch : List Diagnostic) :
    (writeAll (fun d => act r (p.collaborators.write d) >>= fun _ => pure ()) batch).Keeps
      Rests := by
  induction batch with
  | nil => exact .pure (fun _ => .of_past rfl) ()
  | cons d rest ih =>
      intro s q s' h
      rw [writeAll, Play.note_bind, Play.attempt_bind_eq_some_iff] at h
      obtain ⟨q', t, hwritten, h⟩ := h
      obtain ⟨hkeeps, hnever⟩ := hwrite d
      rcases Play.bind_eq_some_iff.mp hwritten with ⟨f, hf, -⟩ | ⟨v, t', hok, hdone⟩
      · obtain ⟨v, hv⟩ := exists_ok_of_neverFails r hnever hf
        cases hv
      · cases hdone
        obtain ⟨-, inner, hinner⟩ := act_reports r hkeeps _ _ _ hok
        have hfirst : Rests s (t.noted (.written d)) :=
          .written hinner.past fun m hm => Happening.unflushed_of_gathers (hinner.each m hm)
        exact hfirst.trans (ih _ _ _ h)

theorem flush_rests (depth : Nat) : (p.reentry depth).flush.Keeps Rests := by
  cases depth with
  | zero => exact .endless
  | succ depth =>
      intro s r s' h
      change flushWith _ s = _ at h
      rw [flushWith, Play.take_bind] at h
      exact Rests.emptied.trans (writeAll_rests hwrite _ _ _ _ _ h)

/-- Whatever is done to a pipeline whose writer only reports, it is calm.  The induction is on how
deep collaborators go. -/
theorem act_rests (depth : Nat) (b : Behaviour σ) : (act (p.reentry depth) b).Keeps Rests := by
  have hrun : (p.reentry depth).run.Keeps Rests := by
    induction depth with
    | zero => exact .endless
    | succ depth ih =>
        have hflush := flush_rests hwrite depth
        have hperform (b : Behaviour σ) : (act (p.reentry depth) b).Keeps Rests :=
          keeps_act rests_runLaw.toActLaw hflush (.inr ih)
        have hflush' := flush_rests hwrite (depth + 1)
        refine keeps_runWith rests_runLaw (fun k => ?_) hflush'
        refine k.keeps_play rests_runLaw (fun _ => .noted ?_) fun b _ => hperform b
        cases k <;> rfl
  exact keeps_act rests_runLaw.toActLaw (flush_rests hwrite depth) (.inr hrun)

end

/-! ## Everything that is done to a pipeline -/

/-- Whatever is done to a pipeline, from outside and by its collaborators: if its writer only
reports, it is calm; and if it is calm, then at every moment the diagnostics stand in one line, what
is reported during a flush comes to the writer in a later one, and in the end all that has been
reported has been written, in order, up to what is pending. -/
theorem diagnostics_in_order (p : Pipeline σ) (depth : Nat) (b : Behaviour σ) {s s' : Session σ}
    {r : Except Fault Bool} (h : act (p.reentry depth) b s = some (r, s')) :
    ∃ new, s'.past = s.past ++ new ∧
      ((∀ d, (p.collaborators.write d).KeepsToItself ∧ (p.collaborators.write d).NeverFails) →
        Calm new) ∧
      (Calm new →
        AtEach (fun before m after =>
          Lined s.world.environment.pending (before ++ [m]) m.environment.pending ∧
            ComesLater s.world.environment.pending before m after) new ∧
        writtenIn new ++ s'.world.environment.pending =
          s.world.environment.pending ++ reportedIn new) := by
  obtain ⟨new, hnew, hpath⟩ := act_path p depth b h
  refine ⟨new, hnew, fun hwrite => ?_, fun hcalm => ⟨?_, ?_⟩⟩
  · obtain ⟨new', hnew', -, hcalm⟩ := act_rests hwrite depth b s r s' h
    rwa [List.append_cancel_left (hnew.symm.trans hnew')]
  · rintro before m after rfl
    constructor
    · rw [List.append_cons] at hpath hcalm
      obtain ⟨q, hfront, -⟩ := hpath.exists_of_append
      rw [hfront.pending_of_concat]
      exact (inOrder_of_path hfront hcalm.front).lined hfront
    · rintro d hm more rest rfl
      obtain ⟨q, hbefore, -⟩ := hpath.exists_of_append
      rw [← List.cons_append, ← List.append_assoc] at hpath hcalm
      obtain ⟨q', hfront, -⟩ := hpath.exists_of_append
      exact comesLater_of_inOrder hm (inOrder_of_path hbefore hcalm.front.front)
        (inOrder_of_path hfront hcalm.front)
  · have hlast := inOrder_of_path hpath hcalm
    have hlined : writtenIn new ++ [] = takenIn new := hlast.unwritten
    rw [← hlast.pending, ← hlined, List.append_nil]

/-- An engine that reports in both of its calls, has the diagnostics written in the first and says
no to the second; a callback that reports; and a writer that answers one diagnostic with another. -/
def echoingPipeline : Pipeline Unit where
  collaborators :=
    { compile := fun _ => .report ⟨.note, "compiling"⟩ (.flush fun _ => .done true)
      execute := fun _ => .report ⟨.note, "executing"⟩ (.done false)
      onError := some fun _ => .report ⟨.note, "heard"⟩ (.done true)
      write := fun d =>
        if d.text = "compiling" then .report ⟨.note, "echo"⟩ (.done true) else .done true }
  documents := []

/-- A report, a run, another report and a flush. -/
def reportsAround : Behaviour Unit :=
  .report ⟨.note, "before"⟩ (.run fun _ => .report ⟨.note, "after"⟩ (.flush fun _ => .done true))

theorem echoingPipeline_writer (d : Diagnostic) :
    (echoingPipeline.collaborators.write d).KeepsToItself ∧
      (echoingPipeline.collaborators.write d).NeverFails := by
  dsimp only [echoingPipeline]
  split
  · exact ⟨trivial, trivial⟩
  · exact ⟨trivial, trivial⟩

theorem echoingPipeline_in_order : ∃ r s',
    act (echoingPipeline.reentry 2) reportsAround (.blank ()) = some (r, s') ∧
    ∃ new, s'.past = (Session.blank ()).past ++ new ∧ Calm new ∧
      AtEach (fun before m after =>
        Lined [] (before ++ [m]) m.environment.pending ∧ ComesLater [] before m after) new ∧
      writtenIn new = reportedIn new ∧
      (writtenIn new).map Diagnostic.text =
        ["before", "compiling", "echo", "executing", "heard", "after"] := by
  have hresult : (act (echoingPipeline.reentry 2) reportsAround (.blank ())).map (fun q =>
      (q.2.world.environment.pending, (writtenIn q.2.past).map Diagnostic.text)) =
        some ([], ["before", "compiling", "echo", "executing", "heard", "after"]) := rfl
  obtain ⟨⟨r, s'⟩, hrun, hq⟩ := Option.map_eq_some_iff.mp hresult
  simp only [Prod.mk.injEq] at hq
  obtain ⟨hpending, htexts⟩ := hq
  obtain ⟨new, hnew, hcalm, horder⟩ :=
    diagnostics_in_order echoingPipeline 2 reportsAround hrun
  have hcalm := hcalm echoingPipeline_writer
  obtain ⟨heach, hwritten⟩ := horder hcalm
  rw [hpending, List.append_nil] at hwritten
  have hpast : s'.past = new := hnew
  rw [hpast] at htexts
  exact ⟨r, s', hrun, new, hnew, hcalm, heach, hwritten, htexts⟩

end TemplateRun
