/-
# `Nesting` — which order is left when runs are nested

Whether the pipeline is ready is asked when a run starts, and the state changes only when compiling
has come back.  So the engine can start a second run while it compiles for the first; the second
comes to its end, and then the first goes on from there.

What can be relied on is a matter of how many compile calls have not come back (`compiling`).  No
run starts unless the pipeline is ready, a final state that is reached while no compile call is
open stays, and nothing is executed after a compile call that says no and is the last one open
(`Orderly`).  A final state that is reached inside a compile call need not stay, and what is
executed may have been refused inside (`nestingPipeline`).
-/
import TemplateRun.Proofs.Pipeline.Reentry

namespace TemplateRun

variable {σ : Type}

/-! ## Open compile calls -/

/-- By how many compile calls there are more that have not come back. -/
def Happening.opens : Happening → Int
  | .compileCalled _ => 1
  | .compileReturned _ | .compileFaulted _ => -1
  | _ => 0

/-- How many compile calls have not come back. -/
def compiling : List Moment → Int
  | [] => 0
  | m :: past => m.happening.opens + compiling past

theorem compiling_append (past more : List Moment) :
    compiling (past ++ more) = compiling past + compiling more := by
  induction past with
  | nil => exact (Int.zero_add _).symm
  | cons m past ih => rw [List.cons_append, compiling, compiling, ih, Int.add_assoc]

theorem compiling_singleton (m : Moment) : compiling [m] = m.happening.opens := Int.add_zero _

theorem compiling_eq_zero {past : List Moment} (h : ∀ m ∈ past, m.happening.opens = 0) :
    compiling past = 0 := by
  induction past with
  | nil => rfl
  | cons m past ih =>
      rw [compiling, h m List.mem_cons_self, ih fun m' hm' => h m' (List.mem_cons_of_mem m hm')]
      rfl

theorem Happening.opens_eq_zero {h : Happening} (hh : h.ofEngine = false) : h.opens = 0 := by
  cases h <;> first | rfl | exact nomatch hh

theorem Abides.opens_eq_zero {state : RunState} {past : List Moment} (h : Abides state past) :
    ∀ m ∈ past, m.happening.opens = 0 := by
  intro m hm
  exact Happening.opens_eq_zero (h m hm).2

/-! ## Order -/

def Happening.isExecuteCall : Happening → Bool
  | .executeCalled _ => true
  | _ => false

theorem Happening.isExecuteCall_eq_false {h : Happening} (hh : h.ofEngine = false) :
    h.isExecuteCall = false := by
  cases h <;> first | rfl | exact nomatch hh

theorem Abides.isExecuteCall {state : RunState} {past : List Moment} (h : Abides state past) :
    ∀ m ∈ past, m.happening.isExecuteCall = false := by
  intro m hm
  exact Happening.isExecuteCall_eq_false (h m hm).2

/-- From `m` on the state is the one that `m` left. -/
def Stays (last : RunState) (m : Moment) (after : List Moment) : Prop :=
  last = m.state ∧ ∀ m' ∈ after, m'.state = m.state

/-- `Orderly start past last`: what can be relied on if a past leads from `start` to `last`. -/
structure Orderly (start : RunState) (past : List Moment) (last : RunState) : Prop where
  /-- Nothing is run in another state than ready. -/
  settled : start ≠ .ready → last = start ∧ Silent start past
  /-- A compile call comes back once. -/
  covered : AtEach (fun before m _ => 0 ≤ compiling before ∧ 0 ≤ compiling (before ++ [m])) past
  /-- In the end each compile call has come back. -/
  balanced : compiling past = 0
  /-- Outside of compile calls, a final state stays. -/
  final : AtEach (fun before m after =>
    compiling before = 0 → m.state.isTerminal → Stays last m after) past
  /-- When the last open compile call says no, the pipeline has failed for good. -/
  refused : AtEach (fun before m after =>
    compiling before = 1 → m.happening = .compileReturned false →
      last = .compileFailed ∧ ∀ m' ∈ after, m'.happening.isExecuteCall = false) past

section
variable {start next last : RunState} {past more : List Moment}

theorem RunState.ne_ready {state : RunState} (h : state.isTerminal) : state ≠ .ready := by
  rintro rfl
  exact nomatch h

theorem covered_of_opens (h : ∀ m ∈ past, m.happening.opens = 0) :
    AtEach (fun before m _ => compiling before = 0 ∧ compiling (before ++ [m]) = 0) past := by
  rintro before m after rfl
  have hbefore : ∀ m' ∈ before, m'.happening.opens = 0 := fun m' hm' =>
    h m' (List.mem_append_left _ hm')
  refine ⟨compiling_eq_zero hbefore, compiling_eq_zero fun m' hm' => ?_⟩
  rcases List.mem_append.mp hm' with hm' | hm'
  · exact hbefore m' hm'
  · rw [List.mem_singleton.mp hm']
    exact h m (by simp)

theorem stays_of_last (front : List Moment) {back : List Moment}
    (hfront : ∀ m ∈ front, m.state = .compiled) (hback : ∀ m ∈ back, m.state = last) :
    AtEach (fun _ m after => m.state.isTerminal → Stays last m after) (front ++ back) := by
  refine atEach_append.mpr ⟨?_, ?_⟩
  · rintro before m after rfl hterminal
    rw [hfront m (by simp)] at hterminal
    exact nomatch hterminal
  · rintro before m after rfl -
    have hm : m.state = last := hback m (by simp)
    refine ⟨hm.symm, fun m' hm' => ?_⟩
    rw [hm]
    exact hback m' (by simp [hm'])

theorem Orderly.of_silent {state : RunState} (h : Silent state past) :
    Orderly state past state := by
  have hopens := h.abides.opens_eq_zero
  refine ⟨fun _ => ⟨rfl, h⟩, ?_, compiling_eq_zero hopens, ?_, ?_⟩
  · exact (covered_of_opens hopens).mono fun _ _ _ ⟨hbefore, hafter⟩ =>
      ⟨Int.le_of_eq hbefore.symm, Int.le_of_eq hafter.symm⟩
  · have hstays := stays_of_last [] (fun _ h => nomatch h) fun m hm => (h m hm).1
    exact hstays.mono fun _ _ _ h _ => h
  · rintro before m after rfl - hm
    have hown := (h m (by simp)).2
    rw [hm] at hown
    exact nomatch hown

theorem Orderly.append (h : Orderly start past next) (h' : Orderly next more last) :
    Orderly start (past ++ more) last := by
  have hcount (before : List Moment) : compiling (past ++ before) = compiling before := by
    rw [compiling_append, h.balanced, Int.zero_add]
  constructor
  case settled =>
    intro hstart
    obtain ⟨rfl, hsilent⟩ := h.settled hstart
    obtain ⟨rfl, hsilent'⟩ := h'.settled hstart
    refine ⟨rfl, fun m hm => ?_⟩
    rcases List.mem_append.mp hm with hm | hm
    · exact hsilent m hm
    · exact hsilent' m hm
  case covered =>
    refine atEach_append.mpr ⟨h.covered, h'.covered.mono fun before m _ hm => ?_⟩
    rwa [List.append_assoc, hcount, hcount]
  case balanced => rw [hcount, h'.balanced]
  case final =>
    refine atEach_append.mpr ⟨h.final.mono ?_, h'.final.mono ?_⟩
    · intro before m after hm hclosed hterminal
      obtain ⟨hnext, hafter⟩ := hm hclosed hterminal
      -- the state is final before `more` begins, so nothing but silence follows
      obtain ⟨hlast, hsilent⟩ := h'.settled (hnext ▸ RunState.ne_ready hterminal)
      refine ⟨hlast.trans hnext, fun m' hm' => ?_⟩
      rcases List.mem_append.mp hm' with hm' | hm'
      · exact hafter m' hm'
      · exact (hsilent m' hm').1.trans hnext
    · intro before m after hm hclosed
      rw [hcount] at hclosed
      exact hm hclosed
  case refused =>
    refine atEach_append.mpr ⟨h.refused.mono ?_, h'.refused.mono ?_⟩
    · intro before m after hm hopen hrefused
      obtain ⟨hnext, hafter⟩ := hm hopen hrefused
      obtain ⟨hlast, hsilent⟩ := h'.settled (hnext ▸ nofun)
      refine ⟨hlast.trans hnext, fun m' hm' => ?_⟩
      rcases List.mem_append.mp hm' with hm' | hm'
      · exact hafter m' hm'
      · exact hsilent.abides.isExecuteCall m' hm'
    · intro before m after hm hopen
      rw [hcount] at hopen
      exact hm hopen

end

/-! ## Runs -/

section
variable {p : Pipeline σ} {c : Collaborators σ} {state last : RunState} {e : Environment}
  {inner past : List Moment} {r : Except Fault RunState}

/-- What follows on a compile call: the templates are executed while the state is not final, and
then the last state abides.  If the call was refused, nothing is executed. -/
structure Follows (answer : Happening) (past : List Moment) (last : RunState) : Prop where
  opens : ∀ m ∈ past, m.happening.opens = 0
  final : AtEach (fun _ m after => m.state.isTerminal → Stays last m after) past
  refused : answer = .compileReturned false →
    last = .compileFailed ∧ ∀ m ∈ past, m.happening.isExecuteCall = false

theorem Abides.follows {answer : Happening} (h : Abides last past)
    (hanswer : answer = .compileReturned false → last = .compileFailed) :
    Follows answer past last where
  opens := h.opens_eq_zero
  final := stays_of_last [] (fun _ h => nomatch h) fun m hm => (h m hm).1
  refused ha := ⟨hanswer ha, h.isExecuteCall⟩

theorem Executes.splits (h : Executes c e past r last) : ∃ front back, past = front ++ back ∧
    (∀ m ∈ front, m.state = .compiled ∧ m.happening.opens = 0) ∧ Abides last back := by
  have hcall {inner : List Moment} {m : Moment} (hinner : Silent .compiled inner)
      (hm : m.state = .compiled ∧ m.happening.opens = 0) :
      ∀ m' ∈ ⟨.executeCalled (Document.templates e.compilations), .compiled, e⟩ ::
        (inner ++ [m]), m'.state = .compiled ∧ m'.happening.opens = 0 := by
    refine List.forall_mem_cons.mpr ⟨⟨rfl, rfl⟩, List.forall_mem_append.mpr ⟨?_, ?_⟩⟩
    · exact fun m' hm' => ⟨(hinner m' hm').1, hinner.abides.opens_eq_zero m' hm'⟩
    · exact List.forall_mem_singleton.mpr hm
  cases h with
  | faulted e' f hinner =>
      exact ⟨_, [], (List.append_nil _).symm, hcall hinner ⟨rfl, rfl⟩, abides_nil⟩
  | @refused inner past _ e' hinner hgives =>
      refine ⟨_, ⟨.moved .compiled .executeFailed, .executeFailed, e'⟩ :: past, ?_,
        hcall (m := ⟨.executeReturned false, .compiled, e'⟩) hinner ⟨rfl, rfl⟩, ?_⟩
      · simp
      · exact abides_cons.mpr ⟨⟨rfl, rfl⟩, hgives.abides⟩
  | @accepted inner past _ e' hinner hcloses =>
      refine ⟨_, ⟨.moved .compiled .executed, .executed, e'⟩ :: past, ?_,
        hcall (m := ⟨.executeReturned true, .compiled, e'⟩) hinner ⟨rfl, rfl⟩, ?_⟩
      · simp
      · exact abides_cons.mpr ⟨⟨rfl, rfl⟩, hcloses.abides⟩

theorem Executes.follows (h : Executes c e past r last) :
    Follows (.compileReturned true)
      (⟨.moved state .compiled, .compiled, e⟩ :: (warning e ++ past)) last := by
  obtain ⟨front, back, rfl, hfront, hback⟩ := h.splits
  have hwarning : ∀ m ∈ warning e, m.state = .compiled ∧ m.happening.opens = 0 :=
    forall_mem_warning ⟨rfl, rfl⟩
  have hall : ∀ m ∈ ⟨.moved state .compiled, .compiled, e⟩ :: (warning e ++ front),
      m.state = .compiled ∧ m.happening.opens = 0 :=
    List.forall_mem_cons.mpr ⟨⟨rfl, rfl⟩, List.forall_mem_append.mpr ⟨hwarning, hfront⟩⟩
  rw [← List.append_assoc, ← List.cons_append]
  refine ⟨?_, stays_of_last _ (fun m hm => (hall m hm).1) fun m hm => (hback m hm).1, nofun⟩
  exact List.forall_mem_append.mpr ⟨fun m hm => (hall m hm).2, hback.opens_eq_zero⟩

theorem Runs.splits (h : Runs p e inner state past r last) : ∃ answer e' rest,
    past = ⟨.compileCalled p.documents, .ready, e⟩ :: (inner ++ ⟨answer, state, e'⟩ :: rest) ∧
      answer.opens = -1 ∧ Follows answer rest last := by
  cases h with
  | faulted e' f =>
      exact ⟨_, e', [], rfl, rfl, abides_nil.follows fun h => nomatch h⟩
  | refused e' hgives =>
      refine ⟨_, e', _, rfl, rfl, Abides.follows ?_ fun _ => rfl⟩
      exact abides_cons.mpr ⟨⟨rfl, rfl⟩, hgives.abides⟩
  | accepted e' hexecutes => exact ⟨_, e', _, rfl, rfl, hexecutes.follows⟩

/-- A run is in order if what happens inside its compile call is.  There one compile call more is
open, so a moment inside is asked for less than outside. -/
theorem Orderly.of_runs (hinner : Orderly .ready inner state)
    (h : Runs p e inner state past r last) : Orderly .ready past last := by
  obtain ⟨answer, e', rest, rfl, hanswer, hrest⟩ := h.splits
  have hin (before : List Moment) :
      compiling (⟨.compileCalled p.documents, .ready, e⟩ :: before) = 1 + compiling before := rfl
  have hout (before : List Moment) :
      compiling (⟨.compileCalled p.documents, .ready, e⟩ ::
        (inner ++ ⟨answer, state, e'⟩ :: before)) = compiling before := by
    rw [hin, compiling_append, hinner.balanced, compiling, hanswer]
    omega
  have hclosed := covered_of_opens hrest.opens
  constructor
  case settled => exact fun h => absurd rfl h
  case covered =>
    refine atEach_call ⟨Int.le_refl 0, Int.zero_le_ofNat 1⟩ (hinner.covered.mono ?_) ?_
      (hclosed.mono ?_)
    · intro before m _ ⟨hbefore, hafter⟩
      rw [List.cons_append, hin, hin]
      omega
    · rw [List.cons_append, hin, hout, hinner.balanced]
      decide
    · intro before m _ ⟨hbefore, hafter⟩
      rw [List.cons_append, List.append_assoc, List.cons_append, hout, hout]
      omega
  case balanced => rw [hout, compiling_eq_zero hrest.opens]
  case final =>
    refine atEach_call (fun _ h => nomatch h) (hinner.covered.mono ?_) ?_ (hrest.final.mono ?_)
    · intro before m _ ⟨hbefore, _⟩ hnone
      rw [hin] at hnone
      omega
    · intro hnone
      rw [hin, hinner.balanced] at hnone
      exact nomatch hnone
    · intro before m _ hm _
      exact hm
  case refused =>
    refine atEach_call (fun h => nomatch h) (hinner.covered.mono ?_) ?_ (hclosed.mono ?_)
    · intro before m _ ⟨_, hafter⟩ hone hm
      rw [compiling_append, compiling_singleton, hm, Happening.opens] at hafter
      rw [hin] at hone
      omega
    · intro _ hm
      exact hrest.refused hm
    · intro before m _ ⟨hbefore, _⟩ hone
      rw [hout] at hone
      omega

theorem Stretch.orderly (h : Stretch p state past last) : Orderly state past last := by
  -- the induction is on how runs are nested
  induction h with
  | nil state => exact .of_silent fun _ h => nomatch h
  | @cons state _ m _ hstate hown _ ih =>
      have hsilent : Silent state [m] := by
        intro m' hm'
        rw [List.mem_singleton.mp hm']
        exact ⟨hstate, hown⟩
      exact (Orderly.of_silent hsilent).append ih
  | run _ hrun _ hinner hrest => exact .append (.of_runs hinner hrun) hrest

end

/-- Whatever is done to a pipeline, from outside and by its collaborators, runs are in order. -/
theorem runs_orderly (p : Pipeline σ) (depth : Nat) (b : Behaviour σ) {s s' : Session σ}
    {r : Except Fault Bool} (h : act (p.reentry depth) b s = some (r, s')) :
    ∃ new, s'.past = s.past ++ new ∧ Orderly s.world.state new s'.world.state := by
  obtain ⟨new, hnew, hstretch⟩ := keeps_traverses p depth b s r s' h
  exact ⟨new, hnew, hstretch.orderly⟩

/-- An engine that runs the pipeline again from inside its first compile call.  It says no to the
second call and then yes to the first. -/
def nestingPipeline : Pipeline Bool where
  collaborators :=
    { compile := fun _ => .look fun w =>
        if w.memory then .done false
        else .change (fun w => { w.asTouch with memory := true }) (.run fun _ => .done true)
      execute := fun _ => .done true
      onError := none
      write := fun _ => .done true }
  documents := ["a.jamplate"]

theorem nestingPipeline_orderly : ∃ r s',
    act (nestingPipeline.reentry 3) (.run fun _ => .done true) (.blank false) = some (r, s') ∧
    ∃ new, s'.past = (Session.blank false).past ++ new ∧ Orderly .ready new s'.world.state := by
  have hsome : (act (nestingPipeline.reentry 3) (.run fun _ => .done true) (.blank false)).isSome :=
    rfl
  obtain ⟨⟨r, s'⟩, hrun⟩ := Option.isSome_iff_exists.mp hsome
  exact ⟨r, s', hrun, runs_orderly nestingPipeline 3 _ hrun⟩

/-- A failure inside the compile call does not stay, and what was refused there is executed. -/
theorem nestingPipeline_moves_on : ∃ s',
    nestingPipeline.run (.blank false) = some (.ok .executed, s') ∧
    ¬ AtEach (fun _ m after =>
      m.state.isTerminal → ∀ m' ∈ after, m'.state = m.state) s'.past ∧
    ¬ AtEach (fun _ m after => m.happening = .compileReturned false →
      ∀ m' ∈ after, m'.happening.isExecuteCall = false) s'.past := by
  have hresult : (nestingPipeline.run (.blank false)).map (fun q => (q.1,
      decide (AtEach (fun _ m after =>
        m.state.isTerminal → ∀ m' ∈ after, m'.state = m.state) q.2.past),
      decide (AtEach (fun _ m after => m.happening = .compileReturned false →
        ∀ m' ∈ after, m'.happening.isExecuteCall = false) q.2.past))) =
      some (.ok .executed, false, false) := rfl
  obtain ⟨⟨r, s'⟩, hrun, hq⟩ := Option.map_eq_some_iff.mp hresult
  simp only [Prod.mk.injEq, decide_eq_false_iff_not] at hq
  obtain ⟨rfl, hstays, hrefused⟩ := hq
  exact ⟨s', hrun, hstays, hrefused⟩

end TemplateRun
