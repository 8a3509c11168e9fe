/-
# `Way` — the ways in which a run of the program's pipeline ends

There are five: the engine faults in one of its two calls, says no in one of them, or says yes in
both.  Each way has its result (`RunWay.result`), and it can be told from what has happened, in both
directions (`RunWay.Traces`): what the engine has returned, the fault that it has ended in and the
headline that was announced each occur in the way that goes with them and in no other.
-/
import TemplateRun.Command.ExitCode
import TemplateRun.Proofs.Pipeline.Course

namespace TemplateRun

variable {σ : Type}

/-! ## Happenings -/

def Happened (h : Happening) (past : List Moment) : Prop := ∃ m ∈ past, m.happening = h

theorem happened_calls_iff {h : Happening} (hh : h.isCall) (past : List Moment) :
    Happened h (calls past) ↔ Happened h past := by
  constructor
  · rintro ⟨m, hm, rfl⟩
    exact ⟨m, (List.mem_filter.mp hm).1, rfl⟩
  · rintro ⟨m, hm, rfl⟩
    exact ⟨m, List.mem_filter.mpr ⟨hm, hh⟩, rfl⟩

/-! ## Ways -/

/-- How a run ends. -/
inductive RunWay where
  | compileFaulted (f : Fault)
  | executeFaulted (f : Fault)
  | compileRefused
  | executeRefused
  | executed

namespace RunWay

def result : RunWay → Except Fault RunState
  | compileFaulted f | executeFaulted f => .error f
  | compileRefused => .ok .compileFailed
  | executeRefused => .ok .executeFailed
  | executed => .ok .executed

/-- What compiling has returned, if it has. -/
def compiled? : RunWay → Option Bool
  | compileFaulted _ => none
  | compileRefused => some false
  | executeFaulted _ | executeRefused | executed => some true

/-- What executing has returned, if it has. -/
def executed? : RunWay → Option Bool
  | executeRefused => some false
  | executed => some true
  | compileFaulted _ | executeFaulted _ | compileRefused => none

/-- The fault in which the engine has ended, if it has. -/
def fault? : RunWay → Option Fault
  | compileFaulted f | executeFaulted f => some f
  | compileRefused | executeRefused | executed => none

/-- The failure that is announced, if there is one. -/
def headline? : RunWay → Option Headline
  | compileRefused => some .compilation
  | executeRefused => some .execution
  | compileFaulted _ | executeFaulted _ | executed => none

/-- What has happened tells the way. -/
structure Traces (way : RunWay) (past : List Moment) : Prop where
  compiled : ∀ v, Happened (.compileReturned v) past ↔ way.compiled? = some v
  executed : ∀ v, Happened (.executeReturned v) past ↔ way.executed? = some v
  faulted : ∀ f, Happened (.compileFaulted f) past ∨ Happened (.executeFaulted f) past ↔
    way.fault? = some f
  announced : ∀ headline, Happened (.errorCalled headline) past ↔ way.headline? = some headline
  closed : ∀ m ∈ past, m.happening = .closing → (ExitCode.ofState? m.state).isSome

theorem Traces.of_calls {way : RunWay} {past : List Moment} (h : way.Traces (calls past)) :
    way.Traces past where
  compiled v := by rw [← h.compiled, happened_calls_iff rfl]
  executed v := by rw [← h.executed, happened_calls_iff rfl]
  faulted f := by rw [← h.faulted, happened_calls_iff rfl, happened_calls_iff rfl]
  announced headline := by rw [← h.announced, happened_calls_iff rfl]
  closed m hm hclosing := by
    refine h.closed m (List.mem_filter.mpr ⟨hm, ?_⟩) hclosing
    rw [hclosing]
    rfl

theorem course_ne_nil {c : Collaborators σ} {documents : List String} {start : Environment}
    {made : List Moment} {r : Except Fault RunState} {state : RunState}
    (h : Course c documents start made r state) : made ≠ [] := by
  cases h <;> simp

theorem getLast?_calls {past new before : List Moment} {m : Moment}
    (hpast : past ++ new = before ++ [m]) (hm : m.happening.isCall) (hne : calls new ≠ []) :
    (calls new).getLast? = some m := by
  rcases List.eq_nil_or_concat new with rfl | ⟨front, last, rfl⟩
  · exact absurd rfl hne
  · rw [List.concat_eq_append, ← List.append_assoc] at hpast
    obtain ⟨-, hlast⟩ := List.append_inj' hpast rfl
    cases hlast
    have hcall : calls [m] = [m] := List.filter_cons_of_pos hm
    rw [List.concat_eq_append, calls_append, hcall, List.getLast?_concat]

theorem exists_traces_of_returned {c : Collaborators σ} (hheard : c.onError.isSome)
    {documents : List String} {start : Environment} {opening announcement : List Moment}
    {headline : Option Headline} {state : RunState} (e : Environment)
    (ho : Opening documents start opening headline state)
    (ha : Announced c headline state announcement) :
    ∃ way : RunWay, way.result = .ok state ∧
      way.Traces (opening ++ announcement ++ [⟨.closing, state, e⟩]) := by
  have hunheard : c.onError ≠ none := fun h => by rw [h] at hheard; exact nomatch hheard
  cases ho with
  | compileRefused _ =>
      cases ha with
      | unheard _ _ h => exact absurd h hunheard
      | heard _ _ _ _ _ =>
          refine ⟨.compileRefused, rfl, ?_, ?_, ?_, ?_, ?_⟩
          all_goals simp [Happened, compiled?, executed?, fault?, headline?, ExitCode.ofState?]
  | executeRefused _ _ =>
      cases ha with
      | unheard _ _ h => exact absurd h hunheard
      | heard _ _ _ _ _ =>
          refine ⟨.executeRefused, rfl, ?_, ?_, ?_, ?_, ?_⟩
          all_goals simp [Happened, compiled?, executed?, fault?, headline?, ExitCode.ofState?]
  | executed _ _ =>
      cases ha with
      | silent _ =>
          refine ⟨.executed, rfl, ?_, ?_, ?_, ?_, ?_⟩
          all_goals simp [Happened, compiled?, executed?, fault?, headline?, ExitCode.ofState?]

/-- A run that a callback hears, and in which only the engine can fault, goes one of the ways. -/
theorem exists_traces {c : Collaborators σ} (hheard : c.onError.isSome) {documents : List String}
    {start : Environment} {made : List Moment} {r : Except Fault RunState} {state : RunState}
    (h : Course c documents start made r state)
    (hengine : ∀ f, r = .error f → ∃ m, made.getLast? = some m ∧
      (m.happening = .compileFaulted f ∨ m.happening = .executeFaulted f)) :
    ∃ way : RunWay, way.result = r ∧ way.Traces made := by
  cases h with
  | compileFaulted e f =>
      refine ⟨.compileFaulted f, rfl, ?_, ?_, ?_, ?_, ?_⟩
      all_goals simp [Happened, compiled?, executed?, fault?, headline?]
  | executeFaulted e e' f =>
      refine ⟨.executeFaulted f, rfl, ?_, ?_, ?_, ?_, ?_⟩
      all_goals simp [Happened, compiled?, executed?, fault?, headline?]
  -- in the last two courses with a fault the last call is not one of the engine
  | errorFaulted e e' f ho hc =>
      obtain ⟨m, hm, h⟩ := hengine f rfl
      rw [List.append_cons, List.getLast?_concat] at hm
      cases hm
      rcases h with h | h <;> exact nomatch h
  | closingFaulted e f ho ha =>
      obtain ⟨m, hm, h⟩ := hengine f rfl
      rw [List.getLast?_concat] at hm
      cases hm
      rcases h with h | h <;> exact nomatch h
  | returned e ho ha => exact exists_traces_of_returned hheard e ho ha

end RunWay

end TemplateRun
