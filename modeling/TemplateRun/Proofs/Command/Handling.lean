/-
# `Handling` — what is done about a fault that comes out of the program

At the last boundary a fault leads to a status, or is let out (`Fault.handled`).  Which it is
depends on the sort of the fault:

    a wish to end the program        is granted
    the interrupt                    is acknowledged
    another fault that is no error   is let out
    an error                         is explained, if the program knows it, and else reported

All that is written on the way can be written, but for the report: the name of the error's kind
stands in it unescaped.  If the report cannot be written, what comes out is the fault of writing it,
so that `handled` is shown for faults that are `Writable` on the console that there is.
-/
import TemplateRun.Proofs.Command.Program

namespace TemplateRun

variable {σ : Type}

open Command (ExitStatus)

/-! ## What a fault leads to -/

namespace Fault

/-- The fault is an error, and none that the program explains. -/
def Unexpected (f : Fault) : Prop := f.isError ∧ f.family? = none

/-- The status that a fault which comes out leads to, or the fault that is let out. -/
def handled : Fault → Except Fault ExitStatus
  | exit wish => .ok (.granted wish)
  | interrupt _ => .ok (.code .keyboardInterrupt)
  | beyond kind message => .error (.beyond kind message)
  | fault => .ok (.code (if fault.family?.isSome then .generalError else .unexpectedError))

theorem handled_of_isError {f : Fault} (h : f.isError) : f.handled =
    .ok (.code (if f.family?.isSome then .generalError else .unexpectedError)) := by
  cases f with
  | exit _ | interrupt _ | beyond _ _ => exact nomatch h
  | _ => rfl

theorem sorts (f : Fault) : (∃ wish, f = .exit wish) ∨ (∃ message, f = .interrupt message) ∨
    (∃ kind message, f = .beyond kind message) ∨ f.isError := by
  cases f with
  | exit wish => exact .inl ⟨wish, rfl⟩
  | interrupt message => exact .inr (.inl ⟨message, rfl⟩)
  | beyond kind message => exact .inr (.inr (.inl ⟨kind, message, rfl⟩))
  | _ => exact .inr (.inr (.inr rfl))

theorem handled_of_family {f : Fault} (h : f.family?.isSome) :
    f.handled = .ok (.code .generalError) := by
  have herror : f.isError := by
    cases f with
    | exit _ | interrupt _ | beyond _ _ => exact nomatch h
    | _ => rfl
  rw [handled_of_isError herror, if_pos h]

theorem handled_of_unexpected {f : Fault} (h : f.Unexpected) :
    f.handled = .ok (.code .unexpectedError) := by
  rw [handled_of_isError h.1, h.2]
  rfl

/-- The report of the fault, if one is due, can be written. -/
def Writable (c : Console) (f : Fault) : Prop :=
  f.Unexpected → ∃ text, c.writeUnexpected f = .ok text

/-- On a plain console nothing can go wrong, and neither can it if the name of the kind holds no
opening bracket. -/
theorem writable_of_name {c : Console} {f : Fault}
    (h : c = .plain ∨ '[' ∉ f.kindName.toList) : f.Writable c := by
  rintro -
  rcases h with rfl | hname
  · exact ⟨_, rfl⟩
  · exact c.writeUnexpected_eq_ok hname

end Fault

/-! ## What is done -/

namespace Command

theorem put_aside (line : Console → Except Markup.Defect String) {s : Session σ} {text : String}
    (h : line s.terminal.console = .ok text) :
    ∃ s', Play.put line s = some (.ok (), s') ∧ Aside s s' := by
  refine ⟨{ s with terminal := s.terminal.show text }, by rw [Play.put, h], ?_⟩
  exact ⟨rfl, rfl, rfl, text, rfl⟩

theorem handle_of_isError {f : Fault} (h : f.isError) : (handle f : Play σ ExitStatus) =
    if f.family?.isSome then (do explain f; return .code .generalError)
    else (do Play.put (·.writeUnexpected f); return .code .unexpectedError) := by
  cases f with
  | exit _ | interrupt _ | beyond _ _ => exact nomatch h
  | _ => rfl

theorem handle_of_unexpected {f : Fault} (h : f.Unexpected) : (handle f : Play σ ExitStatus) =
    (do Play.put (·.writeUnexpected f); return .code .unexpectedError) := by
  rw [handle_of_isError h.1, h.2]
  rfl

theorem handle_of_writable {f : Fault} {s : Session σ} (h : f.Writable s.terminal.console) :
    ∃ s', handle f s = some (f.handled, s') ∧ Aside s s' := by
  rcases f.sorts with ⟨wish, rfl⟩ | ⟨message, rfl⟩ | ⟨kind, message, rfl⟩ | herror
  · exact ⟨s, rfl, .refl s⟩
  · exact bind_aside (say_aside _) (pure_aside (ExitStatus.code .keyboardInterrupt)) s
  · exact ⟨s, rfl, .refl s⟩
  · by_cases hfamily : f.family?.isSome
    · rw [handle_of_isError herror, if_pos hfamily, Fault.handled_of_family hfamily]
      exact bind_aside (explain_aside f) (pure_aside (ExitStatus.code .generalError)) s
    · have hunexpected : f.Unexpected := ⟨herror, Option.not_isSome_iff_eq_none.mp hfamily⟩
      obtain ⟨text, htext⟩ := h hunexpected
      obtain ⟨s', hs', haside⟩ := put_aside (·.writeUnexpected f) htext
      rw [handle_of_unexpected hunexpected, Fault.handled_of_unexpected hunexpected]
      exact ⟨s', Play.bind_eq_some_iff.mpr (.inr ⟨(), s', hs', rfl⟩), haside⟩

theorem handle_ends (f : Fault) (s : Session σ) : ∃ r s', handle f s = some (r, s') ∧ Aside s s' ∧
    (f.Writable s.terminal.console → r = f.handled) := by
  by_cases hwritable : f.Writable s.terminal.console
  · obtain ⟨s', hs', haside⟩ := handle_of_writable hwritable
    exact ⟨_, s', hs', haside, fun _ => rfl⟩
  · obtain ⟨hunexpected, hnone⟩ := Classical.not_imp.mp hwritable
    cases hwrite : s.terminal.console.writeUnexpected f with
    | ok text => exact absurd ⟨text, hwrite⟩ hnone
    | error defect =>
        refine ⟨.error (.illMarked defect), s, ?_, .refl s, fun h => absurd h hwritable⟩
        rw [handle_of_unexpected hunexpected, Play.bind_apply, Play.put, hwrite]

end Command

end TemplateRun
