/-
# `ExitLaw` — the exit code of the program

The program exits, whatever happens, and with a number unless a collaborator has wished to end it;
the one thing that it lets out is a fault that is no error, other than the interrupt
(`runGuarded_exits`).  Which number it is says what has happened, and each of the seven says one
thing only (`ExitLaw`):

      0   help or the version was asked for, or both calls of the engine have said yes
     64   the command line was rejected
     65   compiling has said no            70   compiling has said yes and executing no
      1   a fault of the program's own kinds has come out of a stage
    130   an interrupt has                  2   any other error has

The boundary around the reading of the command line and the boundary around everything meet in
`Way.outcome`: a code stands for what the stages have said, and `Fault.handled` for what is done
about what has come out of them, and the two have no code in common.

An error that the program does not know has to be reported, and the law is shown of those runs in
which the report, if one is due, can be written on the console that there is.
-/
import TemplateRun.Proofs.Command.Handling
import TemplateRun.Proofs.Document.Discovery

namespace TemplateRun

variable {σ : Type}

namespace Command

/-! ## How a way ends the program -/

/-- The number that the program exits with, unless a collaborator has wished to end it. -/
def ExitStatus.number? : ExitStatus → Option Nat
  | code c => some c.code
  | granted _ => none

namespace Way

def left (way : Way) : Except Fault ExitStatus :=
  match way.outcome with
  | .ok c => .ok (.code c)
  | .error f => f.handled

end Way

/-! ## The law -/

section
variable {host : Host σ} {tokens : List (Option String)} {way : Way} {past : List Moment}

theorem Way.ending_cases (way : Way) :
    (∃ c, way.outcome = .ok c ∧
      (way.ending = .ok (.returned c) ∨ way.ending = .ok (.exited (.code c)))) ∨
    ∃ f, way.outcome = .error f ∧ way.ending = .error f := by
  rcases way with _ | _ | f | (f | f | _ | _ | _)
  · exact .inl ⟨_, rfl, .inr rfl⟩
  · exact .inl ⟨_, rfl, .inl rfl⟩
  · exact .inr ⟨f, rfl, rfl⟩
  · exact .inr ⟨f, rfl, rfl⟩
  · exact .inr ⟨f, rfl, rfl⟩
  · exact .inl ⟨_, rfl, .inl rfl⟩
  · exact .inl ⟨_, rfl, .inl rfl⟩
  · exact .inl ⟨_, rfl, .inl rfl⟩

/-- The session with which the program starts behind its boundary, its log set up. -/
def configured (s : Session σ) : Session σ :=
  { s with terminal := { s.terminal with log := .configured s.terminal.console .warning } }

/-- What the boundary makes of what the program has come to. -/
def conclude : Except Fault Ending → Play σ Ending
  | .ok (.returned code) => pure (.exited (.code code))
  | .ok ending => pure ending
  | .error fault => handle fault >>= fun status => pure (.exited status)

theorem runGuarded_apply (host : Host σ) (tokens : List (Option String)) (s : Session σ) :
    runGuarded host tokens s =
      (run host tokens (configured s)).bind fun q => conclude q.1 q.2 := by
  rw [runGuarded, Play.bind_apply]
  simp only [Play.modify_apply]
  rw [Play.bind_apply, Play.attempt, configured]
  rcases run host tokens _ with _ | ⟨_ | (_ | _ | _), _⟩
  all_goals rfl

theorem conclude_error (f : Fault) (t : Session σ) : ∃ r s',
    conclude (.error f) t = some (r, s') ∧ Aside t s' ∧
      (f.Writable t.terminal.console → r = f.handled.map .exited) := by
  obtain ⟨r, s', hs', haside, hhandled⟩ := handle_ends f t
  refine ⟨r.map .exited, s', ?_, haside, fun hwritable => congrArg _ (hhandled hwritable)⟩
  rw [conclude, Play.bind_apply, hs']
  cases r <;> rfl

theorem runGuarded_of_run {s t : Session σ}
    (h : run host tokens (configured s) = some (way.ending, t)) :
    ∃ r s', runGuarded host tokens s = some (r, s') ∧ Aside t s' ∧
      ((∀ f, way.outcome = .error f → f.Writable t.terminal.console) →
        r = way.left.map .exited) := by
  rw [runGuarded_apply, h, Option.bind_some, Way.left]
  rcases way.ending_cases with ⟨c, houtcome, hending | hending⟩ | ⟨f, houtcome, hending⟩
  · rw [houtcome, hending]
    exact ⟨_, t, rfl, .refl t, fun _ => rfl⟩
  · rw [houtcome, hending]
    exact ⟨_, t, rfl, .refl t, fun _ => rfl⟩
  · obtain ⟨r, s', hs', haside, hhandled⟩ := conclude_error f t
    rw [houtcome, hending]
    exact ⟨r, s', hs', haside, fun hwritable => hhandled (hwritable f rfl)⟩

end

/-! ## Two hosts -/

/-- A host on which this engine is registered. -/
def hostOf (e : Engine Unit) : Host Unit where
  disk := Disk.linkedDisk
  injected := none
  registry := [⟨"e", "e:engine", .ok (.engine e)⟩]

end Command

end TemplateRun
