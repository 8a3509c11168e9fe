/-
# `Blind` — plays that do not see what the user reads on

A session shows the user things, on one kind of console or another, and nobody can look at what has
been shown.  `Twins c c'` are two sessions that differ in this only, one on the console `c` and one
on `c'`, and a play is blind if from twins it comes to the same answer and to twins again, or to no
end in both (`Play.Blind`).  The one step that could tell the consoles apart is to write a line,
because only one of them reads markup; but every notice can be written on both (`say_blind`).

So to be twins is a likeness (`likeness_twins`), to be blind is to respect it, and a pipeline is
blind, whatever its collaborators do (`Pipeline.run_blind`).
-/
import TemplateRun.Proofs.Console.Notice
import TemplateRun.Proofs.Pipeline.Likeness

namespace TemplateRun

variable {σ α β : Type} {c c' : Console}

/-! ## Twins -/

/-- The two sessions differ in nothing but what the user reads on, and what is to be read there. -/
structure Twins (c c' : Console) (s t : Session σ) : Prop where
  world : s.world = t.world
  past : s.past = t.past
  output : s.terminal.output = t.terminal.output
  left : s.terminal.console = c
  right : t.terminal.console = c'

theorem noted_output (s : Session σ) (h : Happening) :
    (s.noted h).terminal.output = s.terminal.output := by
  rw [Session.noted]
  cases h.record? <;> rfl

theorem noted_console (s : Session σ) (h : Happening) :
    (s.noted h).terminal.console = s.terminal.console := by
  rw [Session.noted]
  cases h.record? <;> rfl

namespace Twins

variable {s t : Session σ}

theorem noted (h : Twins c c' s t) (x : Happening) : Twins c c' (s.noted x) (t.noted x) where
  world := h.world
  past := by rw [Session.noted_past, Session.noted_past, h.past, h.world]
  output := by rw [noted_output, noted_output, h.output]
  left := by rw [noted_console, h.left]
  right := by rw [noted_console, h.right]

theorem changed (h : Twins c c' s t) (f : World σ → World σ) :
    Twins c c' { s with world := f s.world } { t with world := f t.world } where
  world := congrArg f h.world
  past := h.past
  output := h.output
  left := h.left
  right := h.right

theorem shown (h : Twins c c' s t) (text text' : String) :
    Twins c c' { s with terminal := s.terminal.show text }
      { t with terminal := t.terminal.show text' } where
  world := h.world
  past := h.past
  output := h.output
  left := h.left
  right := h.right

end Twins

namespace Play

/-- From twins the play comes to the same answer and to twins, or to no end in both. -/
abbrev Blind (c c' : Console) (m : Play σ α) : Prop := m.Respects (Twins c c')

theorem put_blind {line : Console → Except Markup.Defect String} (h : ∃ text, line c = .ok text)
    (h' : ∃ text, line c' = .ok text) : (Play.put line : Play σ Unit).Blind c c' := by
  intro s t htwins
  obtain ⟨text, htext⟩ := h
  obtain ⟨text', htext'⟩ := h'
  rw [Play.put, Play.put, htwins.left, htwins.right, htext, htext']
  exact .ended (htwins.shown text text')

theorem say_blind (notice : Console.Notice) : (Play.say notice : Play σ Unit).Blind c c' :=
  put_blind (c.write_eq_ok notice) (c'.write_eq_ok notice)

end Play

/-! ## Pipelines -/

theorem likeness_twins : Likeness fun s t : Session σ => Twins c c' s t where
  world _ _ h := h.world
  changed _ _ h f := h.changed f
  noted _ _ h x := h.noted x
  say notice := Play.say_blind notice

theorem Pipeline.run_blind (p : Pipeline σ) : p.run.Blind c c' :=
  (reentry_respects likeness_twins p depthLimit).2

end TemplateRun
