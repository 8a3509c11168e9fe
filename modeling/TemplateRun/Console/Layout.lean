/-
# `Layout` — text as a styling console puts it on a line

A tab becomes a space, and more of them up to the next multiple of eight columns; everything else
stays, and nothing is wrapped or cut.  Columns are counted from the start of each line, and what
stands between two tabs is measured by itself.
-/
import TemplateRun.Text.Width

namespace TemplateRun.Console

/-- Columns between two tab stops. -/
def tabWidth : Nat := 8

/-- The columns from a column to the next tab stop; none from a tab stop. -/
def gapFrom (column : Nat) : Nat := (tabWidth - column % tabWidth) % tabWidth

/-- What each character is on the screen, behind what is measured already. -/
def layoutEach : Text.Measure → List Char → List (List Char)
  | _, [] => []
  | m, c :: rest =>
    if c = '\n' then [c] :: layoutEach (.startAt 0) rest
    else if c = '\t' then
      let column := (m.step ' ').cells
      (' ' :: List.replicate (gapFrom column) ' ') ::
        layoutEach (.startAt (column + gapFrom column)) rest
    else [c] :: layoutEach (m.step c) rest

/-- The characters on the screen, from the start of a line. -/
def layout (s : List Char) : List Char := (layoutEach (.startAt 0) s).flatten

/-- Without tabs every character is itself. -/
theorem layoutEach_eq {s : List Char} (m : Text.Measure) (h : '\t' ∉ s) :
    layoutEach m s = s.map fun c => [c] := by
  induction s generalizing m with
  | nil => rfl
  | cons c rest ih =>
    obtain ⟨hc, hr⟩ : ¬c = '\t' ∧ '\t' ∉ rest := by
      simpa [eq_comm] using h
    simp [layoutEach, hc, ih _ hr]

/-- A text without tabs stays as it is. -/
theorem layout_eq_self {s : List Char} (h : '\t' ∉ s) : layout s = s := by
  rw [layout, layoutEach_eq _ h, ← List.flatMap_def, List.flatMap_singleton']

end TemplateRun.Console
