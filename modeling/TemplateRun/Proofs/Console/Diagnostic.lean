/-
# `Diagnostic` — what is seen of a diagnostic

A plain console shows the line of every diagnostic.  A styling one shows the name of the severity,
which is always seen as it is, and what is visible of the text.  So both consoles show the same if
and only if nothing comes between the text and what is seen of it (`ShowsAsIs`).
-/
import TemplateRun.Proofs.Console.Frame

namespace TemplateRun.Console

open Markup

def severityFront (severity : Severity) : List Char := (severity.name ++ ": ").toList

def styledLine (d : Diagnostic) : String :=
  String.ofList (layout (severityFront d.severity ++ Text.traces (visible d.text.toList)))

theorem words_diagnostic (severity : Severity) :
    (Frame.diagnostic severity).words.toList = severityFront severity := by
  cases severity <;> decide +kernel

theorem plain_write_diagnostic (d : Diagnostic) :
    plain.write (.diagnostic d) = .ok (d.line ++ "\n") := by
  have hmarkup : Notice.markup plain (.diagnostic d) = d.line := rfl
  show Except.ok (Notice.markup plain (.diagnostic d) ++ "\n") = _
  rw [hmarkup]

theorem styled_write_diagnostic (d : Diagnostic) :
    styled.write (.diagnostic d) = .ok (styledLine d ++ "\n") := by
  obtain ⟨-, htraces⟩ := (Frame.clear_diagnostic d.severity).words
  have hprint := Frame.print_line (f := .diagnostic d.severity) List.not_mem_nil d.text
  rw [htraces, words_diagnostic] at hprint
  exact hprint

theorem line_toList (d : Diagnostic) :
    d.line.toList = severityFront d.severity ++ d.text.toList := by
  rw [Diagnostic.line, String.toList_append, severityFront]

theorem styledLine_eq_line_iff (d : Diagnostic) :
    styledLine d = d.line ↔ ShowsAsIs d.text.toList := by
  have htab : '\t' ∉ severityFront d.severity :=
    words_diagnostic d.severity ▸ (Frame.clear_diagnostic d.severity).words.1
  rw [← layout_visible_eq_iff htab, ← line_toList, styledLine, ← String.toList_inj,
    String.toList_ofList]

/-- A plain console shows the line of a diagnostic as it is.  A styling one shows the name of the
severity and what is visible of the text, and the two agree if and only if the text holds nothing
that comes between. -/
theorem diagnostic_shown (d : Diagnostic) :
    plain.write (.diagnostic d) = .ok (d.line ++ "\n") ∧
      styled.write (.diagnostic d) = .ok (styledLine d ++ "\n") ∧
      (styled.write (.diagnostic d) = plain.write (.diagnostic d) ↔ ShowsAsIs d.text.toList) := by
  refine ⟨plain_write_diagnostic d, styled_write_diagnostic d, ?_⟩
  rw [plain_write_diagnostic, styled_write_diagnostic, ← styledLine_eq_line_iff, Except.ok.injEq]
  exact String.append_left_inj "\n"

/-- A backslash at the end of a text is seen once on a plain console and twice on a styling one. -/
theorem trailingBackslash_doubled :
    plain.write (.diagnostic ⟨.error, "no such directory: C:\\"⟩) =
        .ok "error: no such directory: C:\\\n" ∧
      styled.write (.diagnostic ⟨.error, "no such directory: C:\\"⟩) =
        .ok "error: no such directory: C:\\\\\n" := by
  refine ⟨rfl, ?_⟩
  rw [styled_write_diagnostic]
  exact congrArg Except.ok (by decide +kernel)

end TemplateRun.Console
