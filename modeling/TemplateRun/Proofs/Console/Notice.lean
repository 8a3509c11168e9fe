/-
# `Notice` — which lines of the program can be written

A notice is the program's own markup, which settles, or ends in a text from outside that is escaped
(`Frame`).  So nothing that comes from outside keeps it from being written (`write_eq_ok`).  The
report of an error that the program does not know holds the name of its kind as well, and is sure to
be written only if that name holds no opening bracket (`writeUnexpected_eq_ok`).
-/
import TemplateRun.Proofs.Console.Frame

namespace TemplateRun.Console

open Markup

theorem isFront_headline (headline : Headline) : isFront (headlineMarkup headline.text) = true := by
  cases headline <;> decide +kernel

/-- Every notice can be written, whatever comes into it from outside. -/
theorem write_eq_ok (c : Console) (notice : Notice) : ∃ text, c.write notice = .ok text := by
  cases c with
  | plain => exact ⟨_, rfl⟩
  | styled =>
      show ∃ text, Console.print .styled (notice.markup .styled) = .ok text
      cases notice with
      | diagnostic d =>
          exact ⟨_, Frame.print_line (f := .diagnostic d.severity) List.not_mem_nil d.text⟩
      | headline headline => exact ⟨_, print_markup (isFront_headline headline)⟩
      | error message => exact ⟨_, Frame.print_line (f := .error) List.not_mem_nil message⟩
      | hint advice => exact ⟨_, Frame.print_line (f := .hint) List.not_mem_nil advice⟩
      | verbatim words =>
          show ∃ text, Console.print .styled (Markup.escape words) = .ok text
          have hempty : "" ++ Markup.escape words = Markup.escape words := String.empty_append
          rw [← hempty]
          exact ⟨_, print_escape (by decide +kernel) words⟩
      | aborted => exact ⟨_, print_markup (by decide +kernel)⟩

theorem writeUnexpected_eq_ok (c : Console) {fault : Fault} (hname : '[' ∉ fault.kindName.toList) :
    ∃ text, c.writeUnexpected fault = .ok text := by
  cases c with
  | plain => exact ⟨_, rfl⟩
  | styled => exact ⟨_, Frame.print_line (f := .unexpected fault.kindName) hname fault.message⟩

def headlineLine : Console → Headline → String
  | plain, h => headlineMarkup h.text ++ "\n"
  | styled, h => h.text ++ "\n"

theorem write_headline (c : Console) (h : Headline) :
    c.write (.headline h) = .ok (headlineLine c h) := by
  have hstyled : ∀ h : Headline,
      (styled.write (.headline h)).toOption = some (headlineLine styled h) := by
    rintro (_ | _) <;> decide +kernel
  cases c with
  | plain => rfl
  | styled =>
      obtain ⟨text, htext⟩ := write_eq_ok .styled (.headline h)
      have hh := hstyled h
      rw [htext] at hh ⊢
      exact congrArg Except.ok (Option.some.inj hh)

end TemplateRun.Console
