/-
# `Frame` — what the program writes around a text, and what it does not

Some lines of the program end in a text that comes from outside.  In front of it stands a label
between a tag and the closing tag, and words (`Frame`).  On a styling console the text is escaped,
and then the tags in force of the line are these two, where the program wrote them, and no other
(`tags_of_line`): no bracket of the text, and none that is made of the text and what stands in front
of it.

    style, label   the label stands in the style: `[style]label[/style]`
    lead           words between the label and the text
    tags           the two tags, at their positions

All of a frame is the program's own but the name of a kind of fault, which is not escaped.  So it
has to be asked of the name that it holds no opening bracket.  With one that does, the line may hold
other tags, and may be one that cannot be written (`markedName_breaks`).
-/
import TemplateRun.Proofs.Console.Print
import TemplateRun.Proofs.Console.Shown
import TemplateRun.Proofs.Markup.Found

namespace TemplateRun.Console

open Markup

/-! ## Frames -/

/-- A line of the program that ends in a text from outside, without this text. -/
inductive Frame where
  | diagnostic (severity : Severity)
  | error
  | hint
  | unexpected (kind : String)

namespace Frame

/-- The line with its text, for a styling console. -/
def line : Frame → String → String
  | diagnostic severity, text => (Notice.diagnostic ⟨severity, text⟩).markup styled
  | error, text => (Notice.error text).markup styled
  | hint, text => (Notice.hint text).markup styled
  | unexpected kind, text => unexpectedMarkup styled kind text

/-- What else in the line comes from outside. -/
def name : Frame → String
  | unexpected kind => kind
  | diagnostic _ | error | hint => ""

def style : Frame → String
  | diagnostic severity => severityStyle severity
  | error => "bold red"
  | hint => "yellow"
  | unexpected _ => "bold red"

/-- The words that are styled. -/
def label : Frame → String
  | diagnostic severity => severity.name ++ ":"
  | error => "Error:"
  | hint => "Hint:"
  | unexpected _ => "Unexpected error."

def lead : Frame → String
  | diagnostic _ => " "
  | error => " "
  | hint => " "
  | unexpected kind => " Please report this issue.\n  " ++ kind ++ ": "

def opening (f : Frame) : String := "[" ++ f.style ++ "]" ++ f.label ++ "[/" ++ f.style ++ "]"

/-- All that is written in front of the text. -/
def front (f : Frame) : String := f.opening ++ f.lead

def words (f : Frame) : String := f.label ++ f.lead

theorem front_diagnostic (severity : Severity) :
    "[" ++ severityStyle severity ++ "]" ++ severity.name ++ ":[/" ++ severityStyle severity ++
      "] " = (diagnostic severity).front := by
  cases severity <;> decide +kernel

theorem front_error : "[bold red]Error:[/bold red] " = error.front := by decide +kernel

theorem front_hint : "[yellow]Hint:[/yellow] " = hint.front := by decide +kernel

theorem front_unexpected (kind : String) :
    "[bold red]Unexpected error.[/bold red] Please report this issue.\n  " ++ kind ++ ": " =
      (unexpected kind).front := by
  have hopening : "[bold red]Unexpected error.[/bold red] Please report this issue.\n  " =
      "[" ++ "bold red" ++ "]" ++ "Unexpected error." ++ "[/" ++ "bold red" ++ "]" ++
        " Please report this issue.\n  " := by
    decide +kernel
  have hassoc (opening words name colon : String) :
      opening ++ words ++ name ++ colon = opening ++ (words ++ name ++ colon) := by
    simp only [String.append_assoc]
  exact (congrArg (· ++ kind ++ ": ") hopening).trans (hassoc _ _ _ _)

theorem line_eq_front (f : Frame) (text : String) :
    f.line text = f.front ++ Markup.escape text := by
  cases f with
  | diagnostic severity => exact congrArg (· ++ Markup.escape text) (front_diagnostic severity)
  | error => exact congrArg (· ++ Markup.escape text) front_error
  | hint => exact congrArg (· ++ Markup.escape text) front_hint
  | unexpected kind => exact congrArg (· ++ Markup.escape text) (front_unexpected kind)

end Frame

/-! ## Plain words -/

/-- Whether a character has nothing to do with tags, and is seen as it is. -/
def isBland (c : Char) : Bool := c ≠ '\\' && c ≠ '[' && c ≠ '\t' && !Text.isTraceless c

theorem isBland_iff {c : Char} :
    isBland c = true ↔ c ≠ '\\' ∧ c ≠ '[' ∧ c ≠ '\t' ∧ Text.isTraceless c = false := by
  simp only [isBland, Bool.and_eq_true, decide_eq_true_iff, Bool.not_eq_true', and_assoc]

theorem plain_of_bland {s : List Char} (h : s.all isBland = true) :
    ∀ c ∈ s, c ≠ '\\' ∧ c ≠ '[' := fun c hc =>
  have hbland := isBland_iff.mp (List.all_eq_true.mp h c hc)
  ⟨hbland.1, hbland.2.1⟩

namespace Frame

theorem isBody_style (f : Frame) : IsBody f.style.toList := by
  cases f with
  | diagnostic severity => cases severity <;> decide +kernel
  | error => decide +kernel
  | hint => decide +kernel
  | unexpected kind =>
      show IsBody "bold red".toList
      decide +kernel

theorem bland_label (f : Frame) : f.label.toList.all isBland = true := by
  cases f with
  | diagnostic severity => cases severity <;> decide +kernel
  | error => decide +kernel
  | hint => decide +kernel
  | unexpected kind =>
      show "Unexpected error.".toList.all isBland = true
      decide +kernel

theorem mem_lead {f : Frame} {c : Char} (h : c ∈ f.lead.toList) :
    c ∈ f.name.toList ∨ isBland c = true := by
  have hblank : " ".toList.all isBland = true := by decide +kernel
  have hblank := List.all_eq_true.mp hblank c
  cases f with
  | diagnostic severity => exact .inr (hblank h)
  | error => exact .inr (hblank h)
  | hint => exact .inr (hblank h)
  | unexpected kind =>
      have hreport : " Please report this issue.\n  ".toList.all isBland = true := by
        decide +kernel
      have hcolon : ": ".toList.all isBland = true := by decide +kernel
      change c ∈ (" Please report this issue.\n  " ++ kind ++ ": ").toList at h
      rw [String.toList_append, String.toList_append, List.mem_append, List.mem_append] at h
      rcases h with (h | h) | h
      · exact .inr (List.all_eq_true.mp hreport c h)
      · exact .inl h
      · exact .inr (List.all_eq_true.mp hcolon c h)

theorem exists_lead (f : Frame) : ∃ s, f.lead.toList = s ++ [' '] := by
  have hblank : " ".toList = [] ++ [' '] := by decide
  have hcolon : ": ".toList = [':'] ++ [' '] := by decide
  cases f with
  | diagnostic severity => exact ⟨[], hblank⟩
  | error => exact ⟨[], hblank⟩
  | hint => exact ⟨[], hblank⟩
  | unexpected kind =>
      refine ⟨(" Please report this issue.\n  " ++ kind).toList ++ [':'], ?_⟩
      show (" Please report this issue.\n  " ++ kind ++ ": ").toList = _
      rw [String.toList_append, hcolon, List.append_assoc]

theorem noBracket_lead {f : Frame} (hname : '[' ∉ f.name.toList) : '[' ∉ f.lead.toList := fun h =>
  (mem_lead h).elim hname fun hbland => (isBland_iff.mp hbland).2.1 rfl

theorem isFront_opening (f : Frame) : isFront f.opening = true := by
  cases f with
  | diagnostic severity => cases severity <;> decide +kernel
  | error => decide +kernel
  | hint => decide +kernel
  | unexpected kind =>
      show isFront ("[" ++ "bold red" ++ "]" ++ "Unexpected error." ++ "[/" ++ "bold red" ++
        "]") = true
      decide +kernel

/-! ## The line as tokens -/

theorem toList_opening (f : Frame) :
    f.opening.toList = '[' :: (f.style.toList ++ ']' :: (f.label.toList ++
      '[' :: (('/' :: f.style.toList) ++ [']']))) := by
  have hopen : "[".toList = ['['] := by decide
  have hclose : "]".toList = [']'] := by decide
  have hclosing : "[/".toList = ['[', '/'] := by decide
  rw [opening]
  simp only [String.toList_append, hopen, hclose, hclosing, List.append_assoc, List.cons_append,
    List.nil_append]

theorem tokens_opening (f : Frame) :
    tokens f.opening.toList = .tag 0 f.style.toList :: (f.label.toList.map .char ++
      [.tag 0 ('/' :: f.style.toList)]) := by
  rw [toList_opening, tokens, tokens_tag f.isBody_style,
    tokens_append_of_plain (plain_of_bland f.bland_label), tokens,
    tokens_tag f.isBody_style.closing]
  rfl

/-- What is written behind the label. -/
def rest (f : Frame) (text : String) : List Char := f.lead.toList ++ escapeChars text.toList

theorem line_eq (f : Frame) (text : String) :
    f.line text = f.opening ++ String.ofList (f.rest text) := by
  rw [line_eq_front, front, rest, String.ofList_append, String.ofList_toList, String.append_assoc]
  rfl

section
variable {f : Frame} (hname : '[' ∉ f.name.toList)
include hname

theorem tokens_rest (text : String) :
    tokens (f.rest text) = f.lead.toList.map .char ++ tokens (escapeChars text.toList) := by
  have hlead := noBracket_lead hname
  have hcuts : cuts (.text 0) f.lead.toList = true := by
    obtain ⟨s, hs⟩ := f.exists_lead
    rw [hs, List.mem_append, not_or] at hlead
    rw [hs]
    exact cuts_of_noBracket hlead.1 (by decide) 0
  rw [rest, tokens, tokensFrom_append hcuts, tokensFrom_of_noBracket hlead]
  rfl

theorem inert_rest (text : String) : Inert (tokens (f.rest text)) := by
  rw [tokens_rest hname]
  exact (inert_map_char _).append (inert_escapeChars _)

/-! ## Tags and words of the line -/

/-- The line shows the words of the program and what is visible of the text. -/
theorem flatMap_shown_line (text : String) :
    (tokens f.opening.toList ++ tokens (f.rest text)).flatMap Token.shown =
      f.words.toList ++ visible text.toList := by
  have htag (body : List Char) : (Token.tag 0 body).shown = [] := rfl
  simp only [tokens_opening, tokens_rest hname, words, String.toList_append, List.flatMap_append,
    List.flatMap_cons, List.flatMap_nil, flatMap_shown_map_char, flatMap_shown_escapeChars, htag,
    List.nil_append, List.append_nil, List.append_assoc]

theorem print_line (text : String) :
    styled.print (f.line text) = .ok (String.ofList
      (layout (Text.traces f.words.toList ++ Text.traces (visible text.toList))) ++ "\n") := by
  rw [line_eq, print_front f.isFront_opening (inert_rest hname text), lineOf,
    flatMap_shown_line hname, Text.traces, List.filter_append]
  rfl

omit hname in
theorem mem_words {c : Char} (h : c ∈ f.words.toList) :
    c ∈ f.name.toList ∨ c ≠ '\t' ∧ Text.isTraceless c = false := by
  rw [words, String.toList_append, List.mem_append] at h
  rcases h with h | h
  · exact .inr (isBland_iff.mp (List.all_eq_true.mp f.bland_label c h)).2.2
  · exact (mem_lead h).imp_right fun hbland => (isBland_iff.mp hbland).2.2

/-- A name that is seen as it is. -/
def Clear (f : Frame) : Prop := ∀ c ∈ f.name.toList, c ≠ '\t' ∧ Text.isTraceless c = false

omit hname in
theorem clear_diagnostic (severity : Severity) : (diagnostic severity).Clear :=
  fun _ h => absurd h List.not_mem_nil

omit hname in
theorem Clear.words (hclear : f.Clear) :
    '\t' ∉ f.words.toList ∧ Text.traces f.words.toList = f.words.toList := by
  have hall (c : Char) (h : c ∈ f.words.toList) : c ≠ '\t' ∧ Text.isTraceless c = false :=
    (mem_words h).elim (hclear c) id
  exact ⟨fun h => (hall '\t' h).1 rfl, traces_eq_self_iff.mpr fun c h => (hall c h).2⟩

end

end Frame

end TemplateRun.Console
