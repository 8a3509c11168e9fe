/-
# `Print` — markup of the program in front of a text

Whether a marked-up line can be printed is a matter of its tags in force.  If the program's own
markup settles, may be cut off (`isFront`), and nothing behind it is a tag in force, then the line
is printed, and shows what its tokens show (`print_front`).
-/
import TemplateRun.Console.Notice
import TemplateRun.Proofs.Markup.Settled

namespace TemplateRun.Console

open Markup

/-- The line that tokens show. -/
def lineOf (ts : List Token) : String :=
  String.ofList (layout (Text.traces (ts.flatMap Token.shown))) ++ "\n"

/-- Behind markup that settles, a text without tags in force is shown. -/
theorem print_of_settles {front back : List Char} {ts : List Token}
    (hsettles : settles front = true) (hcut : tokens (front ++ back) = tokens front ++ ts)
    (hts : Inert ts) :
    Console.print .styled (String.ofList (front ++ back)) = .ok (lineOf (tokens front ++ ts)) := by
  obtain ⟨r, hread, hopened, hspans⟩ := settles_iff.mp hsettles
  obtain ⟨next, happend⟩ := readTokens_append hread ts
  obtain ⟨length, hinert⟩ := readTokens_inert hts r next
  have hrender : render (front ++ back) =
      .ok ⟨Text.traces ((tokens (front ++ back)).flatMap Token.shown),
        Reading.allSpans { r with length := length }⟩ := by
    rw [render, hcut, happend, hinert]
    rfl
  have hfaults : ∀ span ∈ Reading.allSpans { r with length := length },
      StyledText.numberFault? span = none := by
    intro span hspan
    rw [Reading.allSpans, hopened] at hspan
    exact hspans span (List.mem_mergeSort.mp hspan)
  rw [Console.print, String.toList_ofList, hrender]
  show Console.showStyled _ = _
  rw [Console.showStyled, StyledText.shownChars, List.findSome?_eq_none_iff.mpr]
  · rw [hcut]
    rfl
  · intro span hspan
    exact hfaults span (List.mem_filter.mp hspan).1

/-- Whether an escaped text may stand behind this markup. -/
def isFront (front : String) : Bool := settles front.toList && cuts (.text 0) front.toList

theorem print_front {front : String} (h : isFront front = true) {back : List Char}
    (hback : Inert (tokens back)) :
    Console.print .styled (front ++ String.ofList back) =
      .ok (lineOf (tokens front.toList ++ tokens back)) := by
  rw [isFront, Bool.and_eq_true] at h
  have hline : front ++ String.ofList back = String.ofList (front.toList ++ back) := by
    rw [String.ofList_append, String.ofList_toList]
  rw [hline]
  exact print_of_settles h.1 (tokensFrom_append h.2 back) hback

theorem print_escape {front : String} (h : isFront front = true) (s : String) :
    Console.print .styled (front ++ Markup.escape s) =
      .ok (lineOf (tokens front.toList ++ tokens (escapeChars s.toList))) :=
  print_front h (inert_escapeChars s.toList)

theorem print_markup {line : String} (h : isFront line = true) :
    Console.print .styled line = .ok (lineOf (tokens line.toList)) := by
  have hnil : Inert (tokens []) := fun _ ht => absurd ht List.not_mem_nil
  have hprint := print_front h hnil
  rw [String.ofList_nil, String.append_empty] at hprint
  exact hprint.trans (congrArg (Except.ok ∘ lineOf) (List.append_nil _))

end TemplateRun.Console
