/-
# `Console` — writing to the user

There are two kinds of console.  A styling console understands markup: it shows what a marked-up
text shows, laid out on the screen.  A plain one writes the text as it is, tags included.  Text
that comes from outside is escaped before it is put into a marked-up line, which on a plain
console is not needed and not done.  Each print ends its line.
-/
import TemplateRun.Console.Layout
import TemplateRun.Markup.Escape
import TemplateRun.Markup.Render
import TemplateRun.Value

namespace TemplateRun

/-- What the user reads on. -/
inductive Console where
  | plain
  | styled
deriving DecidableEq, Repr

namespace Console

/-- A text as it has to stand in a marked-up line to be shown as it is. -/
def escape : Console → String → String
  | plain, s => s
  | styled, s => Markup.escape s

/-- What appears when a styled text is printed. -/
def showStyled (text : Markup.StyledText) : Except Markup.Defect String :=
  text.shownChars.map fun chars => String.ofList (layout chars) ++ "\n"

/-- What appears when a marked-up text is printed. -/
def print : Console → String → Except Markup.Defect String
  | plain, s => .ok (s ++ "\n")
  | styled, s => do showStyled (← Markup.render s.toList)

/-- What a value is on a styling console, where a text is marked-up. -/
def renderValue : Value → Except Markup.Defect Markup.StyledText
  | .text s => Markup.render s.toList
  | value => .ok (.plain value.shown.toList)

/-- What appears when several values are printed on one line. -/
def printAll : Console → List Value → Except Markup.Defect String
  | plain, values => .ok (" ".intercalate (values.map Value.shown) ++ "\n")
  | styled, values => do showStyled (.joined (← values.mapM renderValue))

end Console

end TemplateRun
