/-
# `Trace` — characters that leave none

Five control characters are taken out of every text that is shown on a screen; what else there is
to a text is counted without them.
-/

namespace TemplateRun.Text

/-- Characters that leave no trace: bell, backspace, vertical tab, form feed, carriage return. -/
def isTraceless (c : Char) : Bool :=
  c = '\x07' || c = '\x08' || c = '\x0b' || c = '\x0c' || c = '\x0d'

def traces (s : List Char) : List Char := s.filter fun c => !isTraceless c

end TemplateRun.Text
