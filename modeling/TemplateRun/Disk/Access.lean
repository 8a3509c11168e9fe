/-
# `Access` — why a file cannot be reached or opened

Each fault has the number and the words under which the system reports it, and they are followed
by the path in quotes.  A path that holds the character NUL is never handed to the system at all.
-/
import TemplateRun.Path
import TemplateRun.Text.Quoted

namespace TemplateRun

/-- What keeps a path from leading to a file that can be read. -/
inductive AccessFault where
  | notFound
  | notDirectory
  | isDirectory
  | nameTooLong
  | tooManyLinks
  /-- The path holds a NUL. -/
  | embeddedNul
deriving DecidableEq, Repr

namespace AccessFault

/-- Whether the fault means only that nothing is there. -/
def isAbsence : AccessFault → Bool
  | notFound | notDirectory | tooManyLinks | embeddedNul => true
  | isDirectory | nameTooLong => false

def kindName : AccessFault → String
  | notFound => "FileNotFoundError"
  | notDirectory => "NotADirectoryError"
  | isDirectory => "IsADirectoryError"
  | nameTooLong | tooManyLinks => "OSError"
  | embeddedNul => "ValueError"

/-- The words of the system, with the path in quotes. -/
def message (path : Path) : AccessFault → String
  | notFound => "[Errno 2] No such file or directory: " ++ Text.quote path.text
  | notDirectory => "[Errno 20] Not a directory: " ++ Text.quote path.text
  | isDirectory => "[Errno 21] Is a directory: " ++ Text.quote path.text
  | nameTooLong => "[Errno 36] File name too long: " ++ Text.quote path.text
  | tooManyLinks => "[Errno 40] Too many levels of symbolic links: " ++ Text.quote path.text
  | embeddedNul => "embedded null byte"

end AccessFault

end TemplateRun
