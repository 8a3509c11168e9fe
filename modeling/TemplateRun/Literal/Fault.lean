/-
# `Fault` — what can be wrong with a written literal

A fault is known by its cause, and each has its words.  What goes wrong in a field of a text is told
with words in front that say where.
-/
import TemplateRun.Literal.Token
import TemplateRun.Text.Numeral

namespace TemplateRun.Literal

/-! ## Texts -/

/-- Why an escape sequence in a text means no character. -/
inductive EscapeFault where
  /-- The digits end too early; how many were expected, and the letter in front of them. -/
  | truncated (letter : Char) (digits : Nat)
  | beyondUnicode
  | malformedName
  | unknownName
deriving DecidableEq, Repr

def EscapeFault.message : EscapeFault → String
  | truncated letter digits =>
    "truncated \\" ++ letter.toString ++ String.ofList (List.replicate digits 'X') ++ " escape"
  | beyondUnicode => "illegal Unicode character"
  | malformedName => "malformed \\N character escape"
  | unknownName => "unknown Unicode character name"

/-- What can be wrong with a text in quotes. -/
inductive TextFault where
  /-- An escape sequence that takes the bytes from one to another. -/
  | escape (first last : Nat) (fault : EscapeFault)
  /-- An escape sequence of bytes whose digits end too early. -/
  | byteEscape (first : Nat)
  | byteBeyondAscii
  /-- Bytes and characters beside one another. -/
  | mixed
deriving DecidableEq, Repr

def TextFault.message : TextFault → String
  | escape first last fault =>
    "(unicode error) 'unicodeescape' codec can't decode bytes in position " ++ toString first ++
      "-" ++ toString last ++ ": " ++ fault.message
  | byteEscape first => "(value error) invalid \\x escape at position " ++ toString first
  | byteBeyondAscii => "bytes can only contain ASCII literal characters"
  | mixed => "cannot mix bytes and nonbytes literals"

/-- What can be wrong with the fields of a text. -/
inductive FieldFault where
  | loneBrace
  | tooDeep
  | backslash
  | comment
  | tooNested
  | unmatched (bracket : Char)
  | mismatched (closing opening : Char)
  | unterminatedText
  | unclosed
  | blank
  /-- Nothing stands before what says how to show it. -/
  | blankBefore (c : Char)
  | badConversion
deriving DecidableEq, Repr

def FieldFault.message : FieldFault → String
  | loneBrace => "f-string: single '\x7d' is not allowed"
  | tooDeep => "f-string: expressions nested too deeply"
  | backslash => "f-string expression part cannot include a backslash"
  | comment => "f-string expression part cannot include '#'"
  | tooNested => "f-string: too many nested parenthesis"
  | unmatched bracket => "f-string: unmatched '" ++ bracket.toString ++ "'"
  | mismatched closing opening =>
    "f-string: closing parenthesis '" ++ closing.toString ++
      "' does not match opening parenthesis '" ++ opening.toString ++ "'"
  | unterminatedText => "f-string: unterminated string"
  | unclosed => "f-string: expecting '\x7d'"
  | blank => "f-string: empty expression not allowed"
  | blankBefore c => "f-string: expression required before '" ++ c.toString ++ "'"
  | badConversion => "f-string: invalid conversion character: expected 's', 'r', or 'a'"

/-! ## Forms -/

/-- What can be wrong with the parameters of a lambda. -/
inductive ParameterFault where
  | defaultMissing
  | inBrackets
  | slashFirst
  | slashTwice
  | slashBehindStar
  | commaMissing
  | valueMissing
  | bareStar
  | starDefault
  | starTwice
  | doubleStarDefault
  | behindDoubleStar
deriving DecidableEq, Repr

def ParameterFault.message : ParameterFault → String
  | defaultMissing => "non-default argument follows default argument"
  | inBrackets => "Lambda expression parameters cannot be parenthesized"
  | slashFirst => "at least one argument must precede /"
  | slashTwice => "/ may appear only once"
  | slashBehindStar => "/ must be ahead of *"
  | commaMissing => "expected comma between / and *"
  | valueMissing => "expected default value expression"
  | bareStar => "named arguments must follow bare *"
  | starDefault => "var-positional argument cannot have default value"
  | starTwice => "* argument may appear only once"
  | doubleStarDefault => "var-keyword argument cannot have default value"
  | behindDoubleStar => "arguments cannot follow var-keyword argument"

/-- What can be wrong with how the parts stand together. -/
inductive FormFault where
  /-- A part is out of place, and no more can be said. -/
  | misplaced
  | unexpectedIndent
  | missingComma
  | missingElse
  /-- A word with its arguments behind it, not in brackets. -/
  | bareCall (word : String)
  | namesOther (kind : String)
  | assignment
  | assignmentHere (kind : String)
  | assignmentTo (kind : String)
  | keywordExpression
  | starInComprehension
  | doubleStarInComprehension
  | bareTarget
  | starInBrackets
  | doubleStarInBrackets
  | starValue
  | missingValue
  | missingColon
  | starBehindKeyword
  | bareGenerator
  | positionalBehindKeyword
  | positionalBehindUnpacking
  | parameter (fault : ParameterFault)
deriving DecidableEq, Repr

def FormFault.message : FormFault → String
  | misplaced => "invalid syntax"
  | unexpectedIndent => "unexpected indent"
  | missingComma => "invalid syntax. Perhaps you forgot a comma?"
  | missingElse => "expected 'else' after 'if' expression"
  | bareCall word =>
    "Missing parentheses in call to '" ++ word ++ "'. Did you mean " ++ word ++ "(...)?"
  | namesOther kind => "cannot use assignment expressions with " ++ kind
  | assignment =>
    "invalid syntax. Maybe you meant '==' or ':=' instead of '='?"
  | assignmentHere kind =>
    "cannot assign to " ++ kind ++ " here. Maybe you meant '==' instead of '='?"
  | assignmentTo kind => "cannot assign to " ++ kind
  | keywordExpression => "expression cannot contain assignment, perhaps you meant \"==\"?"
  | starInComprehension => "iterable unpacking cannot be used in comprehension"
  | doubleStarInComprehension => "dict unpacking cannot be used in dict comprehension"
  | bareTarget => "did you forget parentheses around the comprehension target?"
  | starInBrackets => "cannot use starred expression here"
  | doubleStarInBrackets => "cannot use double starred expression here"
  | starValue => "cannot use a starred expression in a dictionary value"
  | missingValue => "expression expected after dictionary key and ':'"
  | missingColon => "':' expected after dictionary key"
  | starBehindKeyword => "iterable argument unpacking follows keyword argument unpacking"
  | bareGenerator => "Generator expression must be parenthesized"
  | positionalBehindKeyword => "positional argument follows keyword argument"
  | positionalBehindUnpacking => "positional argument follows keyword argument unpacking"
  | parameter fault => fault.message

/-! ## All faults -/

/-- What can be wrong with a written literal. -/
inductive SyntaxFault where
  | lexical (fault : LexicalFault)
  | form (fault : FormFault)
  | text (fault : TextFault)
  | field (fault : FieldFault)
  /-- A decimal number that is not read. -/
  | number (fault : Text.NumeralFault)
  /-- What goes wrong in a field of a text. -/
  | inField (fault : SyntaxFault)
deriving DecidableEq, Repr

def SyntaxFault.message : SyntaxFault → String
  | lexical fault => fault.message
  | form fault => fault.message
  | text fault => fault.message
  | field fault => fault.message
  | number fault =>
    fault.message ++
      " - Consider hexadecimal for huge integer literals to avoid decimal conversion limits."
  | inField fault => "f-string: " ++ fault.message

/-- Why a written literal has no value. -/
inductive Fault where
  | illWritten (fault : SyntaxFault)
  /-- The source holds a null character. -/
  | nullCharacter
  /-- Rules stand in one another too deeply for the source to be read. -/
  | tooDeep
  /-- Forms that have been read stand in one another too deeply. -/
  | tooHigh
  /-- The form is that of no value.  It may be a key that is left out. -/
  | valueless (isAbsent : Bool)
  /-- A key or a member that can change. -/
  | unhashable (kind : String)
  /-- A number that is too great to be added to an imaginary one. -/
  | tooGreat
deriving DecidableEq, Repr

def Fault.message : Fault → String
  | illWritten fault => fault.message
  | nullCharacter => "source code string cannot contain null bytes"
  | tooDeep => ""
  | tooHigh => "maximum recursion depth exceeded during ast construction"
  | valueless isAbsent => "malformed node or string" ++ if isAbsent then ": None" else ""
  | unhashable kind => "unhashable type: '" ++ kind ++ "'"
  | tooGreat => "int too large to convert to float"

end TemplateRun.Literal
