/-
# `Lexer` — cutting a literal into its parts

The parts stand one behind the other, with blanks, comments and lines that are continued between
them.  Within brackets the ends of lines are blanks too; outside of them they count, and so does
the indent of the next line.  A number has to end where a name cannot go on, unless the name is one
of those words that may stand between two numbers.
-/
import TemplateRun.Literal.Token
import TemplateRun.Text.Word

namespace TemplateRun.Literal

/-! ## Numbers -/

/-- What is left behind digits, which low lines may part.  A digit that is needed may be missing,
with another character in its place or none. -/
def skipDigits (isDigit : Char → Bool) :
    (needed : Bool) → List Char → Except (Option Char) (List Char)
  | true, [] => .error none
  | true, c :: rest => if isDigit c then skipDigits isDigit false rest else .error (some c)
  | false, [] => .ok []
  | false, c :: rest =>
    if c = '_' then skipDigits isDigit true rest
    else if isDigit c then skipDigits isDigit false rest
    else .ok (c :: rest)

/-- What is left behind the digits of a number in a base of its own. -/
def skipBased (isDigit : Char → Bool) (s : List Char) : Except (Option Char) (List Char) :=
  skipDigits isDigit true (if s.head? = some '_' then s.tail else s)

/-- What is left behind more decimal digits. -/
def skipDecimal (s : List Char) : Except LexicalFault (List Char) :=
  (skipDigits Char.isDigit false s).mapError fun _ => .badNumber .decimal

/-- Whether a character may be in a name, as far as can be seen from it alone. -/
def isNamePart (c : Char) : Bool := c.isAlphanum || c = '_' || 0x80 ≤ c.toNat

/-- Whether the text begins with the word, and no name goes on behind it. -/
def beginsWithWord (word : String) (s : List Char) : Bool :=
  word.toList.isPrefixOf s && !(s.drop word.length).head?.any isNamePart

def mayFollowNumber (s : List Char) : Bool :=
  !s.head?.any isNamePart || ["and", "else", "for", "or", "not"].any (beginsWithWord · s) ||
    ["if", "in", "is"].any (·.toList.isPrefixOf s)

def endNumber (kind : NumberKind) (s : List Char) : Except LexicalFault (List Char) :=
  if mayFollowNumber s then .ok s else .error (.badNumber kind)

/-- What is left behind a number, from where the imaginary unit may be. -/
def skipUnit : List Char → Except LexicalFault (List Char)
  | [] => .ok []
  | c :: rest =>
    if c = 'j' || c = 'J' then endNumber .imaginary rest else endNumber .decimal (c :: rest)

/-- What is left behind a number, from where the exponent may be. -/
def skipExponent : List Char → Except LexicalFault (List Char)
  | [] => .ok []
  | c :: rest =>
    if c = 'e' || c = 'E' then
      if rest.head? = some '+' || rest.head? = some '-' then
        if rest.tail.head?.any Char.isDigit then skipDecimal rest.tail >>= skipUnit
        else .error (.badNumber .decimal)
      else if rest.head?.any Char.isDigit then skipDecimal rest >>= skipUnit
      else endNumber .decimal (c :: rest)
    else skipUnit (c :: rest)

/-- What is left behind a number, from the first place behind its point. -/
def skipFraction (s : List Char) : Except LexicalFault (List Char) :=
  if s.head?.any Char.isDigit then skipDecimal s >>= skipExponent else skipExponent s

/-- What is left behind a number, from where its point may be. -/
def skipPoint : List Char → Except LexicalFault (List Char)
  | '.' :: rest => skipFraction rest
  | s => skipExponent s

/-- What is left behind zeros, which low lines may part. -/
def skipZeros : List Char → Except LexicalFault (List Char)
  | '0' :: rest => skipZeros rest
  | '_' :: '0' :: rest => skipZeros rest
  | '_' :: c :: rest => if c.isDigit then .ok (c :: rest) else .error (.badNumber .decimal)
  | ['_'] => .error (.badNumber .decimal)
  | s => .ok s

def isOctalDigit (c : Char) : Bool := '0' ≤ c && c ≤ '7'

def isBinaryDigit (c : Char) : Bool := c = '0' || c = '1'

/-- What is left behind a number in a base, with digits that it does not have told apart. -/
def skipBase (kind : NumberKind) (isDigit : Char → Bool) (s : List Char) :
    Except LexicalFault (List Char) :=
  match skipBased isDigit s with
  | .error (some c) => .error (if c.isDigit then .badDigit c kind else .badNumber kind)
  | .error none => .error (.badNumber kind)
  | .ok rest =>
    match rest.head? with
    | some c => if c.isDigit then .error (.badDigit c kind) else endNumber kind rest
    | none => .ok []

/-- Whether a text goes on as the number of no base: with a point, an exponent or a unit. -/
def goesOnDecimal (s : List Char) : Bool :=
  s.head?.any fun c => c = '.' || c = 'e' || c = 'E' || c = 'j' || c = 'J'

/-- What is left behind a number, from behind the zero that it begins with. -/
def skipZeroNumber (s : List Char) : Except LexicalFault (List Char) :=
  let c := s.head?.map Char.toLower
  if c = some 'x' then skipBase .hexadecimal Text.isHexDigit s.tail
  else if c = some 'o' then skipBase .octal isOctalDigit s.tail
  else if c = some 'b' then skipBase .binary isBinaryDigit s.tail
  else do
    let rest ← skipZeros s
    if rest.head?.any Char.isDigit then
      let rest ← skipDecimal rest
      if goesOnDecimal rest then skipPoint rest else .error .leadingZeros
    else skipPoint rest

/-- What is left behind the number that the text begins with. -/
def skipNumber : List Char → Except LexicalFault (List Char)
  | '.' :: rest => skipFraction rest
  | '0' :: rest => skipZeroNumber rest
  | s => skipDecimal s >>= skipPoint

/-! ## Texts -/

/-- The letters that may stand before a quote, in small letters. -/
def textMarks : List String := ["", "b", "r", "u", "f", "br", "rb", "fr", "rf"]

/-- Whether a word before a quote belongs to the text in quotes. -/
def isTextMark (word : List Char) : Bool := String.ofList (word.map Char.toLower) ∈ textMarks

/-- What is left behind a text on one line, from behind its first quote, and the line then. -/
def skipText (quote : Char) : (line : Nat) → List Char → Except LexicalFault (List Char × Nat)
  | line, [] => .error (.unterminatedText line)
  | line, '\\' :: c :: rest => skipText quote (if c = '\n' then line + 1 else line) rest
  | line, c :: rest =>
    if c = quote then .ok (rest, line)
    else if c = '\n' then .error (.unterminatedText line)
    else skipText quote line rest

/-- What is left behind a text in three quotes each, from behind the first three. -/
def skipLongText (quote : Char) :
    (line : Nat) → List Char → Except LexicalFault (List Char × Nat)
  | line, [] => .error (.unterminatedLongText line)
  | line, '\\' :: c :: rest => skipLongText quote (if c = '\n' then line + 1 else line) rest
  | line, c :: rest =>
    if c = quote && rest.take 2 = [quote, quote] then .ok (rest.drop 2, line)
    else skipLongText quote (if c = '\n' then line + 1 else line) rest

/-- What is left behind a text, from its first quote. -/
def skipQuoted (line : Nat) : List Char → Except LexicalFault (List Char × Nat)
  | [] => .error (.unterminatedText line)
  | quote :: rest =>
    if rest.take 2 = [quote, quote] then skipLongText quote line (rest.drop 2)
    else skipText quote line rest

/-! ## Lines -/

/-- Where the cutting stands. -/
structure Place where
  rest : List Char
  line : Nat
  /-- Whether the indent of a line comes next. -/
  isFresh : Bool
  /-- Whether the line has parts, so that its end counts. -/
  isFilled : Bool
  opened : List OpenBracket
  /-- The indents that are in force, the latest first, counted in two ways. -/
  indents : List (Nat × Nat)
deriving Repr

/-- Columns between tab stops in an indent. -/
def indentStop : Nat := 8

def indentLimit : Nat := 100

def nestingLimit : Nat := 200

/-- The columns of an indent, with tabs going to the next stop or counting one, and what is left
behind it.  A line that is continued has the indent of its first piece. -/
def readIndent : (column flat first line : Nat) → List Char →
    Except LexicalFault (Nat × Nat × Nat × List Char)
  | column, flat, first, line, ' ' :: rest => readIndent (column + 1) (flat + 1) first line rest
  | column, flat, first, line, '\t' :: rest =>
    readIndent ((column / indentStop + 1) * indentStop) (flat + 1) first line rest
  | _, _, first, line, '\x0c' :: rest => readIndent 0 0 first line rest
  | column, flat, first, line, '\\' :: '\n' :: rest =>
    if rest = [] then .error .unfinishedLine
    else readIndent column flat (if first = 0 then column else first) (line + 1) rest
  | _, _, _, _, '\\' :: _ => .error .strayBackslash
  | column, flat, first, line, rest =>
    .ok (if first = 0 then column else first, if first = 0 then flat else first, line, rest)

/-- The indents that are in force for a line, and the parts that tell of the change. -/
def changeIndent (indents : List (Nat × Nat)) (column flat : Nat) :
    Except LexicalFault (List Part × List (Nat × Nat)) :=
  let (lastColumn, lastFlat) := indents.headD (0, 0)
  if column = lastColumn then
    if flat = lastFlat then .ok ([], indents) else .error .mixedIndent
  else if lastColumn < column then
    if indentLimit ≤ indents.length + 1 then .error .tooIndented
    else if flat ≤ lastFlat then .error .mixedIndent
    else .ok ([.indent], (column, flat) :: indents)
  else
    let kept := indents.dropWhile (column < ·.1)
    let (keptColumn, keptFlat) := kept.headD (0, 0)
    if column ≠ keptColumn then .error .unevenIndent
    else if flat ≠ keptFlat then .error .mixedIndent
    else .ok (List.replicate (indents.length - kept.length) .dedent, kept)

/-- The place behind the indent of a line, and the parts that tell of it.  A line without parts has
no indent. -/
def beginLine (p : Place) : Except LexicalFault (List Part × Place) := do
  let (column, flat, line, rest) ← readIndent 0 0 0 p.line p.rest
  let p := { p with rest := rest, line := line, isFresh := false }
  if p.opened ≠ [] || rest.head? = some '#' || rest.head? = some '\n' then return ([], p)
  else
    let (parts, indents) ← changeIndent p.indents column flat
    return (parts, { p with indents := indents })

/-! ## Parts -/

/-- The brackets that are open behind a character. -/
def follow (c : Char) (line : Nat) (opened : List OpenBracket) :
    Except LexicalFault (List OpenBracket) :=
  if c = '(' || c = '[' || c = '{' then
    if nestingLimit ≤ opened.length then .error .tooNested else .ok ((c, line) :: opened)
  else if c = ')' || c = ']' || c = '}' then
    match opened with
    | [] => .error (.unmatched c)
    | (o, openLine) :: opened =>
      if isPair o c then .ok opened
      else .error (.mismatched c o (if openLine = line then none else some openLine))
  else .ok opened

def readSymbol (p : Place) (c : Char) (rest : List Char) :
    Except LexicalFault (Part × Place) :=
  match symbols.find? (·.toList.isPrefixOf (c :: rest)) with
  | some sign => .ok (.symbol sign, { p with rest := (c :: rest).drop sign.length })
  | none => do
    let opened ← follow c p.line p.opened
    if Text.isPrintable c then
      return (.symbol c.toString, { p with rest := rest, opened := opened })
    else .error (.strangeCharacter c)

/-- The first character of a word that cannot be in a name. -/
def strangeIn? (word : List Char) : Option Char :=
  match word with
  | [] => none
  | c :: rest =>
    if Text.startsName c then rest.find? fun d => !Text.continuesName d else some c

/-- The part that the text begins with, which is no blank, and the place behind it. -/
def readPart (p : Place) (c : Char) (rest : List Char) : Except LexicalFault (Part × Place) :=
  let word := (c :: rest).takeWhile isNamePart
  let behind := (c :: rest).dropWhile isNamePart
  if c.isDigit || (c = '.' && rest.head?.any Char.isDigit) then do
    let left ← skipNumber (c :: rest)
    return (.number ((c :: rest).take (rest.length + 1 - left.length)), { p with rest := left })
  else if (behind.head? = some '\'' || behind.head? = some '"') && isTextMark word then do
    let (left, line) ← skipQuoted p.line behind
    return (.text ((c :: rest).take (rest.length + 1 - left.length)),
      { p with rest := left, line := line })
  else if word ≠ [] then
    match strangeIn? word with
    | some strange => .error (.strangeCharacter strange)
    | none => .ok (.ofWord (String.ofList word), { p with rest := behind })
  else readSymbol p c rest

/-- The parts that come next within a line, if any, each in its line, and the place behind them. -/
def step (p : Place) (c : Char) (rest : List Char) :
    Except LexicalFault (List (Part × Nat) × Place) :=
  if c = ' ' || c = '\t' || c = '\x0c' then .ok ([], { p with rest := rest })
  else if c = '#' then .ok ([], { p with rest := rest.dropWhile (· ≠ '\n') })
  else if c = '\n' then
    .ok (if p.opened = [] && p.isFilled then [(.newline, p.line)] else [],
      { p with rest := rest, line := p.line + 1, isFresh := true, isFilled := false })
  else if c = '\\' then
    match rest with
    | '\n' :: more =>
      if more = [] then .error .unfinishedLine
      else .ok ([], { p with rest := more, line := p.line + 1 })
    | _ => .error .strayBackslash
  else do
    let (part, next) ← readPart p c rest
    return ([(part, p.line)], { next with isFilled := true })

/-- The token that ends a source at a place. -/
def finalToken (p : Place) : Token :=
  match p.opened with
  | [] => ⟨.finish, p.line, [], true⟩
  | (c, _) :: _ => ⟨.broken (.neverClosed c), p.line, p.opened, true⟩

/-- The token that a fault is, at a place.  A last line that is continued leaves brackets open. -/
def faultToken (p : Place) (fault : LexicalFault) : Token :=
  if fault = .unfinishedLine && p.opened ≠ [] then finalToken p
  else ⟨.broken fault, p.line, p.opened, false⟩

/-- The tokens from a place on; `fuel` bounds how many characters are left, and lines twice. -/
def tokensFrom : (fuel : Nat) → Place → List Token
  | 0, p => [finalToken p]
  | fuel + 1, p =>
    if p.isFresh then
      match beginLine p with
      | .error fault => [faultToken p fault]
      | .ok (parts, next) =>
        parts.map (fun part => ⟨part, next.line, next.opened, false⟩) ++ tokensFrom fuel next
    else match p.rest with
      | [] => [finalToken p]
      | c :: rest =>
        match step p c rest with
        | .error fault => [faultToken p fault]
        | .ok (parts, next) =>
          parts.map (fun (part, line) =>
              ⟨part, line, next.opened, part.mayGoOn && next.rest.isEmpty⟩) ++ tokensFrom fuel next

/-- Lines end with `\n`, however they were ended. -/
def unifyLineEnds : List Char → List Char
  | [] => []
  | '\r' :: '\n' :: rest => '\n' :: unifyLineEnds rest
  | c :: rest => (if c = '\r' then '\n' else c) :: unifyLineEnds rest

def tokens (s : List Char) : List Token := tokensFrom (2 * s.length + 2) ⟨s, 1, true, false, [], []⟩

end TemplateRun.Literal
