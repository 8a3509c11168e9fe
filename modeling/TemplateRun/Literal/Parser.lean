/-
# `Parser` — reading tokens by a grammar

A rule is tried at a token; it fits up to another one, or it does not.  Tokens are looked at one by
one, and where one is broken, reading ends.  Readings of some rules are remembered by the token they
began at.  How deep rules may stand in one another is bounded.

If nothing fits, the tokens are read once more, now with the refusals of the grammar.  What they say
counts, and if they say nothing, something is out of place.  But a token that is broken further on
says more than that, and so does a bracket that is left open on an earlier line.
-/
import Std.Data.HashMap
import TemplateRun.Literal.Grammar
import TemplateRun.Text.Hexadecimal
import TemplateRun.Text.Numeral

namespace TemplateRun.Literal

/-! ## Numbers -/

def Number.ofSource (source : List Char) : Except Text.NumeralFault Number :=
  let digits := source.filter (· ≠ '_')
  match digits.head?, (digits.getD 1 ' ').toLower with
  | some '0', 'x' => .ok (.integer (Text.numeralIn 16 (digits.drop 2)))
  | some '0', 'o' => .ok (.integer (Text.numeralIn 8 (digits.drop 2)))
  | some '0', 'b' => .ok (.integer (Text.numeralIn 2 (digits.drop 2)))
  | _, _ =>
    if digits.any fun c => c = 'j' || c = 'J' then .ok .imaginary
    else if !digits.all Char.isDigit then .ok .real
    else if digits.all (· = '0') then .ok (.integer 0)
    else (Text.readNumeral digits).map .integer

/-! ## Reading -/

def depthLimit : Nat := 6000

/-- What is known while tokens are read. -/
structure Progress where
  /-- The last token that has been looked at. -/
  furthest : Nat
  /-- How rules have been read from tokens on, with the tokens behind them. -/
  known : Std.HashMap (Rule × Nat) (Option (Form × Nat))

/-- A step of reading, which a fault ends. -/
abbrev Reading := EStateM Fault Progress

/-- What is read from a token on, and the token behind it; nothing, if it does not fit. -/
abbrev Reader := Nat → Reading (Option (Form × Nat))

def peek (tokens : Array Token) (i : Nat) : Reading Part := do
  modify fun p => { p with furthest := max p.furthest i }
  match tokens[i]? with
  | none => return .finish
  | some token =>
    match token.part with
    | .broken fault => throw (.illWritten (.lexical fault))
    | part => return part

/-- Words that have a meaning in other places, and what they begin with. -/
def isLooseWord (word : String) : Bool :=
  ["match", "case", "_"].any fun w => word.toList.isPrefixOf w.toList

/-- The form of a part, if it is of a class. -/
def accept : TokenClass → Part → Except Fault (Option Form)
  | .name, .name word => .ok (some (.name word))
  | .looseWord, .name word => .ok (if isLooseWord word then some (.name word) else none)
  | .reserved w, .reserved word => .ok (if w = word then some (.part (.reserved word)) else none)
  | .symbol s, .symbol sign => .ok (if s = sign then some (.part (.symbol sign)) else none)
  | .number, .number source =>
    match Number.ofSource source with
    | .ok n => .ok (some (.number n))
    | .error fault => .error (.illWritten (.number fault))
  | .text, .text source => .ok (some (.part (.text source)))
  | .newline, .newline => .ok (some (.part .newline))
  | .finish, .finish => .ok (some (.part .finish))
  | _, _ => .ok none

def readPiece (tokens : Array Token) (call : Rule → Reader) : Piece → Reader
  | .rule r, i => call r i
  | .token c, i => do
    match accept c (← peek tokens i) with
    | .ok form? => return form?.map fun form => (form, i + 1)
    | .error fault => throw fault

/-- What comes of a row of items. -/
inductive Row where
  /-- All fit; their forms from the last on, and the token behind them. -/
  | fits (forms : List Form) (next : Nat)
  | fails (isCommitted : Bool)

/-- Reads a row of items behind others, whose forms are given from the last on. -/
def readRow (tokens : Array Token) (call : Rule → Reader) :
    (isCommitted : Bool) → List Item → (forms : List Form) → Nat → Reading Row
  | _, [], forms, i => return .fits forms i
  | isCommitted, item :: rest, forms, i => do
    match item with
    | .commit => readRow tokens call true rest forms i
    | .one p =>
      match ← readPiece tokens call p i with
      | some (form, next) => readRow tokens call isCommitted rest (form :: forms) next
      | none => return .fails isCommitted
    | .perhaps p =>
      match ← readPiece tokens call p i with
      | some (form, next) => readRow tokens call isCommitted rest (form :: forms) next
      | none => readRow tokens call isCommitted rest (.absent :: forms) i
    | .ahead p =>
      if (← readPiece tokens call p i).isSome then readRow tokens call isCommitted rest forms i
      else return .fails isCommitted
    | .notAhead p =>
      if (← readPiece tokens call p i).isSome then return .fails isCommitted
      else readRow tokens call isCommitted rest forms i

/-- How many brackets are open behind the last token before another. -/
def depthBefore (tokens : Array Token) (i : Nat) : Nat :=
  match tokens[i - 1]? with
  | some token => token.opened.length
  | none => 0

/-- Reads in the first way that fits, behind a form if there is one. -/
def readWays (tokens : Array Token) (call : Rule → Reader) (refuses : Bool)
    (before : List Form) : List Way → Reader
  | [], _ => return none
  | way :: rest, i => do
    if way.isRefusal && !refuses then readWays tokens call refuses before rest i
    else match ← readRow tokens call false way.items [] i with
      | .fails true => return none
      | .fails false => readWays tokens call refuses before rest i
      | .fits forms next =>
        match way.build (depthBefore tokens next) (before ++ forms.reverse) with
        | .form form => return some (form, next)
        | .nothing => return none
        | .fault fault => throw fault

/-- Reads on as long as something fits, at most `fuel` times. -/
def readMany (one : Reader) : (fuel : Nat) → (forms : List Form) → Nat →
    Reading (List Form × Nat)
  | 0, forms, i => return (forms.reverse, i)
  | fuel + 1, forms, i => do
    match ← one i with
    | some (form, next) => readMany one fuel (form :: forms) next
    | none => return (forms.reverse, i)

/-- Lets a form grow as long as something fits behind it, at most `fuel` times. -/
def readGrowth (more : Form → Reader) : (fuel : Nat) → Form → Nat → Reading (Form × Nat)
  | 0, form, i => return (form, i)
  | fuel + 1, form, i => do
    match ← more form i with
    | some (form, next) => readGrowth more fuel form next
    | none => return (form, i)

def readBehindComma (tokens : Array Token) (call : Rule → Reader) (piece : Piece) : Reader :=
  fun i => do
    match ← readRow tokens call false [.sign ",", .one piece] [] i with
    | .fits (form :: _) next => return some (form, next)
    | _ => return none

/-- Reads a rule; `depth` bounds how deep other rules may stand in it. -/
def readRule (tokens : Array Token) (ways : Rule → Ways) :
    (depth : Nat) → (refuses : Bool) → Rule → Reader
  | 0, _, _, _ => throw .tooDeep
  | depth + 1, refuses, rule, i => do
    let progress ← get
    match (if isRemembered rule then progress.known[(rule, i)]? else none) with
    | some result => return result
    | none =>
      let refuses := refuses && rule ≠ .plainExpression
      let result ← match ways rule with
        | .first ways' => readWays tokens (readRule tokens ways depth refuses) refuses [] ways' i
        | .repeated atLeastOnce ways' => do
          let one := readWays tokens (readRule tokens ways depth refuses) refuses [] ways'
          let (forms, next) ← readMany one tokens.size [] i
          pure (if atLeastOnce && forms.isEmpty then none else some (.series forms, next))
        | .growing seed growth =>
          match depth with
          | 0 => throw .tooDeep
          | depth + 1 => do
            let call := readRule tokens ways depth refuses
            match ← readWays tokens call refuses [] seed i with
            | none => pure none
            | some (form, next) => do
              let more (form : Form) := readWays tokens call refuses [form] growth
              pure (some (← readGrowth more tokens.size form next))
        | .separated piece =>
          match depth with
          | 0 => throw .tooDeep
          | depth + 1 => do
            match ← readPiece tokens (readRule tokens ways (depth + 1) refuses) piece i with
            | none => pure none
            | some (form, next) => do
              let call := readRule tokens ways depth refuses
              let (forms, next) ←
                readMany (readBehindComma tokens call piece) tokens.size [form] next
              pure (some (.series forms, next))
      if isRemembered rule then
        modify fun p => { p with known := p.known.insert (rule, i) result }
      return result

/-! ## Saying what is wrong -/

/-- What tokens tell of a fault that has been met, behind the furthest one that has been looked at:
the fault of one that is broken, or of a bracket that is left open on a line before. -/
def foreseen? (tokens : Array Token) (furthest : Nat) : Option LexicalFault :=
  match tokens.back? with
  | some ⟨.broken broken, _, opened, _⟩ =>
    if broken.isForemost then some broken
    else match opened, tokens[furthest]? with
      | (c, line) :: _, some token => if line < token.line then some (.neverClosed c) else none
      | _, _ => none
  | _ => none

/-- The fault that counts, of one that has been met and those behind it. -/
def foremost (tokens : Array Token) (furthest : Nat) (fault : SyntaxFault) : Fault :=
  .illWritten (((foreseen? tokens furthest).map .lexical).getD fault)

/-- The fault that counts, of one that a rule has told.  At the end of the source no other one
does. -/
def told (tokens : Array Token) (furthest : Nat) : Fault → Fault
  | .illWritten (.lexical fault) => .illWritten (.lexical fault)
  | .illWritten fault =>
    if tokens[furthest]?.any Token.isLast then .illWritten fault
    else foremost tokens furthest fault
  | fault => fault

/-- The fault of tokens that fit nothing, the last one being where reading has got to. -/
def misplacement (tokens : Array Token) (last : Nat) (furthest : Nat) : Fault :=
  match tokens[last]?.map Token.part with
  | some .indent => .illWritten (.form .unexpectedIndent)
  | _ => foremost tokens furthest (.form .misplaced)

def readTokens (concatenate : List Form → Except Fault Form) (start : Rule) (tokens : Array Token) :
    Except Fault Form :=
  let attempt refuses furthest :=
    (readRule tokens (waysOf concatenate) depthLimit refuses start 0).run ⟨furthest, ∅⟩
  match attempt false 0 with
  | .ok (some (form, _)) _ => .ok form
  | .error fault p => .error (told tokens p.furthest fault)
  | .ok none p =>
    match attempt true p.furthest with
    | .ok _ q => .error (misplacement tokens p.furthest q.furthest)
    | .error fault q => .error (told tokens q.furthest fault)

end TemplateRun.Literal
