/-
# `Value` — what collaborators hand over

A value is nothing, a truth value, a number, a text, a list or a mapping.  It counts as true unless
it is nothing, false, zero or empty.  On the console a text stands as it is; inside of a list or a
mapping, where it has to be told from its surroundings, it is quoted.
-/
import TemplateRun.Number.Shortest
import TemplateRun.Text.Quoted

namespace TemplateRun

/-- What a collaborator can hand over. -/
inductive Value where
  | nothing
  | truth (b : Bool)
  | integer (n : Int)
  | real (x : Binary)
  | text (s : String)
  | list (items : List Value)
  | mapping (entries : List (String × Value))

namespace Value

def isTrue : Value → Bool
  | nothing => false
  | truth b => b
  | integer n => n ≠ 0
  | real x => !x.isZero
  | text s => s ≠ ""
  | list items => !items.isEmpty
  | mapping entries => !entries.isEmpty

mutual

/-- A value among others. -/
def quoted : Value → String
  | nothing => "None"
  | truth b => if b then "True" else "False"
  | integer n => toString n
  | real x => x.text
  | text s => Text.quote s
  | list items => "[" ++ ", ".intercalate (quotedItems items) ++ "]"
  | mapping entries => "\x7b" ++ ", ".intercalate (quotedEntries entries) ++ "\x7d"

/-- Values among others. -/
def quotedItems : List Value → List String
  | [] => []
  | item :: rest => item.quoted :: quotedItems rest

/-- Keys with their values. -/
def quotedEntries : List (String × Value) → List String
  | [] => []
  | (key, value) :: rest => (Text.quote key ++ ": " ++ value.quoted) :: quotedEntries rest

end

/-- A value by itself. -/
def shown : Value → String
  | text s => s
  | value => value.quoted

end Value

end TemplateRun
