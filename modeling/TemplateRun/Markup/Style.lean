/-
# `Style` — what the words in a tag ask for

The words of a tag name attributes, colors and the target of a link, and any attribute can be
denied.  Attributes and colors may come in any order, and the last word on each counts.  Two tags
belong together if they ask for the same, however they say it: `canonicalName` is the one name of
what is asked for.  A tag that is no style is known by its own text in lower case.
-/
import TemplateRun.Markup.Color
import TemplateRun.OrderedMap
import TemplateRun.Text.Blank

namespace TemplateRun.Markup

/-! ## Attributes -/

/-- What can be asked for or denied. -/
inductive Attribute where
  | bold
  | dim
  | italic
  | underline
  | blink
  | fastBlink
  | reverse
  | conceal
  | strike
  | doubleUnderline
  | frame
  | encircle
  | overline
deriving DecidableEq, Repr

namespace Attribute

/-- The attributes in the order of a style's name. -/
def all : List Attribute :=
  [bold, dim, italic, underline, blink, fastBlink, reverse, conceal, strike, doubleUnderline, frame,
   encircle, overline]

/-- The words for an attribute, the usual one first. -/
def names : Attribute → String × Option String
  | bold => ("bold", some "b")
  | dim => ("dim", some "d")
  | italic => ("italic", some "i")
  | underline => ("underline", some "u")
  | blink => ("blink", none)
  | fastBlink => ("blink2", none)
  | reverse => ("reverse", some "r")
  | conceal => ("conceal", some "c")
  | strike => ("strike", some "s")
  | doubleUnderline => ("underline2", some "uu")
  | frame => ("frame", none)
  | encircle => ("encircle", none)
  | overline => ("overline", some "o")

def ofName? (word : List Char) : Option Attribute :=
  all.find? fun a => a.names.1.toList = word || a.names.2.map String.toList = some word

end Attribute

/-! ## Styles -/

/-- What is asked for. -/
structure Style where
  /-- Attributes that are asked for or denied. -/
  attributes : List (Attribute × Bool)
  color : Option (List Char)
  background : Option (List Char)
  link : Option (List Char)
deriving DecidableEq, Repr

namespace Style

def blank : Style := ⟨[], none, none, none⟩

/-- The style with one more word on an attribute. -/
def setAttribute (style : Style) (a : Attribute) (wanted : Bool) : Style :=
  { style with attributes := OrderedMap.overwrite a wanted style.attributes }

/-- A style with more words behind it. -/
def readFrom : Style → List (List Char) → Except ColorFault Style
  | style, [] => .ok style
  | style, word :: rest =>
    let small := Text.lowercase word
    if small = "on".toList then
      match rest with
      | [] => .error .unknown
      | name :: rest => do readFrom { style with background := some (← Color.ofWord name) } rest
    else if small = "not".toList then
      match rest with
      | [] => .error .unknown
      | name :: rest =>
        match Attribute.ofName? name with
        | some a => readFrom (style.setAttribute a false) rest
        | none => .error .unknown
    else if small = "link".toList then
      match rest with
      | [] => .error .unknown
      | target :: rest => readFrom { style with link := some target } rest
    else match Attribute.ofName? small with
      | some a => readFrom (style.setAttribute a true) rest
      | none => do readFrom { style with color := some (← Color.ofWord small) } rest

def ofText (s : List Char) : Except ColorFault Style :=
  if Text.trim s = "none".toList then .ok blank else readFrom blank (Text.words s)

/-- The words for what is asked for on an attribute. -/
def attributeWords (style : Style) (a : Attribute) : List (List Char) :=
  match style.attributes.lookup a with
  | none => []
  | some true => [a.names.1.toList]
  | some false => ["not".toList, a.names.1.toList]

/-- The words of a style, in order. -/
def words (style : Style) : List (List Char) :=
  Attribute.all.flatMap style.attributeWords ++ style.color.toList ++
    (style.background.map fun name => ["on".toList, name]).getD [] ++
    (style.link.map fun target => ["link".toList, target]).getD []

def name (style : Style) : List Char :=
  match style.words with
  | [] => "none".toList
  | words => [' '].intercalate words

end Style

/-- The one name of what a text asks for. -/
def canonicalName (s : List Char) : Except Text.NumeralFault (List Char) :=
  match Style.ofText s with
  | .ok style => .ok style.name
  | .error .unknown => .ok (Text.lowercase (Text.trim s))
  | .error (.component fault) => .error fault

end TemplateRun.Markup
