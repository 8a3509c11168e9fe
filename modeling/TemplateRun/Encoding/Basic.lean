/-
# `Encoding` — the ways in which the bytes of a file are a text

Four encodings are known, each under several names; a name is read without regard to case, and any
run of characters that are not letters, digits or dots separates its words.  The encoding of the
system is UTF-8.  Decoding is strict.
The text of a file is the decoded text with its line ends made alike: carriage return and line
feed together, and a carriage return alone, become a line feed.
-/
import TemplateRun.Encoding.Utf8

namespace TemplateRun

/-- How bytes are read as text. -/
inductive Encoding where
  | utf8
  /-- UTF-8 behind an optional byte order mark, which is no part of the text. -/
  | utf8Signed
  | ascii
  | latin1
deriving DecidableEq, Repr

namespace Encoding

/-! ## Names -/

/-- The words of a name, in lower case: `pending` tells that a separator has been seen. -/
def wordsFrom : (pending : Bool) → List Char → List Char
  | _, [] => []
  | pending, c :: rest =>
    if c.isAlphanum || c = '.' then
      if pending then '_' :: c.toLower :: wordsFrom false rest
      else c.toLower :: wordsFrom false rest
    else wordsFrom true rest

/-- The name in the one form in which names are compared. -/
def canonicalName (name : String) : String :=
  String.ofList
    (wordsFrom false (name.toList.dropWhile fun c => !(c.isAlphanum || c = '.')))

/-- The usual name of an encoding. -/
def name : Encoding → String
  | utf8 => "utf_8"
  | utf8Signed => "utf_8_sig"
  | ascii => "ascii"
  | latin1 => "latin_1"

def aliases : Encoding → List String
  | utf8 => ["utf8", "u8", "utf", "cp65001", "utf8_ucs2", "utf8_ucs4"]
  | utf8Signed => []
  | ascii =>
    ["us_ascii", "us", "646", "ansi_x3.4_1968", "ansi_x3_4_1968", "ansi_x3.4_1986", "cp367",
     "csascii", "ibm367", "iso646_us", "iso_646.irv_1991", "iso_ir_6"]
  | latin1 =>
    ["latin1", "latin", "l1", "iso_8859_1", "iso8859_1", "iso8859", "8859", "cp819", "csisolatin1",
     "ibm819", "iso_8859_1_1987", "iso_ir_100"]

/-- The name with its dots read as separators. -/
def withoutDots (name : String) : String :=
  String.ofList (name.toList.map fun c => if c = '.' then '_' else c)

/-- Whether an encoding has a name, in the form in which names are compared.  In one of its other
names a dot may stand for any separator. -/
def isNamed (encoding : Encoding) (name : String) : Bool :=
  name = encoding.name || name ∈ encoding.aliases || withoutDots name ∈ encoding.aliases

def all : List Encoding := [utf8, utf8Signed, ascii, latin1]

/-- The name that stands for the encoding of the system, in this form only. -/
def systemName : String := "locale"

def ofName? (name : String) : Option Encoding :=
  if name = systemName then some utf8
  else all.find? fun encoding => encoding.isNamed (canonicalName name)

/-! ## Decoding -/

/-- The byte order mark. -/
def signature : List UInt8 := [0xef, 0xbb, 0xbf]

/-- The bytes behind the byte order mark.  A mark that is cut short by the end is none of the text
either. -/
def unsigned (bytes : List UInt8) : List UInt8 :=
  if signature.isPrefixOf bytes then bytes.drop 3
  else if bytes.isPrefixOf signature then []
  else bytes

/-- The text of ASCII bytes behind `position`. -/
def decodeAsciiFrom : (position : Nat) → List UInt8 → Except Refusal (List Char)
  | _, [] => .ok []
  | position, b :: rest =>
    if b.toNat < 0x80 then
      (decodeAsciiFrom (position + 1) rest).map (Char.ofNat b.toNat :: ·)
    else .error ⟨"ascii", b, position, 1, .outOfRange⟩

/-- The text of bytes, line ends included. -/
def decode : Encoding → List UInt8 → Except Refusal (List Char)
  | utf8, bytes => Utf8.decode bytes
  | utf8Signed, bytes => Utf8.decode (unsigned bytes)
  | ascii, bytes => decodeAsciiFrom 0 bytes
  | latin1, bytes => .ok (bytes.map fun b => Char.ofNat b.toNat)

/-! ## Line ends -/

/-- The text with every line end a line feed. -/
def foldLineEnds : List Char → List Char
  | [] => []
  | '\r' :: '\n' :: rest => '\n' :: foldLineEnds rest
  | c :: rest => (if c = '\r' then '\n' else c) :: foldLineEnds rest

/-- The text of a file with these bytes. -/
def text (encoding : Encoding) (bytes : List UInt8) : Except Refusal String :=
  (encoding.decode bytes).map fun decoded => String.ofList (foldLineEnds decoded)

end Encoding

end TemplateRun
