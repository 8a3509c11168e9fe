/-
# `Refusal` — where bytes stop being text, and why

A decoder that meets bytes it cannot read names the first of them, its position, how many of them
it gives up on, and a reason.  A refusal of one byte says which byte it is, a longer one only where
it lies.
-/
import TemplateRun.Text.Quoted

namespace TemplateRun

/-- Why bytes cannot be read. -/
inductive RefusalReason where
  /-- The byte starts no character. -/
  | startByte
  /-- The character that has begun goes on differently. -/
  | continuationByte
  /-- The bytes end within a character. -/
  | endOfData
  /-- The byte is above the range of the encoding. -/
  | outOfRange
deriving DecidableEq, Repr

def RefusalReason.text : RefusalReason → String
  | startByte => "invalid start byte"
  | continuationByte => "invalid continuation byte"
  | endOfData => "unexpected end of data"
  | outOfRange => "ordinal not in range(128)"

/-- Bytes that a decoder gives up on. -/
structure Refusal where
  /-- The name of the encoding. -/
  encoding : String
  /-- The first of the bytes. -/
  first : UInt8
  /-- The number of bytes before it. -/
  position : Nat
  /-- The number of bytes given up on. -/
  span : Nat
  reason : RefusalReason
deriving DecidableEq, Repr

def Refusal.message (r : Refusal) : String :=
  let which :=
    if r.span = 1 then "byte 0x" ++ Text.hexByte r.first ++ " in position " ++ toString r.position
    else
      "bytes in position " ++ toString r.position ++ "-" ++ toString (r.position + r.span - 1)
  "'" ++ r.encoding ++ "' codec can't decode " ++ which ++ ": " ++ r.reason.text

end TemplateRun
