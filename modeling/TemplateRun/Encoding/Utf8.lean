/-
# `Utf8` — reading UTF-8 and locating what is not

The first byte of a character says how many bytes follow and between which bounds the first of
those lies; the bounds are tighter than for later ones where a character would be overlong, a
surrogate, or above the last code point.  The decoder goes through the bytes once.  A byte that
does not fit ends it: between characters that byte alone is refused, within one the bytes of the
character so far.
-/
import TemplateRun.Encoding.Refusal

namespace TemplateRun.Utf8

/-! ## First bytes -/

/-- What a first byte announces. -/
structure Lead where
  /-- The number of bytes that follow. -/
  tail : Nat
  /-- The bits that it contributes. -/
  bits : Nat
  /-- The least byte that may follow next. -/
  low : Nat
  /-- The greatest byte that may follow next. -/
  high : Nat
deriving DecidableEq, Repr

/-- The meaning of a byte that begins a character. -/
def lead? (b : Nat) : Option Lead :=
  if b < 0x80 then some ⟨0, b, 0x80, 0xbf⟩
  else if b < 0xc2 then none
  else if b < 0xe0 then some ⟨1, b - 0xc0, 0x80, 0xbf⟩
  else if b < 0xf0 then
    some ⟨2, b - 0xe0, if b = 0xe0 then 0xa0 else 0x80, if b = 0xed then 0x9f else 0xbf⟩
  else if b < 0xf5 then
    some ⟨3, b - 0xf0, if b = 0xf0 then 0x90 else 0x80, if b = 0xf4 then 0x8f else 0xbf⟩
  else none

/-! ## Decoding -/

/-- A character that has begun. -/
structure Begun where
  first : UInt8
  /-- The number of its bytes read. -/
  seen : Nat
  /-- The bits read, and how many bytes are missing. -/
  lead : Lead
deriving DecidableEq, Repr

/-- The refusal of a character that has begun before `position`. -/
def Begun.refusal (c : Begun) (position : Nat) (reason : RefusalReason) : Refusal :=
  ⟨"utf-8", c.first, position - c.seen, c.seen, reason⟩

/-- The text of the bytes behind `position`, where a character may have begun. -/
def decodeFrom : (position : Nat) → Option Begun → List UInt8 → Except Refusal (List Char)
  | _, none, [] => .ok []
  | position, some c, [] => .error (c.refusal position .endOfData)
  | position, none, b :: rest =>
    match lead? b.toNat with
    | none => .error ⟨"utf-8", b, position, 1, .startByte⟩
    | some lead =>
      if lead.tail = 0 then
        (decodeFrom (position + 1) none rest).map (Char.ofNat lead.bits :: ·)
      else decodeFrom (position + 1) (some ⟨b, 1, lead⟩) rest
  | position, some c, b :: rest =>
    if c.lead.low ≤ b.toNat ∧ b.toNat ≤ c.lead.high then
      let bits := c.lead.bits * 64 + (b.toNat - 0x80)
      if c.lead.tail = 1 then
        (decodeFrom (position + 1) none rest).map (Char.ofNat bits :: ·)
      else
        decodeFrom (position + 1)
          (some ⟨c.first, c.seen + 1, ⟨c.lead.tail - 1, bits, 0x80, 0xbf⟩⟩) rest
    else .error (c.refusal position .continuationByte)

def decode (bytes : List UInt8) : Except Refusal (List Char) := decodeFrom 0 none bytes

end TemplateRun.Utf8
