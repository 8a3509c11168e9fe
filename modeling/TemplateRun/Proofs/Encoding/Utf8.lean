/-
# `Utf8` — the decoder accepts exactly the well-formed texts

A text is well-formed if it is put together from characters that are spelled as follows:

    form       first byte      further bytes    numbers
    1          0x00 - 0x7f     0                from 0x0 on
    2          0xc0 - 0xdf     1                from 0x80 on
    3          0xe0 - 0xef     2                from 0x800 on
    4          0xf0 - 0xf7     3                from 0x10000 on

Each further byte lies from 0x80 to 0xbf and adds its six bits to the number (`Continues`).  A
number that has a shorter form is not spelled in a longer one, and it has to be the number of a
character: so it is none of the surrogates and not above the last code point (`Spells`).

The decoder does not look at numbers but at the bounds of the second byte.  `spells_cons_iff` says
that this is the same; from it follows by induction that the decoder reads a text if and only if
the text is well-formed, and gives the characters that are spelled (`decode_eq_ok_iff`).  Every text
has one spelling, which is the one in which strings are kept (`spelling_iff`).
-/
import Mathlib.Data.List.Basic
import TemplateRun.Encoding.Utf8

namespace TemplateRun.Utf8

/-! ## Spelling -/

/-- A form in which a character can be spelled. -/
structure Form where
  /-- The number of bytes that follow the first. -/
  tail : Nat
  /-- The least first byte. -/
  base : Nat
  /-- The first bytes are below this. -/
  limit : Nat
  /-- The least number that has no shorter form. -/
  least : Nat

/-- The forms, the shortest first. -/
def Form.all : List Form :=
  [⟨0, 0, 0x80, 0⟩, ⟨1, 0xc0, 0xe0, 0x80⟩, ⟨2, 0xe0, 0xf0, 0x800⟩, ⟨3, 0xf0, 0xf8, 0x10000⟩]

/-- `Continues bits tail number`: the bytes make the number out of the bits before them. -/
inductive Continues : Nat → List UInt8 → Nat → Prop
  | nil (bits : Nat) : Continues bits [] bits
  | cons {bits number : Nat} {b : UInt8} {tail : List UInt8} :
      0x80 ≤ b.toNat → b.toNat < 0xc0 → Continues (bits * 64 + (b.toNat - 0x80)) tail number →
      Continues bits (b :: tail) number

/-- `Spells bytes c`: these are the bytes of the character. -/
inductive Spells : List UInt8 → Char → Prop
  | mk {form : Form} {b : UInt8} {tail : List UInt8} {c : Char} :
      form ∈ Form.all → form.base ≤ b.toNat → b.toNat < form.limit → tail.length = form.tail →
      Continues (b.toNat - form.base) tail c.toNat → form.least ≤ c.toNat → Spells (b :: tail) c

/-- `Spelling bytes cs`: these are the bytes of the characters, one after the other. -/
inductive Spelling : List UInt8 → List Char → Prop
  | nil : Spelling [] []
  | cons {front rest : List UInt8} {c : Char} {cs : List Char} :
      Spells front c → Spelling rest cs → Spelling (front ++ rest) (c :: cs)

/-! ## Numbers of characters -/

theorem continues_nil_iff {bits number : Nat} : Continues bits [] number ↔ number = bits := by
  constructor
  · intro h
    cases h
    rfl
  · rintro rfl
    exact .nil _

theorem continues_cons_iff {bits number : Nat} {b : UInt8} {tail : List UInt8} :
    Continues bits (b :: tail) number ↔
      (0x80 ≤ b.toNat ∧ b.toNat < 0xc0) ∧
        Continues (bits * 64 + (b.toNat - 0x80)) tail number := by
  constructor
  · intro h
    cases h with
    | cons hlow hhigh h => exact ⟨⟨hlow, hhigh⟩, h⟩
  · rintro ⟨⟨hlow, hhigh⟩, h⟩
    exact .cons hlow hhigh h

theorem toNat_valid (c : Char) : c.toNat < 0xd800 ∨ 0xdfff < c.toNat ∧ c.toNat < 0x110000 := c.valid

theorem toNat_ofNat {number : Nat}
    (h : number < 0xd800 ∨ 0xdfff < number ∧ number < 0x110000) :
    (Char.ofNat number).toNat = number := by
  have hvalid : number.isValidChar := h
  rw [Char.ofNat, dif_pos hvalid]
  rfl

theorem eq_ofNat {c : Char} {number : Nat} (h : c.toNat = number) : c = Char.ofNat number := by
  rw [← h, Char.ofNat_toNat]

/-! ## Characters that have begun -/

theorem lead?_eq_some_iff {b : Nat} {lead : Lead} : lead? b = some lead ↔
    b < 0x80 ∧ lead = ⟨0, b, 0x80, 0xbf⟩ ∨
    (0xc2 ≤ b ∧ b < 0xe0) ∧ lead = ⟨1, b - 0xc0, 0x80, 0xbf⟩ ∨
    (0xe0 ≤ b ∧ b < 0xf0) ∧
      lead = ⟨2, b - 0xe0, if b = 0xe0 then 0xa0 else 0x80, if b = 0xed then 0x9f else 0xbf⟩ ∨
    (0xf0 ≤ b ∧ b < 0xf5) ∧
      lead = ⟨3, b - 0xf0, if b = 0xf0 then 0x90 else 0x80, if b = 0xf4 then 0x8f else 0xbf⟩ := by
  constructor
  · intro h
    rw [lead?] at h
    split at h
    · next hb => exact .inl ⟨hb, (Option.some.inj h).symm⟩
    · split at h
      · cases h
      · split at h
        · next hb => exact .inr (.inl ⟨⟨by omega, hb⟩, (Option.some.inj h).symm⟩)
        · split at h
          · next hb => exact .inr (.inr (.inl ⟨⟨by omega, hb⟩, (Option.some.inj h).symm⟩))
          · split at h
            · next hb => exact .inr (.inr (.inr ⟨⟨by omega, hb⟩, (Option.some.inj h).symm⟩))
            · cases h
  · rintro (⟨hb, rfl⟩ | ⟨⟨hb, hb'⟩, rfl⟩ | ⟨⟨hb, hb'⟩, rfl⟩ | ⟨⟨hb, hb'⟩, rfl⟩)
    · rw [lead?, if_pos hb]
    · rw [lead?, if_neg (by omega), if_neg (by omega), if_pos hb']
    · rw [lead?, if_neg (by omega), if_neg (by omega), if_neg (by omega), if_pos hb']
    · rw [lead?, if_neg (by omega), if_neg (by omega), if_neg (by omega), if_neg (by omega),
        if_pos hb']

/-- `Closes lead tail c`: after such a first byte these bytes complete the character. -/
inductive Closes : Lead → List UInt8 → Char → Prop
  | nil (bits low high : Nat) : Closes ⟨0, bits, low, high⟩ [] (Char.ofNat bits)
  | cons {n bits low high : Nat} {b : UInt8} {tail : List UInt8} {c : Char} :
      low ≤ b.toNat → b.toNat ≤ high →
      Closes ⟨n, bits * 64 + (b.toNat - 0x80), 0x80, 0xbf⟩ tail c →
      Closes ⟨n + 1, bits, low, high⟩ (b :: tail) c

theorem closes_nil_iff {bits low high : Nat} {tail : List UInt8} {c : Char} :
    Closes ⟨0, bits, low, high⟩ tail c ↔ tail = [] ∧ c = Char.ofNat bits := by
  constructor
  · intro h
    cases h
    exact ⟨rfl, rfl⟩
  · rintro ⟨rfl, rfl⟩
    exact .nil bits low high

theorem closes_cons_iff {n bits low high : Nat} {tail : List UInt8} {c : Char} :
    Closes ⟨n + 1, bits, low, high⟩ tail c ↔ ∃ b rest, tail = b :: rest ∧
      (low ≤ b.toNat ∧ b.toNat ≤ high) ∧
      Closes ⟨n, bits * 64 + (b.toNat - 0x80), 0x80, 0xbf⟩ rest c := by
  constructor
  · intro h
    cases h with
    | cons hlow hhigh h => exact ⟨_, _, rfl, ⟨hlow, hhigh⟩, h⟩
  · rintro ⟨b, rest, rfl, ⟨hlow, hhigh⟩, h⟩
    exact .cons hlow hhigh h

section
variable {b : UInt8} {tail : List UInt8} {c : Char}

theorem spells_iff_forms {bytes : List UInt8} : Spells bytes c ↔
    (∃ b, bytes = [b] ∧ b.toNat < 0x80 ∧ c.toNat = b.toNat) ∨
    (∃ b x, bytes = [b, x] ∧ (0xc0 ≤ b.toNat ∧ b.toNat < 0xe0) ∧
      (0x80 ≤ x.toNat ∧ x.toNat < 0xc0) ∧
      0x80 ≤ c.toNat ∧ c.toNat = (b.toNat - 0xc0) * 64 + (x.toNat - 0x80)) ∨
    (∃ b x y, bytes = [b, x, y] ∧ (0xe0 ≤ b.toNat ∧ b.toNat < 0xf0) ∧
      (0x80 ≤ x.toNat ∧ x.toNat < 0xc0) ∧ (0x80 ≤ y.toNat ∧ y.toNat < 0xc0) ∧
      0x800 ≤ c.toNat ∧
      c.toNat = ((b.toNat - 0xe0) * 64 + (x.toNat - 0x80)) * 64 + (y.toNat - 0x80)) ∨
    ∃ b x y z, bytes = [b, x, y, z] ∧ (0xf0 ≤ b.toNat ∧ b.toNat < 0xf8) ∧
      (0x80 ≤ x.toNat ∧ x.toNat < 0xc0) ∧ (0x80 ≤ y.toNat ∧ y.toNat < 0xc0) ∧
      (0x80 ≤ z.toNat ∧ z.toNat < 0xc0) ∧ 0x10000 ≤ c.toNat ∧
      c.toNat = (((b.toNat - 0xf0) * 64 + (x.toNat - 0x80)) * 64 + (y.toNat - 0x80)) * 64 +
        (z.toNat - 0x80) := by
  constructor
  · intro h
    cases h with
    | @mk form b tail _ hform hbase hlimit hlength hcontinues hleast =>
        simp only [Form.all, List.mem_cons, List.not_mem_nil, or_false] at hform
        rcases hform with rfl | rfl | rfl | rfl
        · obtain rfl := List.eq_nil_of_length_eq_zero hlength
          rw [continues_nil_iff] at hcontinues
          exact .inl ⟨b, rfl, hlimit, hcontinues⟩
        · obtain ⟨x, rfl⟩ := List.length_eq_one_iff.mp hlength
          rw [continues_cons_iff, continues_nil_iff] at hcontinues
          obtain ⟨hx, hnumber⟩ := hcontinues
          exact .inr (.inl ⟨b, x, rfl, ⟨hbase, hlimit⟩, hx, hleast, hnumber⟩)
        · obtain ⟨x, y, rfl⟩ := List.length_eq_two.mp hlength
          rw [continues_cons_iff, continues_cons_iff, continues_nil_iff] at hcontinues
          obtain ⟨hx, hy, hnumber⟩ := hcontinues
          exact .inr (.inr (.inl ⟨b, x, y, rfl, ⟨hbase, hlimit⟩, hx, hy, hleast, hnumber⟩))
        · obtain ⟨x, y, z, rfl⟩ := List.length_eq_three.mp hlength
          rw [continues_cons_iff, continues_cons_iff, continues_cons_iff, continues_nil_iff]
            at hcontinues
          obtain ⟨hx, hy, hz, hnumber⟩ := hcontinues
          exact .inr (.inr (.inr ⟨b, x, y, z, rfl, ⟨hbase, hlimit⟩, hx, hy, hz, hleast, hnumber⟩))
  · rintro (⟨b, rfl, hb, hnumber⟩ | ⟨b, x, rfl, hb, hx, hleast, hnumber⟩ |
      ⟨b, x, y, rfl, hb, hx, hy, hleast, hnumber⟩ |
      ⟨b, x, y, z, rfl, hb, hx, hy, hz, hleast, hnumber⟩)
    · have hform : ⟨0, 0, 0x80, 0⟩ ∈ Form.all := by simp [Form.all]
      refine .mk hform (Nat.zero_le _) hb rfl ?_ (Nat.zero_le _)
      exact continues_nil_iff.mpr hnumber
    · have hform : ⟨1, 0xc0, 0xe0, 0x80⟩ ∈ Form.all := by simp [Form.all]
      refine .mk hform hb.1 hb.2 rfl (.cons hx.1 hx.2 ?_) hleast
      exact continues_nil_iff.mpr hnumber
    · have hform : ⟨2, 0xe0, 0xf0, 0x800⟩ ∈ Form.all := by simp [Form.all]
      refine .mk hform hb.1 hb.2 rfl (.cons hx.1 hx.2 (.cons hy.1 hy.2 ?_)) hleast
      exact continues_nil_iff.mpr hnumber
    · have hform : ⟨3, 0xf0, 0xf8, 0x10000⟩ ∈ Form.all := by simp [Form.all]
      refine .mk hform hb.1 hb.2 rfl (.cons hx.1 hx.2 (.cons hy.1 hy.2 (.cons hz.1 hz.2 ?_))) hleast
      exact continues_nil_iff.mpr hnumber

theorem Spells.closes (h : Spells (b :: tail) c) :
    ∃ lead, lead? b.toNat = some lead ∧ Closes lead tail c := by
  have hvalid := toNat_valid c
  simp only [lead?_eq_some_iff]
  rcases spells_iff_forms.mp h with ⟨_, heq, hb, hnumber⟩ | ⟨_, x, heq, hb, hx, hleast, hnumber⟩ |
    ⟨_, x, y, heq, hb, hx, hy, hleast, hnumber⟩ |
    ⟨_, x, y, z, heq, hb, hx, hy, hz, hleast, hnumber⟩
  all_goals obtain ⟨rfl, rfl⟩ := List.cons.inj heq
  · exact ⟨_, .inl ⟨hb, rfl⟩, closes_nil_iff.mpr ⟨rfl, eq_ofNat hnumber⟩⟩
  · refine ⟨_, .inr (.inl ⟨by omega, rfl⟩), .cons hx.1 (by omega) ?_⟩
    exact closes_nil_iff.mpr ⟨rfl, eq_ofNat hnumber⟩
  · refine ⟨_, .inr (.inr (.inl ⟨hb, rfl⟩)), ?_⟩
    refine .cons (by split <;> omega) (by split <;> omega) (.cons hy.1 (by omega) ?_)
    exact closes_nil_iff.mpr ⟨rfl, eq_ofNat hnumber⟩
  · refine ⟨_, .inr (.inr (.inr ⟨by omega, rfl⟩)), ?_⟩
    refine .cons (by split <;> omega) (by split <;> omega) (.cons hy.1 (by omega) ?_)
    exact .cons hz.1 (by omega) (closes_nil_iff.mpr ⟨rfl, eq_ofNat hnumber⟩)

theorem Closes.spells {lead : Lead} (hlead : lead? b.toNat = some lead) (h : Closes lead tail c) :
    Spells (b :: tail) c := by
  rw [lead?_eq_some_iff] at hlead
  rw [spells_iff_forms]
  rcases hlead with ⟨hb, rfl⟩ | ⟨⟨hb, hb'⟩, rfl⟩ | ⟨⟨hb, hb'⟩, rfl⟩ | ⟨⟨hb, hb'⟩, rfl⟩
  · obtain ⟨rfl, rfl⟩ := closes_nil_iff.mp h
    exact .inl ⟨b, rfl, hb, toNat_ofNat (by omega)⟩
  · obtain ⟨x, _, rfl, ⟨hx, hx'⟩, h⟩ := closes_cons_iff.mp h
    obtain ⟨rfl, hc⟩ := closes_nil_iff.mp h
    rw [hc, toNat_ofNat (by omega)]
    exact .inr (.inl ⟨b, x, rfl, by omega, by omega, by omega, rfl⟩)
  · obtain ⟨x, _, rfl, ⟨hx, hx'⟩, h⟩ := closes_cons_iff.mp h
    obtain ⟨y, _, rfl, ⟨hy, hy'⟩, h⟩ := closes_cons_iff.mp h
    obtain ⟨rfl, hc⟩ := closes_nil_iff.mp h
    have hvalid : b.toNat = 0xed → x.toNat ≤ 0x9f := fun heq => by rwa [if_pos heq] at hx'
    have hleast : b.toNat = 0xe0 → 0xa0 ≤ x.toNat := fun heq => by rwa [if_pos heq] at hx
    have hfurther : 0x80 ≤ x.toNat ∧ x.toNat < 0xc0 := by split at hx <;> split at hx' <;> omega
    clear hx hx'
    rw [hc, toNat_ofNat (by omega)]
    exact .inr (.inr (.inl ⟨b, x, y, rfl, ⟨hb, hb'⟩, hfurther, by omega, by omega, rfl⟩))
  · obtain ⟨x, _, rfl, ⟨hx, hx'⟩, h⟩ := closes_cons_iff.mp h
    obtain ⟨y, _, rfl, ⟨hy, hy'⟩, h⟩ := closes_cons_iff.mp h
    obtain ⟨z, _, rfl, ⟨hz, hz'⟩, h⟩ := closes_cons_iff.mp h
    obtain ⟨rfl, hc⟩ := closes_nil_iff.mp h
    have hvalid : b.toNat = 0xf4 → x.toNat ≤ 0x8f := fun heq => by rwa [if_pos heq] at hx'
    have hleast : b.toNat = 0xf0 → 0x90 ≤ x.toNat := fun heq => by rwa [if_pos heq] at hx
    have hfurther : 0x80 ≤ x.toNat ∧ x.toNat < 0xc0 := by split at hx <;> split at hx' <;> omega
    clear hx hx'
    rw [hc, toNat_ofNat (by omega)]
    refine .inr (.inr (.inr ⟨b, x, y, z, rfl, by omega, hfurther, by omega, by omega, ?_, rfl⟩))
    omega

/-- To spell a character is to complete what a first byte announces: where the decoder keeps to the
bounds of the second byte, the number is none that has a shorter form, no surrogate and not above
the last one. -/
theorem spells_cons_iff : Spells (b :: tail) c ↔
    ∃ lead, lead? b.toNat = some lead ∧ Closes lead tail c :=
  ⟨Spells.closes, fun ⟨_, hlead, h⟩ => h.spells hlead⟩

end

/-! ## Decoding -/

/-- `Completes lead bytes cs`: after such a first byte these bytes complete the first of the
characters and spell the others. -/
inductive Completes (lead : Lead) : List UInt8 → List Char → Prop
  | mk {tail rest : List UInt8} {c : Char} {cs : List Char} :
      Closes lead tail c → Spelling rest cs → Completes lead (tail ++ rest) (c :: cs)

section
variable {b : UInt8} {bytes rest : List UInt8} {cs : List Char} {n bits low high : Nat}

theorem spelling_nil_iff : Spelling [] cs ↔ cs = [] := by
  constructor
  · intro h
    generalize hnil : [] = bytes at h
    cases h with
    | nil => rfl
    | cons hc _ =>
        cases hc
        cases hnil
  · rintro rfl
    exact .nil

theorem spelling_cons_iff : Spelling (b :: rest) cs ↔
    ∃ lead, lead? b.toNat = some lead ∧ Completes lead rest cs := by
  constructor
  · intro h
    generalize hbytes : b :: rest = bytes at h
    cases h with
    | nil => cases hbytes
    | @cons front more _ _ hc hmore =>
        cases front with
        | nil => cases hc
        | cons b' tail =>
            cases hbytes
            obtain ⟨lead, hlead, hcloses⟩ := spells_cons_iff.mp hc
            exact ⟨lead, hlead, .mk hcloses hmore⟩
  · rintro ⟨lead, hlead, h⟩
    cases h with
    | mk hcloses hmore =>
        exact .cons (spells_cons_iff.mpr ⟨lead, hlead, hcloses⟩) hmore

theorem completes_zero_iff : Completes ⟨0, bits, low, high⟩ bytes cs ↔
    ∃ more, cs = Char.ofNat bits :: more ∧ Spelling bytes more := by
  constructor
  · intro h
    cases h with
    | mk hcloses hmore =>
        cases hcloses
        exact ⟨_, rfl, hmore⟩
  · rintro ⟨more, rfl, hmore⟩
    exact .mk (.nil bits low high) hmore

theorem not_completes_nil : ¬ Completes ⟨n + 1, bits, low, high⟩ [] cs := by
  intro h
  generalize hnil : [] = bytes at h
  cases h with
  | mk hcloses _ =>
      cases hcloses
      cases hnil

theorem completes_succ_iff : Completes ⟨n + 1, bits, low, high⟩ (b :: rest) cs ↔
    (low ≤ b.toNat ∧ b.toNat ≤ high) ∧
      Completes ⟨n, bits * 64 + (b.toNat - 0x80), 0x80, 0xbf⟩ rest cs := by
  constructor
  · intro h
    generalize hbytes : b :: rest = bytes at h
    cases h with
    | mk hcloses hmore =>
        cases hcloses with
        | cons hlow hhigh hcloses =>
            cases hbytes
            exact ⟨⟨hlow, hhigh⟩, .mk hcloses hmore⟩
  · rintro ⟨⟨hlow, hhigh⟩, h⟩
    cases h with
    | mk hcloses hmore => exact .mk (.cons hlow hhigh hcloses) hmore

theorem map_cons_eq_ok_iff {c : Char} {r : Except Refusal (List Char)} :
    r.map (c :: ·) = .ok cs ↔ ∃ more, cs = c :: more ∧ r = .ok more := by
  cases r with
  | error refusal => simp [Except.map]
  | ok more => simp [Except.map, eq_comm]

end

/-- From each of its states the decoder accepts what may follow there.  The induction is on the
bytes, with a half for each kind of state. -/
theorem decodeFrom_eq_ok_iff (bytes : List UInt8) :
    (∀ position cs, decodeFrom position none bytes = .ok cs ↔ Spelling bytes cs) ∧
    ∀ position first seen n bits low high cs,
      decodeFrom position (some ⟨first, seen, ⟨n + 1, bits, low, high⟩⟩) bytes = .ok cs ↔
        Completes ⟨n + 1, bits, low, high⟩ bytes cs := by
  induction bytes with
  | nil =>
      constructor
      · intro position cs
        rw [spelling_nil_iff, decodeFrom, Except.ok.injEq, eq_comm]
      · intro position first seen n bits low high cs
        rw [decodeFrom]
        exact ⟨fun h => (by cases h), fun h => absurd h not_completes_nil⟩
  | cons b rest ih =>
      obtain ⟨hbetween, hwithin⟩ := ih
      constructor
      · intro position cs
        rw [decodeFrom, spelling_cons_iff]
        cases hlead : lead? b.toNat with
        | none => simp
        | some lead =>
            obtain ⟨n, bits, low, high⟩ := lead
            simp only [Option.some.injEq, exists_eq_left']
            cases n with
            | zero =>
                rw [if_pos rfl, map_cons_eq_ok_iff, completes_zero_iff]
                simp only [hbetween]
            | succ n => rw [if_neg (Nat.succ_ne_zero n), hwithin]
      · intro position first seen n bits low high cs
        rw [decodeFrom, completes_succ_iff]
        by_cases hbounds : low ≤ b.toNat ∧ b.toNat ≤ high
        · rw [if_pos hbounds]
          simp only [hbounds, and_self, true_and]
          cases n with
          | zero =>
              rw [if_pos rfl, map_cons_eq_ok_iff, completes_zero_iff]
              simp only [hbetween]
          | succ n => exact hwithin _ _ _ _ _ _ _ _
        · rw [if_neg hbounds]
          exact ⟨fun h => (by cases h), fun h => absurd h.1 hbounds⟩

/-- The decoder reads a text if and only if the text is well-formed, and it reads the characters
that are spelled. -/
theorem decode_eq_ok_iff {bytes : List UInt8} {cs : List Char} :
    decode bytes = .ok cs ↔ Spelling bytes cs := (decodeFrom_eq_ok_iff bytes).1 0 cs

/-! ## Encoding -/

theorem ofNat_eq {number : Nat} {b : UInt8} (h : b.toNat = number) : UInt8.ofNat number = b := by
  rw [← h, UInt8.ofNat_toNat]

theorem Spells.eq_encodeChar {bytes : List UInt8} {c : Char} (h : Spells bytes c) :
    bytes = String.utf8EncodeChar c := by
  have hvalid := toNat_valid c
  have hval : c.val.toNat = c.toNat := rfl
  rw [String.utf8EncodeChar, hval]
  rcases spells_iff_forms.mp h with ⟨b, rfl, hb, hnumber⟩ | ⟨b, x, rfl, hb, hx, hleast, hnumber⟩ |
    ⟨b, x, y, rfl, hb, hx, hy, hleast, hnumber⟩ |
    ⟨b, x, y, z, rfl, hb, hx, hy, hz, hleast, hnumber⟩
  · rw [if_pos (by omega)]
    rw [ofNat_eq (b := b) (by omega)]
  · rw [if_neg (by omega), if_pos (by omega)]
    rw [ofNat_eq (b := b) (by omega), ofNat_eq (b := x) (by omega)]
  · rw [if_neg (by omega), if_neg (by omega), if_pos (by omega)]
    rw [ofNat_eq (b := b) (by omega), ofNat_eq (b := x) (by omega), ofNat_eq (b := y) (by omega)]
  · rw [if_neg (by omega), if_neg (by omega), if_neg (by omega)]
    rw [ofNat_eq (b := b) (by omega), ofNat_eq (b := x) (by omega), ofNat_eq (b := y) (by omega),
      ofNat_eq (b := z) (by omega)]

theorem spells_encodeChar (c : Char) : Spells (String.utf8EncodeChar c) c := by
  have hvalid := toNat_valid c
  have hval : c.val.toNat = c.toNat := rfl
  have htoNat {n : Nat} (hn : n < 256) : (UInt8.ofNat n).toNat = n := UInt8.toNat_ofNat_of_lt' hn
  rw [String.utf8EncodeChar, hval, spells_iff_forms]
  split
  · have hb := htoNat (n := c.toNat) (by omega)
    exact .inl ⟨_, rfl, by omega, hb.symm⟩
  · split
    · have hb := htoNat (n := c.toNat / 64 % 32 + 192) (by omega)
      have hx := htoNat (n := c.toNat % 64 + 128) (by omega)
      exact .inr (.inl ⟨_, _, rfl, by omega, by omega, by omega, by omega⟩)
    · split
      · have hb := htoNat (n := c.toNat / 4096 % 16 + 224) (by omega)
        have hx := htoNat (n := c.toNat / 64 % 64 + 128) (by omega)
        have hy := htoNat (n := c.toNat % 64 + 128) (by omega)
        refine .inr (.inr (.inl ⟨_, _, _, rfl, ?_⟩))
        omega
      · have hb := htoNat (n := c.toNat / 262144 % 8 + 240) (by omega)
        have hx := htoNat (n := c.toNat / 4096 % 64 + 128) (by omega)
        have hy := htoNat (n := c.toNat / 64 % 64 + 128) (by omega)
        have hz := htoNat (n := c.toNat % 64 + 128) (by omega)
        refine .inr (.inr (.inr ⟨_, _, _, _, rfl, ?_⟩))
        omega

/-- A character has one spelling, which is the one in which strings keep it. -/
theorem spells_iff {bytes : List UInt8} {c : Char} :
    Spells bytes c ↔ bytes = String.utf8EncodeChar c := by
  constructor
  · exact Spells.eq_encodeChar
  · rintro rfl
    exact spells_encodeChar c

/-- A text has one spelling, and every text has one. -/
theorem spelling_iff {bytes : List UInt8} {cs : List Char} :
    Spelling bytes cs ↔ bytes = cs.flatMap String.utf8EncodeChar := by
  constructor
  · intro h
    induction h with
    | nil => rfl
    | cons hc _ ih => rw [List.flatMap_cons, spells_iff.mp hc, ih]
  · rintro rfl
    induction cs with
    | nil => exact .nil
    | cons c cs ih =>
        rw [List.flatMap_cons]
        exact .cons (spells_encodeChar c) ih

theorem spelling_toUTF8 (s : String) : Spelling s.toUTF8.data.toList s.toList := by
  rw [spelling_iff, String.toUTF8_eq_toByteArray, ← String.utf8Encode_toList, List.utf8Encode,
    List.toList_data_toByteArray]

end TemplateRun.Utf8
