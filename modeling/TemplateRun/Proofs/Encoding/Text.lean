/-
# `Text` — which bytes have a text, and which text it is

Each encoding gives characters, and the text of a file is these with their line ends made alike.
`Folds` says what that is without a word on how it is done: a carriage return and the line feed
behind it become one line feed, a carriage return with no line feed behind it becomes one too, and
everything else stays.  So no carriage return is left, and characters among which there is none are
their own text.

    encoding        bytes that have a text      its characters
    UTF-8           the spellings               those that are spelled
    with a mark     the mark and a spelling     those that are spelled behind the mark
    ASCII           all below 0x80              the same as in UTF-8
    Latin-1         all                         one for each byte, with the number of the byte
-/
import TemplateRun.Encoding.Basic
import TemplateRun.Proofs.Encoding.Utf8

namespace TemplateRun.Encoding

/-! ## Line ends -/

/-- `Folds cs folded`: the second text is the first with every line end a line feed. -/
inductive Folds : List Char → List Char → Prop
  | nil : Folds [] []
  | pair {cs folded : List Char} : Folds cs folded → Folds ('\r' :: '\n' :: cs) ('\n' :: folded)
  | lone {cs folded : List Char} :
      cs.head? ≠ some '\n' → Folds cs folded → Folds ('\r' :: cs) ('\n' :: folded)
  | other {c : Char} {cs folded : List Char} :
      c ≠ '\r' → Folds cs folded → Folds (c :: cs) (c :: folded)

section
variable {cs folded : List Char}

theorem folds_foldLineEnds (cs : List Char) : Folds cs (foldLineEnds cs) := by
  fun_induction foldLineEnds cs with
  | case1 => exact .nil
  | case2 rest ih => exact .pair ih
  | case3 c rest hpair ih =>
      by_cases hc : c = '\r'
      · rw [if_pos hc, hc]
        refine .lone (fun hhead => ?_) ih
        obtain ⟨more, hmore⟩ := List.head?_eq_some_iff.mp hhead
        exact hpair more hc hmore
      · rw [if_neg hc]
        exact .other hc ih

theorem Folds.eq_foldLineEnds (h : Folds cs folded) : folded = foldLineEnds cs := by
  induction h with
  | nil => rfl
  | pair _ ih => rw [foldLineEnds, ih]
  | @lone cs _ hhead _ ih =>
      rw [foldLineEnds, if_pos rfl, ih]
      rintro rest - rfl
      exact hhead rfl
  | other hc _ ih =>
      rw [foldLineEnds, if_neg hc, ih]
      exact fun _ hreturn _ => hc hreturn

theorem folds_iff : Folds cs folded ↔ folded = foldLineEnds cs := by
  constructor
  · exact Folds.eq_foldLineEnds
  · rintro rfl
    exact folds_foldLineEnds cs

theorem Folds.return_not_mem (h : Folds cs folded) : '\r' ∉ folded := by
  induction h with
  | nil => exact List.not_mem_nil
  | pair _ ih => simp [ih]
  | lone _ _ ih => simp [ih]
  | other hc _ ih => simp [ih, Ne.symm hc]

theorem folds_self (h : '\r' ∉ cs) : Folds cs cs := by
  induction cs with
  | nil => exact .nil
  | cons c cs ih =>
      rw [List.mem_cons, not_or] at h
      exact .other (Ne.symm h.1) (ih h.2)

end

theorem text_eq_ok_iff {encoding : Encoding} {bytes : List UInt8} {s : String} :
    encoding.text bytes = .ok s ↔ ∃ cs, encoding.decode bytes = .ok cs ∧ Folds cs s.toList := by
  rw [text]
  cases encoding.decode bytes with
  | error refusal => simp [Except.map]
  | ok cs => simp [Except.map, folds_iff, String.ext_iff, eq_comm]

/-! ## Byte for byte -/

section
variable {bytes : List UInt8} {cs : List Char}

def charactersOf (bytes : List UInt8) : List Char := bytes.map fun b => Char.ofNat b.toNat

theorem map_toNat_charactersOf (bytes : List UInt8) :
    (charactersOf bytes).map Char.toNat = bytes.map UInt8.toNat := by
  rw [charactersOf, List.map_map]
  refine List.map_congr_left fun b _ => ?_
  have hb := b.toNat_lt
  exact Utf8.toNat_ofNat (.inl (by omega))

theorem spelling_charactersOf (h : ∀ b ∈ bytes, b.toNat < 0x80) :
    Utf8.Spelling bytes (charactersOf bytes) := by
  induction bytes with
  | nil => exact .nil
  | cons b rest ih =>
      have hb := h b List.mem_cons_self
      have hspells : Utf8.Spells [b] (Char.ofNat b.toNat) :=
        Utf8.spells_iff_forms.mpr (.inl ⟨b, rfl, hb, Utf8.toNat_ofNat (.inl (by omega))⟩)
      exact .cons hspells (ih fun b' hb' => h b' (List.mem_cons_of_mem b hb'))

theorem decodeAsciiFrom_eq_ok_iff {position : Nat} :
    decodeAsciiFrom position bytes = .ok cs ↔
      (∀ b ∈ bytes, b.toNat < 0x80) ∧ cs = charactersOf bytes := by
  induction bytes generalizing position cs with
  | nil => simp [decodeAsciiFrom, charactersOf, eq_comm]
  | cons b rest ih =>
      rw [decodeAsciiFrom, List.forall_mem_cons]
      by_cases hb : b.toNat < 0x80
      · rw [if_pos hb, Utf8.map_cons_eq_ok_iff]
        simp only [ih, hb, true_and]
        constructor
        · rintro ⟨more, rfl, hrest, rfl⟩
          exact ⟨hrest, rfl⟩
        · rintro ⟨hrest, rfl⟩
          exact ⟨_, rfl, hrest, rfl⟩
      · rw [if_neg hb]
        exact ⟨fun h => (by cases h), fun h => absurd h.1.1 hb⟩

/-- ASCII is UTF-8 with nothing in it but bytes below 0x80. -/
theorem decode_ascii (h : ∀ b ∈ bytes, b.toNat < 0x80) :
    ascii.decode bytes = utf8.decode bytes := by
  have hascii : ascii.decode bytes = .ok (charactersOf bytes) :=
    decodeAsciiFrom_eq_ok_iff.mpr ⟨h, rfl⟩
  have hutf8 : utf8.decode bytes = .ok (charactersOf bytes) :=
    Utf8.decode_eq_ok_iff.mpr (spelling_charactersOf h)
  rw [hascii, hutf8]

end

/-! ## The byte order mark -/

theorem unsigned_signature_append (bytes : List UInt8) : unsigned (signature ++ bytes) = bytes := by
  have hprefix : signature.isPrefixOf (signature ++ bytes) = true :=
    List.isPrefixOf_iff_prefix.mpr (List.prefix_append signature bytes)
  rw [unsigned, if_pos hprefix]
  exact List.drop_left' rfl

theorem decode_signature_append (bytes : List UInt8) :
    utf8Signed.decode (signature ++ bytes) = utf8.decode bytes :=
  congrArg Utf8.decode (unsigned_signature_append bytes)

end TemplateRun.Encoding
