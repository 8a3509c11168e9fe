/-
# `Quoted` — quoted text is one line and gives the text away

A quoted text holds printable characters only (`isPrintable_of_mem_encode`), and it shows by itself
where it ends: whatever is written behind it, what was quoted and what follows can be told apart.
That is `SelfDelimiting`, and it is what makes a line of quoted texts readable, since the signs that
stand between them may occur in the texts too.

    element     a character inside the delimiters: `readElement` reads it back
    encode      a text: the first character says which delimiter closes it
    intercalate self-delimiting texts with a sign between each two, up to one that begins none

A character of a text is read back without knowing the delimiter.  No code of a character begins
with the delimiter, so the first character that looks like the delimiter is the delimiter.
-/
import TemplateRun.Proofs.Text.Intercalation
import TemplateRun.Text.Quoted

namespace TemplateRun.Text

/-! ## Texts that show where they end -/

/-- What is written and what follows it can be told apart. -/
def SelfDelimiting {α : Type} (write : α → List Char) : Prop :=
  ∀ a b rest rest', write a ++ rest = write b ++ rest' → a = b ∧ rest = rest'

/-- Nothing that is written begins with this character, and something is written. -/
def Avoids {α : Type} (write : α → List Char) (stop : Char) : Prop :=
  ∀ a, ∃ c cs, write a = c :: cs ∧ c ≠ stop

theorem Avoids.append_ne {α : Type} {write : α → List Char} {stop : Char} (h : Avoids write stop)
    (a : α) (rest rest' : List Char) : write a ++ rest ≠ stop :: rest' := by
  obtain ⟨c, cs, ha, hne⟩ := h a
  intro heq
  rw [ha] at heq
  exact hne (List.cons.inj heq).1

namespace SelfDelimiting

variable {α β : Type} {write : α → List Char} {other : β → List Char}

theorem of_read (read : List Char → Option (α × List Char))
    (h : ∀ a rest, read (write a ++ rest) = some (a, rest)) : SelfDelimiting write := by
  intro a b rest rest' heq
  have hread := h a rest
  rw [heq, h b rest', Option.some.injEq, Prod.mk.injEq] at hread
  exact ⟨hread.1.symm, hread.2.symm⟩

theorem comp {f : β → α} (h : SelfDelimiting write) (hf : ∀ a b, f a = f b → a = b) :
    SelfDelimiting fun b => write (f b) := by
  intro a b rest rest' heq
  obtain ⟨hwritten, hrest⟩ := h _ _ _ _ heq
  exact ⟨hf a b hwritten, hrest⟩

/-- One behind the other, with a sign between them. -/
theorem pair (h : SelfDelimiting write) (h' : SelfDelimiting other) (sign : List Char) :
    SelfDelimiting fun p : α × β => write p.1 ++ (sign ++ other p.2) := by
  rintro ⟨a, b⟩ ⟨a', b'⟩ rest rest' heq
  rw [List.append_assoc, List.append_assoc, List.append_assoc, List.append_assoc] at heq
  obtain ⟨ha, heq⟩ := h _ _ _ _ heq
  obtain ⟨hb, hrest⟩ := h' _ _ _ _ (List.append_cancel_left heq)
  exact ⟨Prod.ext ha hb, hrest⟩

section
variable {stop : Char} {rest rest' : List Char}

/-- One behind the other, up to a character that none begins with. -/
theorem flatMap (h : SelfDelimiting write) (hstop : Avoids write stop) {as bs : List α}
    (heq : as.flatMap write ++ stop :: rest = bs.flatMap write ++ stop :: rest') :
    as = bs ∧ rest = rest' := by
  induction as generalizing bs with
  | nil =>
      cases bs with
      | nil => exact ⟨rfl, (List.cons.inj heq).2⟩
      | cons b bs =>
          rw [List.flatMap_cons, List.append_assoc] at heq
          exact absurd heq.symm (hstop.append_ne b _ _)
  | cons a as ih =>
      cases bs with
      | nil =>
          rw [List.flatMap_cons, List.append_assoc] at heq
          exact absurd heq (hstop.append_ne a _ _)
      | cons b bs =>
          rw [List.flatMap_cons, List.flatMap_cons, List.append_assoc, List.append_assoc] at heq
          obtain ⟨hab, heq⟩ := h _ _ _ _ heq
          obtain ⟨has, hrest⟩ := ih heq
          exact ⟨by rw [hab, has], hrest⟩

/-- The same with a sign between each two, which does not begin with that character. -/
theorem intercalate (h : SelfDelimiting write) (hstop : Avoids write stop) {first : Char}
    (hfirst : first ≠ stop) (sign : List Char) {as bs : List α}
    (heq : (first :: sign).intercalate (as.map write) ++ stop :: rest =
      (first :: sign).intercalate (bs.map write) ++ stop :: rest') :
    as = bs ∧ rest = rest' := by
  -- the first stands for itself, and each of the others has the sign in front of it
  have hcons (a : α) (as : List α) (rest : List Char) :
      (first :: sign).intercalate ((a :: as).map write) ++ rest =
        write a ++ (as.flatMap (fun a => first :: (sign ++ write a)) ++ rest) := by
    rw [List.map_cons, intercalate_cons, List.flatMap_map, List.append_assoc]
    rfl
  have hother : SelfDelimiting fun a => first :: (sign ++ write a) := by
    intro a b rest rest' hab
    rw [List.cons_append, List.cons_append, List.append_assoc, List.append_assoc] at hab
    exact h _ _ _ _ (List.append_cancel_left (List.cons.inj hab).2)
  have havoids : Avoids (fun a => first :: (sign ++ write a)) stop :=
    fun a => ⟨first, sign ++ write a, rfl, hfirst⟩
  cases as with
  | nil =>
      cases bs with
      | nil => exact ⟨rfl, (List.cons.inj heq).2⟩
      | cons b bs =>
          rw [hcons] at heq
          exact absurd heq.symm (hstop.append_ne b _ _)
  | cons a as =>
      cases bs with
      | nil =>
          rw [hcons] at heq
          exact absurd heq (hstop.append_ne a _ _)
      | cons b bs =>
          rw [hcons, hcons] at heq
          obtain ⟨hab, heq⟩ := h _ _ _ _ heq
          obtain ⟨has, hrest⟩ := hother.flatMap havoids heq
          exact ⟨by rw [hab, has], hrest⟩

end

end SelfDelimiting

/-! ## Digits -/

theorem hexValue?_hexDigit : ∀ d < 16, hexValue? (hexDigit d) = some d := by decide

theorem length_hex (width n : Nat) : (hex width n).length = width := by
  induction width generalizing n with
  | zero => rfl
  | succ width ih => rw [hex, List.length_append, ih]; rfl

theorem numeralIn_append (base : Nat) (digits : List Char) (c : Char) :
    numeralIn base (digits ++ [c]) = numeralIn base digits * base + (hexValue? c).getD 0 := by
  rw [numeralIn, List.foldl_append]
  rfl

theorem numeralIn_hex (width n : Nat) (h : n < Nat.pow 16 width) :
    numeralIn 16 (hex width n) = n := by
  induction width generalizing n with
  | zero =>
      obtain rfl : n = 0 := Nat.lt_one_iff.mp h
      rfl
  | succ width ih =>
      have hdiv : n / 16 < Nat.pow 16 width := Nat.div_lt_of_lt_mul (by rw [Nat.mul_comm]; exact h)
      rw [hex, numeralIn_append, ih (n / 16) hdiv,
        hexValue?_hexDigit (n % 16) (Nat.mod_lt n (by decide)), Option.getD_some]
      omega

/-! ## Characters -/

namespace Quoted

/-- How many digits stand behind a mark, if it is one for a code point. -/
def widthOf? (mark : Char) : Option Nat :=
  if mark = 'x' then some 2 else if mark = 'u' then some 4 else if mark = 'U' then some 8 else none

/-- The character that a mark stands for by itself. -/
def ofMark (mark : Char) : Char :=
  if mark = 'n' then '\n' else if mark = 'r' then '\r' else if mark = 't' then '\t' else mark

/-- The character that a mark and what follows it stand for, and what is left. -/
def readEscape (mark : Char) (rest : List Char) : Char × List Char :=
  match widthOf? mark with
  | some width => (Char.ofNat (numeralIn 16 (rest.take width)), rest.drop width)
  | none => (ofMark mark, rest)

/-- The character whose code a text begins with, and what is left. -/
def readElement : List Char → Option (Char × List Char)
  | [] => none
  | c :: rest =>
    if c = '\\' then rest.head?.map fun mark => readEscape mark rest.tail else some (c, rest)

theorem readElement_escape (mark : Char) (rest : List Char) :
    readElement ('\\' :: mark :: rest) = some (readEscape mark rest) := rfl

theorem readElement_of_ne {c : Char} (h : c ≠ '\\') (rest : List Char) :
    readElement (c :: rest) = some (c, rest) := if_neg h

theorem readElement_hex {mark : Char} {width : Nat} (hmark : widthOf? mark = some width) {c : Char}
    (hc : c.toNat < Nat.pow 16 width) (rest : List Char) :
    readElement ('\\' :: mark :: (hex width c.toNat ++ rest)) = some (c, rest) := by
  rw [readElement_escape, readEscape, hmark]
  dsimp only
  rw [List.take_left' (length_hex width c.toNat), List.drop_left' (length_hex width c.toNat),
    numeralIn_hex width c.toNat hc, Char.ofNat_toNat]

theorem readElement_codePoint (c : Char) (rest : List Char) :
    readElement (codePoint c ++ rest) = some (c, rest) := by
  have hmax : c.toNat < Nat.pow 16 8 := c.val.toNat_lt
  unfold codePoint
  dsimp only
  split
  · next h => exact readElement_hex rfl h rest
  · split
    · next h => exact readElement_hex rfl h rest
    · exact readElement_hex rfl hmax rest

def IsDelimiter (q : Char) : Prop := q = '\'' ∨ q = '"'

theorem isDelimiter_delimiter (s : List Char) : IsDelimiter (delimiter s) := by
  rw [delimiter]
  split
  · exact .inr rfl
  · exact .inl rfl

theorem readElement_element {q : Char} (hq : IsDelimiter q) (c : Char) (rest : List Char) :
    readElement (element q c ++ rest) = some (c, rest) := by
  rw [element]
  split
  · next h =>
      rcases h with rfl | rfl
      · rcases hq with rfl | rfl <;> rfl
      · rfl
  · next h =>
      split
      · next hc => rw [hc]; rfl
      · split
        · next hc => rw [hc]; rfl
        · split
          · next hc => rw [hc]; rfl
          · split
            · exact readElement_of_ne (fun hc => h (.inr hc)) rest
            · exact readElement_codePoint c rest

/-! ## What a code looks like -/

theorem isPrintable_hexDigit : ∀ d < 16, isPrintable (hexDigit d) = true := by decide +kernel

theorem isPrintable_of_mem_hex {width n : Nat} {c : Char} (h : c ∈ hex width n) :
    isPrintable c = true := by
  induction width generalizing n with
  | zero => exact absurd h List.not_mem_nil
  | succ width ih =>
      rcases List.mem_append.mp h with h | h
      · exact ih h
      · rw [List.mem_singleton.mp h]
        exact isPrintable_hexDigit _ (Nat.mod_lt n (by decide))

/-- A code is printable, and a backslash comes first in it. -/
def IsCode (code : List Char) : Prop :=
  ∃ mark digits, code = '\\' :: mark :: digits ∧ ∀ c ∈ mark :: digits, isPrintable c = true

theorem isCode_pair {mark : Char} (h : isPrintable mark = true) : IsCode ['\\', mark] :=
  ⟨mark, [], rfl, fun _ hc => List.mem_singleton.mp hc ▸ h⟩

theorem isCode_hex {mark : Char} (h : isPrintable mark = true) (width n : Nat) :
    IsCode ('\\' :: mark :: hex width n) :=
  ⟨mark, _, rfl, List.forall_mem_cons.mpr ⟨h, fun _ => isPrintable_of_mem_hex⟩⟩

theorem isCode_codePoint (c : Char) : IsCode (codePoint c) := by
  unfold codePoint
  dsimp only
  split
  · exact isCode_hex (by decide) 2 _
  · split
    · exact isCode_hex (by decide) 4 _
    · exact isCode_hex (by decide) 8 _

/-- A character stands for itself, if it is printable and no delimiter, or there is a code. -/
theorem element_cases {q : Char} (hq : IsDelimiter q) (c : Char) :
    (element q c = [c] ∧ c ≠ q ∧ isPrintable c = true) ∨ IsCode (element q c) := by
  rw [element]
  split
  · next h =>
      refine .inr (isCode_pair ?_)
      rcases h with rfl | rfl
      · rcases hq with rfl | rfl <;> decide
      · decide
  · next h =>
      split
      · exact .inr (isCode_pair (by decide))
      · split
        · exact .inr (isCode_pair (by decide))
        · split
          · exact .inr (isCode_pair (by decide))
          · split
            · next hc => exact .inl ⟨rfl, fun heq => h (.inl heq), hc⟩
            · exact .inr (isCode_codePoint c)

theorem avoids_element {q : Char} (hq : IsDelimiter q) : Avoids (element q) q := by
  intro c
  rcases element_cases hq c with ⟨h, hne, -⟩ | ⟨mark, digits, h, -⟩
  · exact ⟨c, [], h, hne⟩
  · refine ⟨'\\', mark :: digits, h, ?_⟩
    rcases hq with rfl | rfl <;> decide

theorem isPrintable_of_mem_element {q c d : Char} (hq : IsDelimiter q) (h : d ∈ element q c) :
    isPrintable d = true := by
  rcases element_cases hq c with ⟨heq, -, hc⟩ | ⟨mark, digits, heq, hdigits⟩
  · rw [heq] at h
    rw [List.mem_singleton.mp h, hc]
  · rw [heq] at h
    rcases List.mem_cons.mp h with rfl | h
    · decide
    · exact hdigits d h

/-! ## Texts -/

/-- A quoted text gives the text away, whatever follows it. -/
theorem selfDelimiting_encode : SelfDelimiting encode := by
  intro s t rest rest' heq
  rw [encode, encode, List.cons_append, List.cons_append, List.append_assoc,
    List.append_assoc] at heq
  obtain ⟨hq, heq⟩ := List.cons.inj heq
  rw [← hq] at heq
  have hdelimiter := isDelimiter_delimiter s
  exact (SelfDelimiting.of_read readElement (readElement_element hdelimiter)).flatMap
    (avoids_element hdelimiter) heq

theorem avoids_encode {stop : Char} (h : ¬IsDelimiter stop) : Avoids encode stop := fun s =>
  ⟨delimiter s, _, rfl, fun hq => h (hq ▸ isDelimiter_delimiter s)⟩

theorem isPrintable_of_mem_encode {s : List Char} {c : Char} (h : c ∈ encode s) :
    isPrintable c = true := by
  have hdelimiter := isDelimiter_delimiter s
  have hq : isPrintable (delimiter s) = true := by
    rcases hdelimiter with hq | hq
    · rw [hq]; decide
    · rw [hq]; decide
  rcases List.mem_cons.mp h with rfl | h
  · exact hq
  · rcases List.mem_append.mp h with h | h
    · obtain ⟨d, -, hd⟩ := List.mem_flatMap.mp h
      exact isPrintable_of_mem_element hdelimiter hd
    · rw [List.mem_singleton.mp h]
      exact hq

end Quoted

end TemplateRun.Text
