/-
# `Refusal` — where bytes that are no text are refused, and why

Bytes that are not well-formed break off at one place: what is before it is well-formed, and there
are bytes there which start with no character (`BreaksAt`).  There is no second such place, since
no character's bytes are the beginning of another's (`Spells.eq_of_append`, `BreaksAt.unique`).

The refusal of the decoder names this place, how many bytes are given up there, and why
(`Pinpoints`).  The reason depends on how the bytes go on, and only on that.

    reason                       the bytes from there on
    unexpected end of data       begin a character, and are over before it is
    invalid start byte           have a first byte that begins no character
    invalid continuation byte    begin a character and then go on otherwise; given up is the
                                 longest part of them that begins one

The decoder knows what may follow from the state that it is in.  `Opens` says of a state which bytes
have led to it: whatever completes them completes the state.
-/
import TemplateRun.Proofs.Encoding.Utf8

namespace TemplateRun.Utf8

/-! ## Beginnings of characters -/

/-- These bytes begin a character, and may be all of it. -/
def Begins (front : List UInt8) : Prop := ∃ more c, Spells (front ++ more) c

/-- These bytes begin a character, and are not all of it. -/
def Unfinished (front : List UInt8) : Prop := ∃ more c, more ≠ [] ∧ Spells (front ++ more) c

/-- There are bytes, and no character is spelled by the first of them. -/
def Stuck (bytes : List UInt8) : Prop :=
  bytes ≠ [] ∧ ∀ front rest c, bytes = front ++ rest → ¬ Spells front c

section
variable {front front' rest rest' : List UInt8} {c c' : Char}

theorem Unfinished.begins (h : Unfinished front) : Begins front := by
  obtain ⟨more, c, -, h⟩ := h
  exact ⟨more, c, h⟩

theorem Begins.of_append (h : Begins (front ++ rest)) : Begins front := by
  obtain ⟨more, c, h⟩ := h
  rw [List.append_assoc] at h
  exact ⟨rest ++ more, c, h⟩

theorem Spells.ne_nil (h : Spells front c) : front ≠ [] := by
  cases h
  exact List.cons_ne_nil _ _

theorem Spells.length_le (h : Spells front c) : front.length ≤ 4 := by
  rcases spells_iff_forms.mp h with ⟨_, rfl, -⟩ | ⟨_, _, rfl, -⟩ | ⟨_, _, _, rfl, -⟩ |
    ⟨_, _, _, _, rfl, -⟩ <;> simp

theorem Closes.length_eq {lead : Lead} {tail : List UInt8} (h : Closes lead tail c) :
    tail.length = lead.tail := by
  induction h with
  | nil => rfl
  | cons _ _ _ ih => rw [List.length_cons, ih]

/-- The first byte of a character tells how many there are, so that no character's bytes are the
beginning of another's. -/
theorem Spells.eq_of_append (h : Spells front c) (h' : Spells front' c')
    (heq : front ++ rest = front' ++ rest') : front = front' := by
  obtain ⟨b, tail, rfl⟩ := List.exists_cons_of_ne_nil h.ne_nil
  obtain ⟨b', tail', rfl⟩ := List.exists_cons_of_ne_nil h'.ne_nil
  obtain ⟨rfl, htail⟩ := List.cons.inj heq
  obtain ⟨lead, hlead, hcloses⟩ := h.closes
  obtain ⟨lead', hlead', hcloses'⟩ := h'.closes
  cases hlead.symm.trans hlead'
  rw [List.append_inj_left htail (hcloses.length_eq.trans hcloses'.length_eq.symm)]

theorem Unfinished.stuck (h : Unfinished front) (hne : front ≠ []) : Stuck front := by
  obtain ⟨more, c, hmore, h⟩ := h
  refine ⟨hne, fun first rest c' hfront hfirst => hmore ?_⟩
  have hwhole : first ++ (rest ++ more) = (front ++ more) ++ [] := by
    rw [hfront, List.append_nil, List.append_assoc]
  have hsame := congrArg List.length (hfirst.eq_of_append h hwhole)
  rw [hfront, List.length_append, List.length_append] at hsame
  exact List.eq_nil_of_length_eq_zero (by omega)

theorem Unfinished.length_le (h : Unfinished front) : front.length ≤ 3 := by
  obtain ⟨more, c, hmore, h⟩ := h
  have hlength := h.length_le
  rw [List.length_append] at hlength
  have hpos := List.length_pos_of_ne_nil hmore
  omega

/-- Bytes that begin a character and go on with one that cannot follow start with no character. -/
theorem Unfinished.stuck_append {x : UInt8} (h : Unfinished front) (hne : front ≠ [])
    (hx : ¬ Begins (front ++ [x])) : Stuck (front ++ x :: rest) := by
  refine ⟨List.append_ne_nil_of_left_ne_nil hne _, fun first after c heq hfirst => ?_⟩
  rcases List.append_eq_append_iff.mp heq with ⟨between, rfl, hrest⟩ | ⟨between, hfront, -⟩
  · cases between with
    | nil =>
        rw [List.append_nil] at hfirst
        exact (h.stuck hne).2 front [] c (List.append_nil _).symm hfirst
    | cons y between =>
        obtain ⟨rfl, -⟩ := List.cons.inj hrest
        refine hx ⟨between, c, ?_⟩
        rwa [List.append_assoc]
  · exact (h.stuck hne).2 first between c hfront hfirst

end

/-! ## Where bytes break off -/

/-- Up to this position the bytes are well-formed, and there they start with no character. -/
def BreaksAt (bytes : List UInt8) (position : Nat) : Prop :=
  (∃ cs, Spelling (bytes.take position) cs) ∧ Stuck (bytes.drop position)

theorem Spelling.of_append {front rest : List UInt8} {cs : List Char} (h : Spelling front cs) :
    ∀ {cs' : List Char}, Spelling (front ++ rest) cs' → ∃ more, Spelling rest more := by
  induction h with
  | nil => exact fun h' => ⟨_, h'⟩
  | @cons first between c cs hfirst _ ih =>
      intro cs' h'
      generalize hbytes : first ++ between ++ rest = bytes at h'
      cases h' with
      | nil =>
          rw [List.append_assoc] at hbytes
          exact absurd (List.append_eq_nil_iff.mp hbytes).1 hfirst.ne_nil
      | cons hfirst' hrest' =>
          rw [List.append_assoc] at hbytes
          obtain rfl := hfirst.eq_of_append hfirst' hbytes
          rw [← List.append_cancel_left hbytes] at hrest'
          exact ih hrest'

section
variable {bytes : List UInt8} {p q : Nat}

theorem BreaksAt.not_lt (h : BreaksAt bytes p) (h' : BreaksAt bytes q) : ¬ p < q := by
  intro hlt
  obtain ⟨⟨cs, hcs⟩, hne, hstuck⟩ := h
  obtain ⟨⟨cs', hcs'⟩, -⟩ := h'
  obtain ⟨n, rfl⟩ := Nat.exists_eq_add_of_lt hlt
  rw [Nat.add_assoc, List.take_add] at hcs'
  obtain ⟨more, hmore⟩ := hcs.of_append hcs'
  -- the bytes between the two places are well-formed, and there is at least one of them
  generalize hbetween : (bytes.drop p).take (n + 1) = between at hmore
  have hparts : between ++ (bytes.drop p).drop (n + 1) = bytes.drop p := by
    rw [← hbetween, List.take_append_drop]
  cases hmore with
  | nil =>
      rcases List.take_eq_nil_iff.mp hbetween with h | h
      · exact absurd h (Nat.succ_ne_zero n)
      · exact hne h
  | cons hfirst _ =>
      rw [List.append_assoc] at hparts
      exact hstuck _ _ _ hparts.symm hfirst

theorem BreaksAt.unique (h : BreaksAt bytes p) (h' : BreaksAt bytes q) : p = q :=
  Nat.le_antisymm (Nat.le_of_not_lt (h'.not_lt h)) (Nat.le_of_not_lt (h.not_lt h'))

end

/-! ## What is said of the bytes there -/

/-- `Refuses bytes first span reason`: what is said of bytes that start with no character. -/
inductive Refuses : List UInt8 → UInt8 → Nat → RefusalReason → Prop
  | startByte {b : UInt8} {rest : List UInt8} :
      ¬ Begins [b] → Refuses (b :: rest) b 1 .startByte
  | continuationByte {b x : UInt8} {begun rest : List UInt8} :
      Unfinished (b :: begun) → ¬ Begins (b :: begun ++ [x]) →
      Refuses (b :: begun ++ x :: rest) b (begun.length + 1) .continuationByte
  | endOfData {b : UInt8} {begun : List UInt8} :
      Unfinished (b :: begun) → Refuses (b :: begun) b (begun.length + 1) .endOfData

section
variable {bytes : List UInt8} {b : UInt8} {span : Nat} {reason : RefusalReason}

theorem Refuses.stuck (h : Refuses bytes b span reason) : Stuck bytes := by
  cases h with
  | @startByte _ rest hb =>
      refine ⟨List.cons_ne_nil _ _, fun front after c heq hfront => hb ?_⟩
      obtain ⟨_, tail, rfl⟩ := List.exists_cons_of_ne_nil hfront.ne_nil
      obtain ⟨rfl, -⟩ := List.cons.inj heq
      exact ⟨tail, c, hfront⟩
  | continuationByte h hx => exact h.stuck_append (List.cons_ne_nil _ _) hx
  | endOfData h => exact h.stuck (List.cons_ne_nil _ _)

theorem Refuses.head? (h : Refuses bytes b span reason) : bytes.head? = some b := by
  cases h <;> rfl

theorem Refuses.span_le (h : Refuses bytes b span reason) :
    (1 ≤ span ∧ span ≤ 3) ∧ span ≤ bytes.length := by
  cases h with
  | startByte _ => simp
  | continuationByte h _ =>
      have hlength := h.length_le
      simp only [List.length_append, List.length_cons] at hlength ⊢
      omega
  | endOfData h =>
      have hlength := h.length_le
      simp only [List.length_cons] at hlength ⊢
      omega

theorem Refuses.reason_iff (h : Refuses bytes b span reason) :
    (reason = .endOfData ↔ Unfinished bytes) ∧ (reason = .startByte ↔ ¬ Begins [b]) ∧
      (reason = .continuationByte ↔ ¬ Unfinished bytes ∧ Begins [b]) := by
  have hfirst {rest : List UInt8} (h : Begins ([b] ++ rest)) : Begins [b] := h.of_append
  cases h with
  | @startByte _ rest hb =>
      have hbytes : ¬ Unfinished (b :: rest) := fun h => hb (hfirst h.begins)
      simp [hb, hbytes]
  | @continuationByte _ x begun rest h hx =>
      have hb := hfirst h.begins
      have hbytes : ¬ Unfinished (b :: begun ++ x :: rest) := by
        intro h
        rw [List.append_cons] at h
        exact hx h.begins.of_append
      rw [List.cons_append] at hbytes
      simp [hb, hbytes]
  | endOfData h =>
      have hb := hfirst h.begins
      simp [h, hb]

theorem Refuses.span_eq (h : Refuses bytes b span reason) :
    (reason = .endOfData → span = bytes.length) ∧ (reason = .startByte → span = 1) ∧
      (reason = .continuationByte → ∀ n, Begins (bytes.take n) ↔ n ≤ span) := by
  cases h with
  | startByte _ => simp
  | endOfData _ => simp
  | @continuationByte _ x begun rest h hx =>
      refine ⟨by simp, by simp, fun _ n => ⟨fun hn => ?_, fun hn => ?_⟩⟩
      · by_contra hlt
        have hmore : (b :: begun ++ [x]).length ≤ n := by
          simp only [List.length_append, List.length_cons, List.length_nil]
          omega
        rw [List.append_cons, List.take_append, List.take_of_length_le hmore] at hn
        exact hx hn.of_append
      · have hbegins := h.begins
        rw [← List.take_append_drop n (b :: begun)] at hbegins
        rw [List.take_append_of_le_length hn]
        exact hbegins.of_append

end

/-! ## States of the decoder -/

/-- `Opens begun lead`: with these bytes the character has begun that the state is in. -/
def Opens (begun : List UInt8) (lead : Lead) : Prop :=
  ∀ tail c, Spells (begun ++ tail) c ↔ Closes lead tail c

section
variable {b : UInt8} {begun : List UInt8} {lead : Lead} {n bits low high : Nat}

theorem opens_of_lead? (h : lead? b.toNat = some lead) : Opens [b] lead := by
  intro tail c
  show Spells (b :: tail) c ↔ _
  simp only [spells_cons_iff, h, Option.some.injEq, exists_eq_left']

theorem not_begins_of_lead? (h : lead? b.toNat = none) : ¬ Begins [b] := by
  rintro ⟨more, c, hspells⟩
  obtain ⟨lead, hlead, -⟩ := Spells.closes hspells
  cases h.symm.trans hlead

theorem bounds_of_lead? (h : lead? b.toNat = some lead) :
    lead.low ≤ lead.high ∧ lead.high < 256 := by
  rcases lead?_eq_some_iff.mp h with ⟨-, rfl⟩ | ⟨-, rfl⟩ | ⟨-, rfl⟩ | ⟨-, rfl⟩ <;> dsimp only
  · omega
  · omega
  · split <;> split <;> omega
  · split <;> split <;> omega

theorem exists_closes : ∀ (n bits low high : Nat), low ≤ high → high < 256 →
    ∃ tail c, Closes ⟨n, bits, low, high⟩ tail c
  | 0, bits, low, high, _, _ => ⟨[], Char.ofNat bits, .nil bits low high⟩
  | n + 1, bits, low, high, hle, hhigh => by
      have hlow : (UInt8.ofNat low).toNat = low :=
        UInt8.toNat_ofNat_of_lt' (Nat.lt_of_le_of_lt hle hhigh)
      obtain ⟨tail, c, h⟩ := exists_closes n (bits * 64 + ((UInt8.ofNat low).toNat - 0x80))
        0x80 0xbf (by decide) (by decide)
      exact ⟨_ :: tail, c, .cons (by omega) (by omega) h⟩

theorem Opens.unfinished (h : Opens begun ⟨n + 1, bits, low, high⟩) (hle : low ≤ high)
    (hhigh : high < 256) : Unfinished begun := by
  obtain ⟨tail, c, hcloses⟩ := exists_closes (n + 1) bits low high hle hhigh
  refine ⟨tail, c, ?_, (h tail c).mpr hcloses⟩
  rintro rfl
  exact absurd hcloses.length_eq (Nat.succ_ne_zero n).symm

theorem Opens.concat (h : Opens begun ⟨n + 1, bits, low, high⟩)
    (hb : low ≤ b.toNat ∧ b.toNat ≤ high) :
    Opens (begun ++ [b]) ⟨n, bits * 64 + (b.toNat - 0x80), 0x80, 0xbf⟩ := by
  intro tail c
  rw [List.append_assoc, List.singleton_append, h, closes_cons_iff]
  constructor
  · rintro ⟨_, _, heq, -, hcloses⟩
    cases heq
    exact hcloses
  · exact fun hcloses => ⟨b, tail, rfl, hb, hcloses⟩

theorem Opens.not_begins (h : Opens begun ⟨n + 1, bits, low, high⟩)
    (hb : ¬ (low ≤ b.toNat ∧ b.toNat ≤ high)) : ¬ Begins (begun ++ [b]) := by
  rintro ⟨more, c, hspells⟩
  rw [List.append_assoc, List.singleton_append, h, closes_cons_iff] at hspells
  obtain ⟨_, _, heq, hb', -⟩ := hspells
  cases heq
  exact hb hb'

theorem Opens.spells (h : Opens begun ⟨0, bits, low, high⟩) : Spells begun (Char.ofNat bits) := by
  have hspells := (h [] _).mpr (.nil bits low high)
  rwa [List.append_nil] at hspells

end

/-! ## Decoding -/

/-- The bytes behind `position` are refused where they break off. -/
def RefusedFrom (position : Nat) (bytes : List UInt8) (r : Refusal) : Prop :=
  ∃ front back cs, bytes = front ++ back ∧ Spelling front cs ∧ r.encoding = "utf-8" ∧
    r.position = position + front.length ∧ Refuses back r.first r.span r.reason

theorem RefusedFrom.behind {position : Nat} {front rest : List UInt8} {r : Refusal} {c : Char}
    (h : RefusedFrom (position + front.length) rest r) (hfront : Spells front c) :
    RefusedFrom position (front ++ rest) r := by
  obtain ⟨between, back, cs, rfl, hcs, hencoding, hposition, hrefuses⟩ := h
  refine ⟨front ++ between, back, c :: cs, (List.append_assoc _ _ _).symm, .cons hfront hcs,
    hencoding, ?_, hrefuses⟩
  rw [hposition, List.length_append, Nat.add_assoc]

theorem refusedFrom_of_refuses {position : Nat} {bytes : List UInt8} {first : UInt8} {span : Nat}
    {reason : RefusalReason} (h : Refuses bytes first span reason) :
    RefusedFrom position bytes ⟨"utf-8", first, position, span, reason⟩ :=
  ⟨[], bytes, [], rfl, .nil, rfl, rfl, h⟩

theorem map_cons_eq_error_iff {c : Char} {r : Refusal} {e : Except Refusal (List Char)} :
    e.map (c :: ·) = .error r ↔ e = .error r := by
  cases e <;> simp [Except.map]

/-- From each of its states the decoder refuses bytes where they break off.  The induction is on the
bytes, with a half for each kind of state; within a character its first bytes count as well. -/
theorem decodeFrom_eq_error (bytes : List UInt8) :
    (∀ position r, decodeFrom position none bytes = .error r → RefusedFrom position bytes r) ∧
    ∀ position b begun n bits low high r, Opens (b :: begun) ⟨n + 1, bits, low, high⟩ →
      low ≤ high → high < 256 →
      decodeFrom (position + (begun.length + 1))
        (some ⟨b, begun.length + 1, ⟨n + 1, bits, low, high⟩⟩) bytes = .error r →
      RefusedFrom position (b :: begun ++ bytes) r := by
  induction bytes with
  | nil =>
      constructor
      · intro position r h
        rw [decodeFrom] at h
        cases h
      · intro position b begun n bits low high r hopens hle hhigh h
        rw [decodeFrom, Begun.refusal, Nat.add_sub_cancel] at h
        cases h
        rw [List.append_nil]
        exact refusedFrom_of_refuses (.endOfData (hopens.unfinished hle hhigh))
  | cons x rest ih =>
      obtain ⟨hbetween, hwithin⟩ := ih
      constructor
      · intro position r h
        rw [decodeFrom] at h
        cases hlead : lead? x.toNat with
        | none =>
            rw [hlead] at h
            cases h
            exact refusedFrom_of_refuses (.startByte (not_begins_of_lead? hlead))
        | some lead =>
            rw [hlead] at h
            have hopens := opens_of_lead? hlead
            have hbounds := bounds_of_lead? hlead
            obtain ⟨n, bits, low, high⟩ := lead
            cases n with
            | zero =>
                dsimp only at h
                rw [if_pos rfl, map_cons_eq_error_iff] at h
                exact (hbetween _ _ h).behind hopens.spells
            | succ n =>
                dsimp only at h
                rw [if_neg (Nat.succ_ne_zero n)] at h
                exact hwithin position x [] n bits low high r hopens hbounds.1 hbounds.2 h
      · intro position b begun n bits low high r hopens hle hhigh h
        rw [decodeFrom] at h
        dsimp only at h
        by_cases hbounds : low ≤ x.toNat ∧ x.toNat ≤ high
        · have hnext := hopens.concat hbounds
          rw [if_pos hbounds] at h
          rw [List.append_cons]
          cases n with
          | zero =>
              rw [if_pos rfl, map_cons_eq_error_iff] at h
              refine RefusedFrom.behind (hbetween _ _ ?_) hnext.spells
              simpa [Nat.add_assoc] using h
          | succ n =>
              rw [if_neg (by omega)] at h
              refine hwithin position b (begun ++ [x]) n _ _ _ r hnext (by decide) (by decide) ?_
              simpa [Nat.add_assoc] using h
        · rw [if_neg hbounds, Begun.refusal, Nat.add_sub_cancel] at h
          cases h
          exact refusedFrom_of_refuses
            (.continuationByte (hopens.unfinished hle hhigh) (hopens.not_begins hbounds))

/-- `Pinpoints bytes r`: the refusal names the place where the bytes break off, how many are given
up there, and why. -/
structure Pinpoints (bytes : List UInt8) (r : Refusal) : Prop where
  encoding : r.encoding = "utf-8"
  /-- Before the position all is well-formed, and there no character is spelled. -/
  breaks : BreaksAt bytes r.position
  /-- This is so at no other position. -/
  unique : ∀ p, BreaksAt bytes p → p = r.position
  first : (bytes.drop r.position).head? = some r.first
  within : r.position + r.span ≤ bytes.length
  span : 1 ≤ r.span ∧ r.span ≤ 3
  /-- The bytes are over before the character is, and then all that there are of it are given up. -/
  endOfData : r.reason = .endOfData ↔ Unfinished (bytes.drop r.position)
  endSpan : r.reason = .endOfData → r.span = (bytes.drop r.position).length
  /-- The first byte begins no character, and then it alone is given up. -/
  startByte : r.reason = .startByte ↔ ¬ Begins [r.first]
  startSpan : r.reason = .startByte → r.span = 1
  /-- In all other cases as many bytes are given up as still begin a character. -/
  continuationByte : r.reason = .continuationByte ↔
    ¬ Unfinished (bytes.drop r.position) ∧ Begins [r.first]
  longest : r.reason = .continuationByte →
    ∀ n, Begins ((bytes.drop r.position).take n) ↔ n ≤ r.span

theorem RefusedFrom.pinpoints {bytes : List UInt8} {r : Refusal} (h : RefusedFrom 0 bytes r) :
    Pinpoints bytes r := by
  obtain ⟨front, back, cs, rfl, hcs, hencoding, hposition, hrefuses⟩ := h
  rw [Nat.zero_add] at hposition
  have htake : (front ++ back).take r.position = front := List.take_left' hposition.symm
  have hdrop : (front ++ back).drop r.position = back := List.drop_left' hposition.symm
  have hbreaks : BreaksAt (front ++ back) r.position := by
    refine ⟨⟨cs, ?_⟩, ?_⟩
    · rwa [htake]
    · rw [hdrop]
      exact hrefuses.stuck
  obtain ⟨hspan, hlength⟩ := hrefuses.span_le
  obtain ⟨hend, hstart, hcontinuation⟩ := hrefuses.reason_iff
  obtain ⟨hendSpan, hstartSpan, hlongest⟩ := hrefuses.span_eq
  rw [← hdrop] at hend hcontinuation hendSpan hlongest
  refine ⟨hencoding, hbreaks, fun p hp => hp.unique hbreaks, ?_, ?_, hspan, hend, hendSpan, hstart,
    hstartSpan, hcontinuation, hlongest⟩
  · rw [hdrop, hrefuses.head?]
  · rw [List.length_append, hposition]
    omega

/-- Bytes that are not well-formed are refused, and at the right place. -/
theorem exists_refusal {bytes : List UInt8} (h : ¬ ∃ cs, Spelling bytes cs) :
    ∃ r, decode bytes = .error r ∧ Pinpoints bytes r := by
  cases hdecode : decode bytes with
  | ok cs => exact absurd ⟨cs, decode_eq_ok_iff.mp hdecode⟩ h
  | error r => exact ⟨r, rfl, ((decodeFrom_eq_error bytes).1 0 r hdecode).pinpoints⟩

end TemplateRun.Utf8
