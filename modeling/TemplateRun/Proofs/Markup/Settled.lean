/-
# `Settled` — markup in front of other text

Two things about a text of markup decide whether other text may follow it.  It settles if it closes
all that it opens and asks for nothing that is not there (`settles`).  It may be cut off if it can
be read to its end without knowing what follows (`cuts`): then its tokens, and those of what
follows, are read apart (`tokensFrom_append`).  Both can be computed for the markup of a program.

Tokens that are no tags in force are read without changing what is open or styled
(`readTokens_inert`).
-/
import TemplateRun.Proofs.Markup.Escaped

namespace TemplateRun.Markup

/-! ## Reading tokens -/

theorem readTokens_inert {ts : List Token} (h : Inert ts) (r : Reading) (position : Nat) :
    ∃ length, readTokens r position ts = .ok { r with length := length } := by
  induction ts generalizing r position with
  | nil => exact ⟨r.length, rfl⟩
  | cons t rest ih =>
      obtain ⟨length, hrest⟩ := ih (fun u hu => h u (List.mem_cons_of_mem t hu))
        { r with length := r.length + (Text.traces t.shown).length } (position + t.source.length)
      refine ⟨length, ?_⟩
      rw [readTokens, h t List.mem_cons_self]
      exact hrest

theorem readTokens_append {ts : List Token} {r r' : Reading} {position : Nat}
    (h : readTokens r position ts = .ok r') (us : List Token) :
    ∃ next, readTokens r position (ts ++ us) = readTokens r' next us := by
  induction ts generalizing r position with
  | nil =>
      cases h
      exact ⟨position, rfl⟩
  | cons t rest ih =>
      rw [List.cons_append, readTokens]
      rw [readTokens] at h
      cases hs : t.style? with
      | none =>
          simp only [hs] at h ⊢
          exact ih h
      | some body =>
          simp only [hs] at h ⊢
          generalize Reading.tag _ _ body = q at h ⊢
          cases q with
          | error defect => exact nomatch h
          | ok r => exact ih h

/-! ## Markup that settles -/

/-- Whether a text of markup closes all that it opens, and asks for nothing that is not there. -/
def settles (s : List Char) : Bool :=
  match readTokens .blank 0 (tokens s) with
  | .ok r => r.opened.isEmpty && r.spans.all fun span => (StyledText.numberFault? span).isNone
  | .error _ => false

theorem settles_iff {s : List Char} :
    settles s = true ↔ ∃ r, readTokens .blank 0 (tokens s) = .ok r ∧ r.opened = [] ∧
      ∀ span ∈ r.spans, StyledText.numberFault? span = none := by
  rw [settles]
  cases readTokens .blank 0 (tokens s) with
  | error defect => simp
  | ok r => simp

/-! ## Where a text may be cut -/

/-- Whether a bracket occurs. -/
def holdsBracket : List Char → Bool
  | [] => false
  | c :: rest => c = ']' || c = '[' || holdsBracket rest

/-- Whether a text can be read from a place up to its end without knowing what follows: it ends
neither in a tag nor behind a backslash, and each of its opening brackets has another behind it. -/
def cuts : Place → List Char → Bool
  | .text run, [] => run = 0
  | .tag _ _, [] => false
  | .text run, c :: rest =>
    if c = '\\' then cuts (.text (run + 1)) rest
    else if c = '[' then
      holdsBracket rest && cuts (if opensTag rest then .tag run [] else .text 0) rest
    else cuts (.text 0) rest
  | .tag run read, c :: rest =>
    if c = ']' then cuts (.text 0) rest else cuts (.tag run (c :: read)) rest

theorem closesFirst_append {s : List Char} (h : holdsBracket s = true) (back : List Char) :
    closesFirst (s ++ back) = closesFirst s := by
  induction s with
  | nil => exact nomatch h
  | cons c rest ih =>
      rw [List.cons_append, closesFirst, closesFirst]
      split
      · rfl
      · next hclose =>
          split
          · rfl
          · next hopen =>
              rw [holdsBracket, Bool.or_eq_true, Bool.or_eq_true] at h
              simp only [hclose, hopen, decide_false, Bool.false_eq_true, or_self, false_or] at h
              exact ih h

theorem opensTag_append {s : List Char} (h : holdsBracket s = true) (back : List Char) :
    opensTag (s ++ back) = opensTag s := by
  cases s with
  | nil => exact nomatch h
  | cons c rest =>
      rw [List.cons_append, opensTag, opensTag]
      rw [holdsBracket, Bool.or_eq_true, Bool.or_eq_true, decide_eq_true_iff,
        decide_eq_true_iff] at h
      rcases h with (rfl | rfl) | h
      · rfl
      · rfl
      · rw [closesFirst_append h]

/-- A text that can be cut off has its tokens to itself. -/
theorem tokensFrom_append {front : List Char} {place : Place} (h : cuts place front = true)
    (back : List Char) :
    tokensFrom place (front ++ back) = tokensFrom place front ++ tokens back := by
  induction front generalizing place with
  | nil =>
      cases place with
      | text run =>
          rw [cuts, decide_eq_true_iff] at h
          rw [h]
          rfl
      | tag _ _ => exact nomatch h
  | cons c rest ih =>
      cases place with
      | text run =>
          rw [cuts] at h
          rw [List.cons_append, tokensFrom, tokensFrom]
          split at h
          · next hc =>
              rw [if_pos hc, if_pos hc]
              exact ih h
          · next hc =>
              rw [if_neg hc, if_neg hc]
              split at h
              · next hopen =>
                  -- whether a tag opens is settled by a bracket that is still in front
                  rw [Bool.and_eq_true] at h
                  rw [if_pos hopen, if_pos hopen, opensTag_append h.1]
                  split
                  · next htag =>
                      rw [if_pos htag] at h
                      exact ih h.2
                  · next htag =>
                      rw [if_neg htag] at h
                      rw [ih h.2, List.cons_append]
              · next hopen =>
                  rw [if_neg hopen, if_neg hopen, ih h, List.append_assoc, List.cons_append]
      | tag run read =>
          rw [cuts] at h
          rw [List.cons_append, tokensFrom, tokensFrom]
          split at h
          · next hc => rw [if_pos hc, if_pos hc, ih h, List.cons_append]
          · next hc =>
              rw [if_neg hc, if_neg hc]
              exact ih h

/-! ## Texts without opening brackets -/

theorem tokensFrom_of_noBracket {s : List Char} (h : '[' ∉ s) (run : Nat) :
    tokensFrom (.text run) s = (backslashes run ++ s).map .char := by
  induction s generalizing run with
  | nil => rw [tokensFrom, List.append_nil, Place.held]
  | cons c rest ih =>
      rw [List.mem_cons, not_or] at h
      rw [tokensFrom]
      split
      · next hc =>
          rw [ih h.2, hc, backslashes, backslashes, List.replicate_succ', List.append_assoc]
          rfl
      · rw [if_neg fun hc => h.1 hc.symm, ih h.2, List.map_append, List.map_append]
        rfl

theorem cuts_of_noBracket {s : List Char} (h : '[' ∉ s) {c : Char} (hc : c ≠ '\\' ∧ c ≠ '[')
    (run : Nat) : cuts (.text run) (s ++ [c]) = true := by
  induction s generalizing run with
  | nil =>
      rw [List.nil_append, cuts, if_neg hc.1, if_neg hc.2, cuts]
      rfl
  | cons d rest ih =>
      rw [List.mem_cons, not_or] at h
      rw [List.cons_append, cuts]
      split
      · exact ih h.2 _
      · rw [if_neg fun hd => h.1 hd.symm]
        exact ih h.2 0

theorem tokens_append_of_plain {s : List Char} (h : ∀ c ∈ s, c ≠ '\\' ∧ c ≠ '[')
    (rest : List Char) :
    tokens (s ++ rest) = s.map .char ++ tokens rest := by
  induction s with
  | nil => rfl
  | cons c s ih =>
      obtain ⟨hslash, hbracket⟩ := h c List.mem_cons_self
      have ih := ih fun d hd => h d (List.mem_cons_of_mem c hd)
      rw [tokens] at ih ⊢
      rw [List.cons_append, tokensFrom, if_neg hslash, if_neg hbracket, ih]
      rfl

end TemplateRun.Markup
