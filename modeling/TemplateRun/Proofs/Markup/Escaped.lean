/-
# `Escaped` — an escaped text has no tag in force

Escaping writes backslashes and nothing else, and only before brackets.  So it changes neither
whether the next bracket is a closing one (`closesFirst_escapeFrom`) nor whether an opening bracket
opens a tag (`opensTag_escapeFrom`): the escaped text has its tokens where the text has them, and
only the tags are others, each with twice the backslashes before it and one
(`tokensFrom_escapeFrom`).  Their number is odd, so every tag is literal (`inert_escapeChars`).

    text run       `run` backslashes are read, and as many are written
    tag run read   the tag that is being read has `run` backslashes before it in the text

The induction is on the text, over both places at once.  Backslashes at the end, of which escaping
adds one where there is a lone one, change nothing.
-/
import TemplateRun.Markup.Escape
import TemplateRun.Markup.Render

namespace TemplateRun.Markup

/-! ## Backslashes -/

theorem closesFirst_backslashes_append (n : Nat) (s : List Char) :
    closesFirst (backslashes n ++ s) = closesFirst s := by
  induction n with
  | zero => rfl
  | succ n ih => exact ih

theorem tokensFrom_backslashes (run n : Nat) (s : List Char) :
    tokensFrom (.text run) (backslashes n ++ s) = tokensFrom (.text (run + n)) s := by
  induction n generalizing run with
  | zero => rfl
  | succ n ih =>
      show tokensFrom (.text run) ('\\' :: (backslashes n ++ s)) = _
      rw [tokensFrom, if_pos rfl, ih, Nat.add_right_comm, Nat.add_assoc]

/-! ## Tags stay where they are -/

theorem closesFirst_escapeFrom (s : List Char) (run last : Nat) :
    closesFirst (escapeFrom run s ++ backslashes last) = closesFirst s := by
  induction s generalizing run with
  | nil =>
      rw [escapeFrom, List.nil_append, ← List.append_nil (backslashes last),
        closesFirst_backslashes_append]
  | cons c rest ih =>
      rw [escapeFrom]
      split
      · next hc =>
          rw [List.cons_append, closesFirst, closesFirst, ih]
      · split
        · next hopen =>
            rw [List.append_assoc, closesFirst_backslashes_append, hopen.1]
            rfl
        · rw [List.cons_append, closesFirst, closesFirst, ih]

theorem opensTag_escapeFrom (s : List Char) (last : Nat) :
    opensTag (escapeFrom 0 s ++ backslashes last) = opensTag s := by
  cases s with
  | nil => cases last <;> rfl
  | cons c rest =>
      rw [escapeFrom]
      split
      · rw [List.cons_append, opensTag, opensTag, closesFirst_escapeFrom]
      · split
        · next hopen =>
            -- neither a bracket nor a backslash can come first in a tag
            rw [hopen.1]
            rfl
        · rw [List.cons_append, opensTag, opensTag, closesFirst_escapeFrom]

theorem closesFirst_append_backslashes (s : List Char) (n : Nat) :
    closesFirst (s ++ backslashes n) = closesFirst s := by
  induction s with
  | nil => rw [List.nil_append, ← List.append_nil (backslashes n), closesFirst_backslashes_append]
  | cons c rest ih => rw [List.cons_append, closesFirst, closesFirst, ih]

theorem opensTag_append_backslashes (s : List Char) (n : Nat) :
    opensTag (s ++ backslashes n) = opensTag s := by
  cases s with
  | nil => cases n <;> rfl
  | cons c rest => rw [List.cons_append, opensTag, opensTag, closesFirst_append_backslashes]

theorem closesFirst_of_opensTag {s : List Char} (h : opensTag s = true) : closesFirst s = true := by
  cases s with
  | nil => exact nomatch h
  | cons c rest =>
      rw [opensTag, Bool.and_eq_true] at h
      rw [closesFirst]
      split
      · rfl
      · split
        · next hc =>
            rw [hc] at h
            exact absurd h.1 (by decide)
        · exact h.2

/-! ## Tags are literal -/

/-- No token is a tag in force. -/
def Inert (ts : List Token) : Prop := ∀ t ∈ ts, t.style? = none

theorem inert_map_char (s : List Char) : Inert (s.map .char) := by
  intro t ht
  obtain ⟨c, -, rfl⟩ := List.mem_map.mp ht
  rfl

theorem Inert.append {ts us : List Token} (h : Inert ts) (h' : Inert us) : Inert (ts ++ us) := by
  intro t ht
  rcases List.mem_append.mp ht with ht | ht
  · exact h t ht
  · exact h' t ht

/-- A token of a text as a token of the escaped text: a tag has twice the backslashes and one. -/
def Token.escaped : Token → Token
  | .tag run body => .tag (run + (run + 1)) body
  | t => t

theorem map_escaped_map_char (s : List Char) :
    (s.map Token.char).map Token.escaped = s.map Token.char := by
  rw [List.map_map]
  rfl

theorem Token.style?_escaped (t : Token) : t.escaped.style? = none := by
  cases t with
  | char c => rfl
  | bracket run => rfl
  | tag run body =>
      have hodd : ¬(run + (run + 1)) % 2 = 0 := by omega
      rw [escaped, style?, if_neg hodd]

/-- The tokens of an escaped text are those of the text, with more backslashes before tags. -/
theorem tokensFrom_escapeFrom (s : List Char) (last : Nat) :
    (∀ run, tokensFrom (.text run) (escapeFrom run s ++ backslashes last) =
        (tokensFrom (.text run) (s ++ backslashes last)).map Token.escaped) ∧
      ∀ run read esc, closesFirst s = true →
        tokensFrom (.tag (run + (run + 1)) read) (escapeFrom esc s ++ backslashes last) =
          (tokensFrom (.tag run read) (s ++ backslashes last)).map Token.escaped := by
  induction s with
  | nil =>
      constructor
      · intro run
        rw [escapeFrom, List.nil_append, ← List.append_nil (backslashes last),
          tokensFrom_backslashes, tokensFrom, map_escaped_map_char]
      · intro run read esc hcloses
        cases hcloses
  | cons c rest ih =>
      obtain ⟨htext, htag⟩ := ih
      have hopens := opensTag_append_backslashes rest last
      constructor
      · intro run
        rw [escapeFrom, List.cons_append]
        split
        · next hc =>
            rw [List.cons_append, tokensFrom, if_pos hc, htext, tokensFrom, if_pos hc]
        · next hc =>
            split
            · next hopen =>
                -- the backslashes behind which the bracket stands are read once more
                obtain ⟨rfl, hopen⟩ := hopen
                rw [List.append_assoc, tokensFrom_backslashes, List.cons_append, tokensFrom,
                  if_neg (by decide), if_pos rfl, opensTag_escapeFrom, if_pos hopen,
                  htag _ [] 0 (closesFirst_of_opensTag hopen), tokensFrom, if_neg (by decide),
                  if_pos rfl, hopens, if_pos hopen]
            · next hopen =>
                rw [List.cons_append, tokensFrom, if_neg hc, tokensFrom, if_neg hc]
                split
                · next hbracket =>
                    have hrest : ¬opensTag rest = true := fun h => hopen ⟨hbracket, h⟩
                    rw [opensTag_escapeFrom, hopens, if_neg hrest, if_neg hrest, htext,
                      List.map_cons]
                    rfl
                · rw [htext, List.map_append, map_escaped_map_char, List.map_cons]
                  rfl
      · intro run read esc hcloses
        rw [closesFirst] at hcloses
        rw [escapeFrom, List.cons_append]
        by_cases hclose : c = ']'
        · subst hclose
          rw [if_neg (by decide), if_neg (by simp), List.cons_append, tokensFrom, if_pos rfl, htext,
            tokensFrom, if_pos rfl, List.map_cons]
          rfl
        · rw [if_neg hclose] at hcloses
          by_cases hbracket : c = '['
          · rw [if_pos hbracket] at hcloses
            cases hcloses
          · rw [if_neg hbracket] at hcloses
            rw [if_neg fun h : c = '[' ∧ _ => hbracket h.1, tokensFrom, if_neg hclose]
            split
            · rw [List.cons_append, tokensFrom, if_neg hclose, htag _ _ _ hcloses]
            · rw [List.cons_append, tokensFrom, if_neg hclose, htag _ _ _ hcloses]

theorem exists_escapeChars_eq (s : List Char) :
    ∃ last, escapeChars s = escapeFrom 0 s ++ backslashes last := by
  rw [escapeChars]
  split
  · exact ⟨1, rfl⟩
  · exact ⟨0, (List.append_nil _).symm⟩

theorem inert_escapeChars (s : List Char) : Inert (tokens (escapeChars s)) := by
  obtain ⟨last, h⟩ := exists_escapeChars_eq s
  rw [tokens, h, (tokensFrom_escapeFrom s last).1]
  intro t ht
  obtain ⟨u, -, rfl⟩ := List.mem_map.mp ht
  exact u.style?_escaped

end TemplateRun.Markup
