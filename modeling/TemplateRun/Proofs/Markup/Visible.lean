/-
# `Visible` — what an escaped text shows

A text that is escaped and then rendered ought to be seen as it is.  It is not always.  Two things
happen to its backslashes:

    \[ where no tag opens     the backslash is lost: escaping leaves it alone, rendering takes it
    \ alone at the end        is seen twice: escaping adds one, and nothing behind it takes it away

`visible` is what is seen, written down without rendering, and `flatMap_shown_escapeChars` says that
it is.  Escaping changes tags only, and an escaped tag shows what it was before
(`shown_escaped_tag`), so of the tokens of a text only brackets that open no tag are seen otherwise.
A text is seen as it is if and only if neither of the two occurs (`visible_eq_self_iff`); they
cannot make up for each other, since what is lost is never at the end.
-/
import TemplateRun.Proofs.Markup.Escaped

namespace TemplateRun.Markup

/-! ## What is lost -/

/-- Whether the text begins with a bracket that opens no tag. -/
def startsStray : List Char → Bool
  | [] => false
  | c :: rest => c = '[' && !opensTag rest

/-- The text without the backslash right before each bracket that opens no tag. -/
def thinned : List Char → List Char
  | [] => []
  | c :: rest => if c = '\\' ∧ startsStray rest then thinned rest else c :: thinned rest

/-- Each bracket with a backslash right before it opens a tag. -/
def NoStray (s : List Char) : Prop :=
  ∀ front rest, s = front ++ '\\' :: '[' :: rest → opensTag rest = true

theorem startsStray_bracket (rest : List Char) : startsStray ('[' :: rest) = !opensTag rest := rfl

theorem startsStray_iff {s : List Char} :
    startsStray s = true ↔ ∃ rest, s = '[' :: rest ∧ opensTag rest = false := by
  cases s with
  | nil => simp [startsStray]
  | cons c rest =>
      rw [startsStray, Bool.and_eq_true, decide_eq_true_iff, Bool.not_eq_true']
      constructor
      · rintro ⟨rfl, h⟩
        exact ⟨rest, rfl, h⟩
      · rintro ⟨_, heq, h⟩
        obtain ⟨rfl, rfl⟩ := List.cons.inj heq
        exact ⟨rfl, h⟩

theorem noStray_cons {c : Char} {rest : List Char} :
    NoStray (c :: rest) ↔ ¬(c = '\\' ∧ startsStray rest = true) ∧ NoStray rest := by
  constructor
  · intro h
    constructor
    · rintro ⟨rfl, hstray⟩
      obtain ⟨rest, rfl, hopens⟩ := startsStray_iff.mp hstray
      rw [h [] rest rfl] at hopens
      cases hopens
    · intro front back hrest
      exact h (c :: front) back (by rw [hrest, List.cons_append])
  · rintro ⟨hhead, htail⟩ front back heq
    cases front with
    | nil =>
        obtain ⟨rfl, rfl⟩ := List.cons.inj heq
        cases hopens : opensTag back with
        | true => rfl
        | false => exact absurd ⟨rfl, startsStray_iff.mpr ⟨back, rfl, hopens⟩⟩ hhead
    | cons d front =>
        rw [List.cons_append] at heq
        exact htail front back (List.cons.inj heq).2

theorem thinned_cons_of_ne {c : Char} (h : c ≠ '\\') (rest : List Char) :
    thinned (c :: rest) = c :: thinned rest := by
  rw [thinned, if_neg fun hc => h hc.1]

/-- Nothing is lost where the next bracket is a closing one. -/
theorem thinned_cons_of_closesFirst (c : Char) {rest : List Char}
    (h : closesFirst rest = true) : thinned (c :: rest) = c :: thinned rest := by
  rw [thinned, if_neg]
  rintro ⟨-, hstray⟩
  obtain ⟨rest, rfl, -⟩ := startsStray_iff.mp hstray
  cases h

theorem thinned_backslashes_append (n : Nat) (s : List Char) :
    thinned (backslashes n ++ s) =
      backslashes (if startsStray s then n - 1 else n) ++ thinned s := by
  induction n with
  | zero => split <;> rfl
  | succ n ih =>
      show thinned ('\\' :: (backslashes n ++ s)) = _
      cases n with
      | zero =>
          show thinned ('\\' :: s) = _
          rw [thinned]
          by_cases h : startsStray s = true
          · rw [if_pos ⟨rfl, h⟩, if_pos h]
            rfl
          · rw [if_neg fun hs => h hs.2, if_neg h]
            rfl
      | succ n =>
          -- a backslash before another one is never lost
          rw [thinned, if_neg (by rintro ⟨-, ⟨⟩⟩), ih]
          split <;> rfl

/-- What is left is the text, if nothing is lost; and nothing that is added at its end makes up for
what is lost. -/
theorem thinned_append_eq_iff (s t : List Char) : thinned s ++ t = s ↔ NoStray s ∧ t = [] := by
  induction s with
  | nil =>
      rw [thinned, List.nil_append]
      refine ⟨fun h => ⟨?_, h⟩, fun h => h.2⟩
      intro front rest heq
      exact absurd heq.symm (List.append_ne_nil_of_right_ne_nil front (List.cons_ne_nil _ _))
  | cons c rest ih =>
      rw [thinned, noStray_cons]
      split
      · next hlost =>
          refine ⟨fun h => ?_, fun h => absurd hlost h.1.1⟩
          -- the first character that is left is the bracket, and the text starts with a backslash
          obtain ⟨rfl, hstray⟩ := hlost
          obtain ⟨rest, rfl, -⟩ := startsStray_iff.mp hstray
          rw [thinned_cons_of_ne (by decide), List.cons_append] at h
          exact absurd (List.cons.inj h).1 (by decide)
      · next hkept =>
          rw [List.cons_append, List.cons_inj_right, ih]
          exact ⟨fun h => ⟨⟨hkept, h.1⟩, h.2⟩, fun h => ⟨h.1.2, h.2⟩⟩

theorem mem_of_mem_thinned {c : Char} {s : List Char} (h : c ∈ thinned s) : c ∈ s := by
  induction s with
  | nil => exact h
  | cons d rest ih =>
      rw [thinned] at h
      split at h
      · exact List.mem_cons_of_mem d (ih h)
      · rcases List.mem_cons.mp h with rfl | h
        · exact List.mem_cons_self
        · exact List.mem_cons_of_mem d (ih h)

/-! ## Backslashes at the end -/

theorem getLast?_escapeFrom (s : List Char) (run : Nat) :
    (escapeFrom run s).getLast? = s.getLast? := by
  induction s generalizing run with
  | nil => rfl
  | cons c rest ih =>
      rw [escapeFrom]
      split
      · rw [List.getLast?_cons, List.getLast?_cons, ih]
      · split
        · rw [List.getLast?_append, List.getLast?_cons, List.getLast?_cons, ih]
          rfl
        · rw [List.getLast?_cons, List.getLast?_cons, ih]

theorem opensTag_append_backslash (s : List Char) : opensTag (s ++ ['\\']) = opensTag s :=
  opensTag_append_backslashes s 1

theorem escapeFrom_append_backslash (s : List Char) (run : Nat) :
    escapeFrom run (s ++ ['\\']) = escapeFrom run s ++ ['\\'] := by
  induction s generalizing run with
  | nil => rfl
  | cons c rest ih =>
      rw [List.cons_append, escapeFrom, escapeFrom, opensTag_append_backslash]
      split
      · rw [ih, List.cons_append]
      · split
        · rw [ih, List.append_assoc, List.cons_append]
        · rw [ih, List.cons_append]

theorem startsStray_append_backslash (s : List Char) :
    startsStray (s ++ ['\\']) = startsStray s := by
  cases s with
  | nil => rfl
  | cons c rest => rw [List.cons_append, startsStray, startsStray, opensTag_append_backslash]

theorem thinned_append_backslash (s : List Char) :
    thinned (s ++ ['\\']) = thinned s ++ ['\\'] := by
  induction s with
  | nil => rfl
  | cons c rest ih =>
      rw [List.cons_append, thinned, thinned, startsStray_append_backslash, ih]
      split
      · rfl
      · rfl

theorem endsInLoneBackslash_escapeFrom (s : List Char) :
    endsInLoneBackslash (escapeFrom 0 s) = endsInLoneBackslash s := by
  rw [endsInLoneBackslash, endsInLoneBackslash, getLast?_escapeFrom]
  by_cases hlast : s.getLast? = some '\\'
  · obtain ⟨front, rfl⟩ := List.getLast?_eq_some_iff.mp hlast
    rw [escapeFrom_append_backslash, List.dropLast_concat, List.dropLast_concat,
      getLast?_escapeFrom]
  · rw [decide_eq_false hlast, Bool.false_and, Bool.false_and]

/-! ## What is seen -/

/-- What is seen of a text that has been escaped. -/
def visible (s : List Char) : List Char :=
  thinned s ++ if endsInLoneBackslash s then ['\\'] else []

theorem flatMap_shown_map_char (s : List Char) : (s.map Token.char).flatMap Token.shown = s := by
  rw [List.flatMap_map]
  exact List.flatMap_singleton' s

/-- An escaped tag shows what it was before: of twice as many backslashes and one, half. -/
theorem shown_escaped_tag (run : Nat) (body : List Char) :
    (Token.tag run body).escaped.shown = backslashes run ++ '[' :: (body ++ [']']) := by
  have hodd : ¬(run + (run + 1)) % 2 = 0 := by omega
  have hhalf : (run + (run + 1)) / 2 = run := by omega
  rw [Token.escaped, Token.shown, if_neg hodd, hhalf]

theorem flatMap_shown_map_escaped (s : List Char) :
    (∀ run, ((tokensFrom (.text run) s).map Token.escaped).flatMap Token.shown =
        thinned (backslashes run ++ s)) ∧
      ∀ run read, closesFirst s = true →
        ((tokensFrom (.tag run read) s).map Token.escaped).flatMap Token.shown =
          backslashes run ++ '[' :: (read.reverse ++ thinned s) := by
  induction s with
  | nil =>
      constructor
      · intro run
        rw [tokensFrom, map_escaped_map_char, flatMap_shown_map_char, thinned_backslashes_append]
        exact (List.append_nil _).symm
      · intro run read hcloses
        cases hcloses
  | cons c rest ih =>
      obtain ⟨htext, htag⟩ := ih
      have hzero : thinned (backslashes 0 ++ rest) = thinned rest := rfl
      constructor
      · intro run
        rw [tokensFrom]
        split
        · next hc =>
            subst hc
            have hrun : backslashes (run + 1) ++ rest = backslashes run ++ '\\' :: rest := by
              rw [backslashes, List.replicate_succ', List.append_assoc]
              rfl
            rw [htext, hrun]
        · next hc =>
            rw [thinned_backslashes_append, thinned_cons_of_ne hc]
            split
            · next hbracket =>
                subst hbracket
                rw [startsStray_bracket]
                split
                · next hopen =>
                    rw [htag _ _ (closesFirst_of_opensTag hopen), hopen]
                    rfl
                · next hopen =>
                    rw [List.map_cons, List.flatMap_cons, htext, hzero, eq_false_of_ne_true hopen]
                    exact List.append_assoc _ _ _
            · next hbracket =>
                have hstray : startsStray (c :: rest) = false := by
                  rw [startsStray, decide_eq_false hbracket]
                  rfl
                rw [List.map_append, List.flatMap_append, map_escaped_map_char,
                  flatMap_shown_map_char, List.map_cons, List.flatMap_cons, htext, hzero, hstray]
                rfl
      · intro run read hcloses
        rw [closesFirst] at hcloses
        rw [tokensFrom]
        by_cases hclose : c = ']'
        · subst hclose
          rw [if_pos rfl, List.map_cons, List.flatMap_cons, shown_escaped_tag, htext, hzero,
            thinned_cons_of_ne (by decide)]
          simp only [List.append_assoc, List.cons_append, List.nil_append]
        · rw [if_neg hclose] at hcloses
          by_cases hbracket : c = '['
          · rw [if_pos hbracket] at hcloses
            cases hcloses
          · rw [if_neg hbracket] at hcloses
            rw [if_neg hclose, htag _ _ hcloses, thinned_cons_of_closesFirst c hcloses,
              List.reverse_cons, List.append_assoc]
            rfl

theorem flatMap_shown_escapeChars (s : List Char) :
    (tokens (escapeChars s)).flatMap Token.shown = visible s := by
  have hshown (last : Nat) : (tokens (escapeFrom 0 s ++ backslashes last)).flatMap Token.shown =
      thinned (s ++ backslashes last) := by
    rw [tokens, (tokensFrom_escapeFrom s last).1, (flatMap_shown_map_escaped _).1]
    rfl
  rw [escapeChars, visible, endsInLoneBackslash_escapeFrom]
  split
  · exact (hshown 1).trans (thinned_append_backslash s)
  · rw [← List.append_nil (escapeFrom 0 s), List.append_nil (thinned s)]
    exact (hshown 0).trans (congrArg thinned (List.append_nil s))

/-- A text is seen as it is unless it loses a backslash before a bracket or gains one at its
end. -/
theorem visible_eq_self_iff (s : List Char) :
    visible s = s ↔ NoStray s ∧ endsInLoneBackslash s = false := by
  rw [visible, thinned_append_eq_iff]
  refine and_congr_right fun _ => ?_
  cases endsInLoneBackslash s with
  | true => simp
  | false => simp

theorem mem_or_eq_of_mem_visible {c : Char} {s : List Char} (h : c ∈ visible s) :
    c ∈ s ∨ c = '\\' := by
  rcases List.mem_append.mp h with h | h
  · exact .inl (mem_of_mem_thinned h)
  · split at h
    · exact .inr (List.mem_singleton.mp h)
    · exact absurd h List.not_mem_nil

end TemplateRun.Markup
