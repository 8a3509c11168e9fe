/-
# `Order` — paths are ordered by their segments

`Path.atMost` compares lists of texts, the slashes in front among them.  That is the
lexicographic order of those lists (`partsAtMost_iff`), so it is total and transitive, and a list
of paths can be sorted by it.  Among the paths below one root the slashes make no difference, and
only the segments behind the root are compared (`atMost_below_iff`).

    Comes       p stands before q: the segments of p come first in lexicographic order

Sorting distinct paths below one root leaves each of them standing before those that follow
(`pairwise_comes_mergeSort`).  The paths below one directory stand together then: what stands
between two of them is below it as well (`exists_below_of_comes`).
-/
import TemplateRun.Path

namespace TemplateRun.Path

/-! ## The lexicographic order -/

/-- Lists of texts are compared text by text, and texts character by character. -/
def TextsLex : List String → List String → Prop := List.Lex fun a b => a < b

theorem partsAtMost_iff : ∀ {as bs : List String},
    partsAtMost as bs = true ↔ as = bs ∨ TextsLex as bs
  | [], [] => by simp [partsAtMost]
  | [], b :: bs => by simp [partsAtMost, TextsLex]
  | a :: as, [] => by simp [partsAtMost, TextsLex]
  | a :: as, b :: bs => by
      rw [TextsLex, List.cons_lex_cons_iff, List.cons.injEq, partsAtMost]
      by_cases hab : a = b
      · subst hab
        rw [if_pos rfl, partsAtMost_iff]
        constructor
        · rintro (rfl | h)
          · exact .inl ⟨rfl, rfl⟩
          · exact .inr (.inr ⟨rfl, h⟩)
        · rintro (⟨-, rfl⟩ | h | ⟨-, h⟩)
          · exact .inl rfl
          · exact absurd h Std.lt_irrefl
          · exact .inr h
      · rw [if_neg hab, decide_eq_true_iff]
        constructor
        · intro h
          exact .inr (.inl h)
        · rintro (⟨h, -⟩ | h | ⟨h, -⟩)
          · exact absurd h hab
          · exact h
          · exact absurd h hab

theorem textsLex_irrefl (as : List String) : ¬ TextsLex as as :=
  List.lex_irrefl (fun _ => Std.lt_irrefl) as

theorem textsLex_trans {as bs cs : List String} (h : TextsLex as bs) (h' : TextsLex bs cs) :
    TextsLex as cs :=
  List.lex_trans (fun h h' => Std.lt_trans h h') h h'

theorem textsLex_append (front : List String) {as bs : List String} :
    TextsLex (front ++ as) (front ++ bs) ↔ TextsLex as bs := by
  induction front with
  | nil => rfl
  | cons a front ih =>
      rw [← ih, TextsLex, List.cons_append, List.cons_append, List.cons_lex_cons_iff]
      constructor
      · rintro (h | ⟨-, h⟩)
        · exact absurd h Std.lt_irrefl
        · exact h
      · intro h
        exact .inr ⟨rfl, h⟩

theorem partsAtMost_trans {as bs cs : List String} (h : partsAtMost as bs = true)
    (h' : partsAtMost bs cs = true) : partsAtMost as cs = true := by
  rcases partsAtMost_iff.mp h with rfl | h
  · exact h'
  · rcases partsAtMost_iff.mp h' with rfl | h'
    · exact partsAtMost_iff.mpr (.inr h)
    · exact partsAtMost_iff.mpr (.inr (textsLex_trans h h'))

theorem partsAtMost_total : ∀ as bs : List String,
    partsAtMost as bs = true ∨ partsAtMost bs as = true
  | [], _ => .inl (by rw [partsAtMost])
  | _ :: _, [] => .inr (by rw [partsAtMost])
  | a :: as, b :: bs => by
      rw [partsAtMost, partsAtMost]
      by_cases hab : a = b
      · rw [if_pos hab, if_pos hab.symm]
        exact partsAtMost_total as bs
      · rw [if_neg hab, if_neg (Ne.symm hab), decide_eq_true_iff, decide_eq_true_iff]
        by_cases hlt : a < b
        · exact .inl hlt
        · exact .inr (Std.lt_of_le_of_ne (Std.not_lt.mp hlt) (Ne.symm hab))

theorem partsAtMost_append (front as bs : List String) :
    partsAtMost (front ++ as) (front ++ bs) = partsAtMost as bs := by
  induction front with
  | nil => rfl
  | cons a front ih =>
      rw [List.cons_append, List.cons_append, partsAtMost, if_pos rfl, ih]

/-! ## Paths below a root -/

theorem below_injective (root : Path) {a b : List Segment} (h : root.below a = root.below b) :
    a = b := by
  rw [below, below, Path.mk.injEq] at h
  exact List.append_cancel_left h.2

theorem map_text_injective : ∀ {a b : List Segment},
    a.map Segment.text = b.map Segment.text → a = b
  | [], [], _ => rfl
  | s :: a, t :: b, h => by
      rw [List.map_cons, List.map_cons, List.cons.injEq] at h
      obtain ⟨s, hs⟩ := s
      obtain ⟨t, ht⟩ := t
      obtain ⟨rfl, h⟩ := h
      rw [map_text_injective h]

/-- The path `p` stands before `q`: its segments come first. -/
def Comes (p q : Path) : Prop :=
  TextsLex (p.segments.map Segment.text) (q.segments.map Segment.text)

theorem comes_below_iff (root : Path) {a b : List Segment} :
    (root.below a).Comes (root.below b) ↔
      TextsLex (a.map Segment.text) (b.map Segment.text) := by
  rw [Comes, below, below, List.map_append, List.map_append]
  exact textsLex_append _

theorem atMost_below_iff (root : Path) {a b : List Segment} :
    (root.below a).atMost (root.below b) = true ↔
      a = b ∨ (root.below a).Comes (root.below b) := by
  rw [comes_below_iff, atMost, parts, parts, below, below, List.map_append, List.map_append,
    ← List.append_assoc, ← List.append_assoc, partsAtMost_append, partsAtMost_iff]
  constructor
  · rintro (h | h)
    · exact .inl (map_text_injective h)
    · exact .inr h
  · rintro (rfl | h)
    · exact .inl rfl
    · exact .inr h

theorem below_below (p : Path) (a b : List Segment) : (p.below a).below b = p.below (a ++ b) := by
  rw [below, below, below, List.append_assoc]

/-- What stands between two lists that begin alike begins like them. -/
theorem prefix_of_textsLex {front as cs : List String} : ∀ {bs : List String},
    TextsLex (front ++ as) bs → TextsLex bs (front ++ cs) → front <+: bs := by
  induction front with
  | nil => exact fun _ _ => List.nil_prefix
  | cons a front ih =>
      intro bs h h'
      cases bs with
      | nil => cases h
      | cons b bs =>
          rw [TextsLex, List.cons_append, List.cons_lex_cons_iff] at h h'
          rcases h with h | ⟨rfl, h⟩
          · rcases h' with h' | ⟨rfl, -⟩
            · exact absurd (Std.lt_trans h h') Std.lt_irrefl
            · exact absurd h Std.lt_irrefl
          · rcases h' with h' | ⟨-, h'⟩
            · exact absurd h' Std.lt_irrefl
            · exact (List.prefix_cons_inj a).mpr (ih h h')

/-- Between two paths below a directory there is nothing that is not below it. -/
theorem exists_below_of_comes (root : Path) {front as bs cs : List Segment}
    (h : (root.below (front ++ as)).Comes (root.below bs))
    (h' : (root.below bs).Comes (root.below (front ++ cs))) : ∃ more, bs = front ++ more := by
  rw [comes_below_iff, List.map_append] at h h'
  obtain ⟨texts, htexts⟩ := prefix_of_textsLex h h'
  obtain ⟨front', more, rfl, hfront, -⟩ := List.map_eq_append_iff.mp htexts.symm
  rw [map_text_injective hfront]
  exact ⟨more, rfl⟩

/-! ## Sorting -/

theorem atMost_trans (p q r : Path) (h : p.atMost q = true) (h' : q.atMost r = true) :
    p.atMost r = true :=
  partsAtMost_trans h h'

theorem atMost_total (p q : Path) : (p.atMost q || q.atMost p) = true := by
  rw [Bool.or_eq_true]
  exact partsAtMost_total p.parts q.parts

theorem pairwise_comes_mergeSort (root : Path) {ps : List Path} (hnodup : ps.Nodup)
    (hbelow : ∀ p ∈ ps, ∃ a, p = root.below a) : (ps.mergeSort atMost).Pairwise Comes := by
  have hne : (ps.mergeSort atMost).Pairwise (· ≠ ·) :=
    (List.mergeSort_perm ps atMost).symm.nodup hnodup
  have hle := List.pairwise_mergeSort atMost_trans atMost_total ps
  refine (hle.and hne).imp_of_mem ?_
  rintro p q hp hq ⟨hle, hne⟩
  obtain ⟨a, rfl⟩ := hbelow p (List.mem_mergeSort.mp hp)
  obtain ⟨b, rfl⟩ := hbelow q (List.mem_mergeSort.mp hq)
  rcases (atMost_below_iff root).mp hle with rfl | h
  · exact absurd rfl hne
  · exact h

theorem eq_of_pairwise_comes {ps qs : List Path} (hp : ps.Pairwise Comes) (hq : qs.Pairwise Comes)
    (h : ∀ p, p ∈ ps ↔ p ∈ qs) : ps = qs := by
  have hne {p q : Path} (hpq : p.Comes q) : p ≠ q := by
    rintro rfl
    exact textsLex_irrefl _ hpq
  have hperm : ps.Perm qs :=
    (List.perm_ext_iff_of_nodup (hp.imp hne) (hq.imp hne)).mpr h
  refine hperm.eq_of_pairwise (fun p q _ _ hpq hqp => ?_) hp hq
  exact absurd (textsLex_trans hpq hqp) (textsLex_irrefl _)

end TemplateRun.Path
