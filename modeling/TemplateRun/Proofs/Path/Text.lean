/-
# `Text` — the characters of a path's one spelling

The spelling of a path is the slashes in front and the segments with a slash between each two;
only a path that has neither is spelled otherwise, as one dot (`toList_text`).  Read as a path, the
spelling gives the path back (`parse_text`).
-/
import TemplateRun.Path
import TemplateRun.Proofs.Text.Intercalation

namespace TemplateRun.Path

/-! ## Characters -/

theorem toList_text (p : Path) :
    p.text.toList =
      if p.root = .relative ∧ p.segments = [] then ['.']
      else p.root.text.toList ++ ['/'].intercalate (p.segments.map fun s => s.text.toList) := by
  rw [text]
  split
  · rfl
  · rw [String.toList_append, String.toList_intercalate, List.map_map]
    rfl

/-- A character that is neither slash nor dot is in the spelling because it is in a segment. -/
theorem mem_text_iff (p : Path) {c : Char} (hslash : c ≠ '/') (hdot : c ≠ '.') :
    c ∈ p.text.toList ↔ ∃ s ∈ p.segments, c ∈ s.text.toList := by
  rw [toList_text]
  split
  · next h =>
      rw [h.2, List.mem_singleton]
      simp [hdot]
  · have hroot : c ∉ p.root.text.toList := by
      cases p.root <;> simp [PathRoot.text, hslash]
    have hsign : c ∉ ['/'] := fun h => hslash (List.mem_singleton.mp h)
    rw [List.mem_append, mem_intercalate_iff]
    simp only [hroot, hsign, false_or, false_and, or_false, List.mem_map]
    constructor
    · rintro ⟨_, ⟨s, hs, rfl⟩, hc⟩
      exact ⟨s, hs, hc⟩
    · rintro ⟨s, hs, hc⟩
      exact ⟨_, ⟨s, hs, rfl⟩, hc⟩

/-! ## Reading a spelling -/

theorem segmentsOf_slash (cs : List Char) : segmentsOf ('/' :: cs) = segmentsOf cs := by
  have hsplit : ('/' :: cs).splitOn '/' = [] :: cs.splitOn '/' := by
    rw [List.splitOn_cons_eq_if_modifyHead, if_pos (by decide)]
  have hempty : Segment.ofText? (String.ofList []) = none := rfl
  rw [segmentsOf, segmentsOf, hsplit, List.filterMap_cons, hempty]

/-- The characters of segments, with a slash between each two. -/
def spelled (segments : List Segment) : List Char :=
  ['/'].intercalate (segments.map fun s => s.text.toList)

theorem segmentsOf_spelled (segments : List Segment) :
    segmentsOf (spelled segments) = segments := by
  cases segments with
  | nil => rfl
  | cons s rest =>
      have hpieces : ∀ piece ∈ (s :: rest).map fun s => s.text.toList, '/' ∉ piece := by
        intro piece hpiece
        obtain ⟨s, -, rfl⟩ := List.mem_map.mp hpiece
        exact s.isSegment.2.2
      have hsegment (s : Segment) : Segment.ofText? (String.ofList s.text.toList) = some s := by
        rw [String.ofList_toList]
        exact dif_pos s.isSegment
      rw [segmentsOf, spelled, List.splitOn_intercalate '/' hpieces (List.cons_ne_nil _ _),
        List.filterMap_map]
      simp only [Function.comp_def, hsegment, List.filterMap_some]

theorem head?_spelled (segments : List Segment) : (spelled segments).head? ≠ some '/' := by
  cases segments with
  | nil => exact fun h => (by cases h)
  | cons s rest =>
      have hne : s.text.toList ≠ [] := fun h => s.isSegment.1 (String.toList_eq_nil_iff.mp h)
      obtain ⟨c, cs, hcs⟩ := List.exists_cons_of_ne_nil hne
      have hslash : '/' ∉ s.text.toList := s.isSegment.2.2
      rw [hcs, List.mem_cons, not_or] at hslash
      have hhead : (spelled (s :: rest)).head? = some c := by
        cases rest <;> simp [spelled, hcs]
      rw [hhead]
      exact fun h => hslash.1 (Option.some.inj h).symm

theorem takeWhile_slash_append (root : PathRoot) {cs : List Char} (h : cs.head? ≠ some '/') :
    (root.text.toList ++ cs).takeWhile (· = '/') = root.text.toList := by
  have hnone : cs.takeWhile (· = '/') = [] := by
    cases cs with
    | nil => rfl
    | cons c cs =>
        have hc : c ≠ '/' := fun hc => h (congrArg some hc)
        rw [List.takeWhile_cons_of_neg (by simpa using hc)]
  cases root <;> simp [PathRoot.text, hnone]

theorem rootOf_append (root : PathRoot) {cs : List Char} (h : cs.head? ≠ some '/') :
    rootOf (root.text.toList ++ cs) = root := by
  rw [rootOf, takeWhile_slash_append root h]
  cases root <;> rfl

/-- A spelling is the spelling of one path. -/
theorem parse_text (p : Path) : parse p.text = p := by
  obtain ⟨root, segments⟩ := p
  rw [parse, toList_text]
  split
  · next h =>
      obtain ⟨rfl, rfl⟩ : root = .relative ∧ segments = [] := h
      rfl
  · have hroot : rootOf (root.text.toList ++ spelled segments) = root :=
      rootOf_append root (head?_spelled segments)
    have hsegments : segmentsOf (root.text.toList ++ spelled segments) = segments := by
      cases root with
      | relative => exact segmentsOf_spelled segments
      | absolute => exact (segmentsOf_slash _).trans (segmentsOf_spelled segments)
      | doubled =>
          exact (segmentsOf_slash _).trans <|
            (segmentsOf_slash _).trans (segmentsOf_spelled segments)
    show Path.mk (rootOf (root.text.toList ++ spelled segments))
      (segmentsOf (root.text.toList ++ spelled segments)) = _
    rw [hroot, hsegments]

theorem text_segment (s : Segment) : text ⟨.relative, [s]⟩ = s.text := by
  rw [text, if_neg (by simp)]
  exact String.empty_append

theorem parse_segment (s : Segment) : parse s.text = ⟨.relative, [s]⟩ := by
  rw [← text_segment s, parse_text]

end TemplateRun.Path
