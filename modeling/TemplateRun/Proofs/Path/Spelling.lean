/-
# `Spelling` — the texts that lead to one path, and the one that it is written as

A text is read as a path piece by piece: the pieces stand between its slashes, and those that are
empty or a dot tell nothing (`tells`).  The path is fixed by the other pieces, in order, and by the
slashes in front (`map_segmentsOf`).  Of the texts with one meaning one is normal:

    slashes   none, one or two in front, and two only where there were exactly two
    pieces    the telling ones, `..` among them
    clean     behind the slashes in front no piece is empty or a dot; and where there is nothing at
              all, a dot stands for it

`text_parse_eq_iff` says that a path is written as this text and as no other.  A text is spelled
otherwise by slashes and dots that are put in behind a piece (`Pads`).  They change neither of the
two things that fix the path (`parse_eq_of_pads`); in front of the first piece a slash would count.
-/
import Mathlib.Data.List.Basic
import Mathlib.Data.List.TakeWhile
import Mathlib.Logic.Relation
import TemplateRun.Proofs.Path.Text

namespace TemplateRun.Path

/-! ## Pieces -/

/-- The number of slashes that a text begins with. -/
def leadingSlashes (s : List Char) : Nat := (s.takeWhile (· = '/')).length

/-- What stands behind the slashes that a text begins with. -/
def behindSlashes (s : List Char) : List Char := s.dropWhile (· = '/')

/-- Whether a piece between slashes makes a difference. -/
def tells (piece : List Char) : Bool := piece ≠ [] && piece ≠ ['.']

/-- The pieces of a text that make a difference. -/
def tellingPieces (s : List Char) : List (List Char) := (s.splitOn '/').filter tells

theorem slash_not_mem_of_mem_splitOn {s : List Char} :
    ∀ {piece : List Char}, piece ∈ s.splitOn '/' → '/' ∉ piece := by
  induction s with
  | nil =>
      intro piece h
      rw [List.splitOn_nil, List.mem_singleton] at h
      rw [h]
      exact List.not_mem_nil
  | cons c rest ih =>
      intro piece h
      rw [List.splitOn_cons_eq_if_modifyHead] at h
      split at h
      · rcases List.mem_cons.mp h with rfl | h
        · exact List.not_mem_nil
        · exact ih h
      · next hc =>
          -- the character goes to the first piece of the rest
          obtain ⟨first, others, hsplit⟩ :=
            List.exists_cons_of_ne_nil (List.splitOn_ne_nil '/' rest)
          rw [hsplit, List.modifyHead_cons] at h
          rw [hsplit] at ih
          rcases List.mem_cons.mp h with rfl | h
          · rw [List.mem_cons, not_or]
            exact ⟨fun heq => hc (beq_iff_eq.mpr heq.symm), ih List.mem_cons_self⟩
          · exact ih (List.mem_cons_of_mem first h)

theorem ofText?_piece {piece : List Char} (h : '/' ∉ piece) :
    (Segment.ofText? (String.ofList piece)).map (fun s => s.text.toList) =
      Option.guard tells piece := by
  have hsegment : IsSegment (String.ofList piece) ↔ tells piece = true := by
    have hempty : String.ofList piece = "" ↔ piece = [] := by
      rw [← String.toList_inj, String.toList_ofList]
      rfl
    have hdot : String.ofList piece = "." ↔ piece = ['.'] := by
      rw [← String.toList_inj, String.toList_ofList]
      rfl
    simp [IsSegment, tells, hempty, hdot, h]
  by_cases ht : tells piece = true
  · rw [Segment.ofText?, dif_pos (hsegment.mpr ht), Option.map_some, String.toList_ofList,
      Option.guard, if_pos ht]
  · rw [Segment.ofText?, dif_neg (hsegment.not.mpr ht), Option.guard, if_neg ht]
    rfl

theorem map_segmentsOf (s : List Char) :
    (segmentsOf s).map (fun s => s.text.toList) = tellingPieces s := by
  rw [segmentsOf, List.map_filterMap, tellingPieces, ← List.filterMap_eq_filter]
  exact List.filterMap_congr fun piece hpiece =>
    ofText?_piece (slash_not_mem_of_mem_splitOn hpiece)

theorem segmentsOf_eq_iff {s t : List Char} :
    segmentsOf s = segmentsOf t ↔ tellingPieces s = tellingPieces t := by
  have hinj : Function.Injective fun s : Segment => s.text.toList := by
    rintro ⟨a, ha⟩ ⟨b, hb⟩ h
    cases String.toList_inj.mp h
    rfl
  rw [← map_segmentsOf, ← map_segmentsOf, (List.map_injective_iff.mpr hinj).eq_iff]

theorem segmentsOf_append_slash (s t : List Char) :
    segmentsOf (s ++ '/' :: t) = segmentsOf s ++ segmentsOf t := by
  rw [segmentsOf, List.splitOn_append_cons_self, List.filterMap_append]
  rfl

/-! ## Slashes in front -/

/-- How many of the slashes in front are left. -/
def keptSlashes (count : Nat) : Nat := if count = 0 then 0 else if count = 2 then 2 else 1

theorem length_text_rootOf (s : List Char) :
    (rootOf s).text.length = keptSlashes (leadingSlashes s) := by
  rw [rootOf, keptSlashes, leadingSlashes]
  split
  · next h => rw [if_pos h]; rfl
  · next h => rw [if_neg (by omega), if_pos h]; rfl
  · next h0 h2 => rw [if_neg h0, if_neg h2]; rfl

theorem keptSlashes_keptSlashes (count : Nat) :
    keptSlashes (keptSlashes count) = keptSlashes count := by
  unfold keptSlashes
  split
  · rfl
  · split <;> rfl

theorem toList_text_root (root : PathRoot) :
    root.text.toList = List.replicate root.text.length '/' := by
  cases root <;> rfl

theorem root_eq_of_length {a b : PathRoot} (h : a.text.length = b.text.length) : a = b := by
  cases a <;> cases b <;> revert h <;> decide

theorem replicate_append_behindSlashes (s : List Char) :
    List.replicate (leadingSlashes s) '/' ++ behindSlashes s = s := by
  have hslashes : s.takeWhile (· = '/') = List.replicate (leadingSlashes s) '/' := by
    rw [leadingSlashes, List.eq_replicate_iff]
    exact ⟨rfl, fun c hc => by simpa using List.mem_takeWhile_imp hc⟩
  rw [← hslashes, behindSlashes, List.takeWhile_append_dropWhile]

theorem tellingPieces_slash (s : List Char) : tellingPieces ('/' :: s) = tellingPieces s :=
  segmentsOf_eq_iff.mp (segmentsOf_slash s)

theorem tellingPieces_behindSlashes (s : List Char) :
    tellingPieces (behindSlashes s) = tellingPieces s := by
  have hfront (count : Nat) (t : List Char) :
      tellingPieces (List.replicate count '/' ++ t) = tellingPieces t := by
    induction count with
    | zero => rfl
    | succ count ih =>
        rw [List.replicate_succ, List.cons_append, tellingPieces_slash, ih]
  rw [← hfront (leadingSlashes s), replicate_append_behindSlashes]

section
variable {cs : List Char}

theorem leadingSlashes_append (root : PathRoot) (h : cs.head? ≠ some '/') :
    leadingSlashes (root.text.toList ++ cs) = root.text.length := by
  rw [leadingSlashes, takeWhile_slash_append root h]
  rfl

theorem behindSlashes_append (root : PathRoot) (h : cs.head? ≠ some '/') :
    behindSlashes (root.text.toList ++ cs) = cs := by
  have hcut := List.takeWhile_append_dropWhile (p := (· = '/')) (l := root.text.toList ++ cs)
  rw [takeWhile_slash_append root h] at hcut
  exact List.append_cancel_left hcut

end

/-! ## The normal text -/

/-- `Normalizes s n`: the text `n` means what `s` means, and is clean. -/
structure Normalizes (s n : List Char) : Prop where
  slashes : leadingSlashes n = keptSlashes (leadingSlashes s)
  pieces : tellingPieces n = tellingPieces s
  clean : n = ['.'] ∨
    n ≠ [] ∧ (behindSlashes n = [] ∨ ∀ piece ∈ (behindSlashes n).splitOn '/', tells piece = true)

theorem splitOn_spelled {segments : List Segment} (h : segments ≠ []) :
    (spelled segments).splitOn '/' = segments.map fun s => s.text.toList := by
  have hpieces : ∀ piece ∈ segments.map fun s => s.text.toList, '/' ∉ piece := by
    intro piece hpiece
    obtain ⟨s, -, rfl⟩ := List.mem_map.mp hpiece
    exact s.isSegment.2.2
  rw [spelled, List.splitOn_intercalate '/' hpieces fun hmap => h (List.map_eq_nil_iff.mp hmap)]

theorem tells_segment (s : Segment) : tells s.text.toList = true := by
  obtain ⟨text, hne, hdot, -⟩ := s
  have hempty : text.toList ≠ [] := fun h => hne (String.toList_eq_nil_iff.mp h)
  have hdots : text.toList ≠ ['.'] := fun h => hdot (String.toList_inj.mp h)
  simp [tells, hempty, hdots]

theorem segments_parse (s : String) : (parse s).segments = segmentsOf s.toList := rfl

theorem normalizes_text (s : String) : Normalizes s.toList (parse s).text.toList := by
  have hpieces : tellingPieces (parse s).text.toList = tellingPieces s.toList := by
    rw [← segmentsOf_eq_iff, ← segments_parse, ← segments_parse, parse_text]
  have hlength := length_text_rootOf s.toList
  by_cases hdot : (parse s).root = .relative ∧ (parse s).segments = []
  · have htext : (parse s).text.toList = ['.'] := by rw [toList_text, if_pos hdot]
    have hroot : rootOf s.toList = .relative := hdot.1
    refine ⟨?_, hpieces, .inl htext⟩
    rw [← hlength, htext, hroot]
    rfl
  · have htext : (parse s).text.toList =
        (parse s).root.text.toList ++ spelled (parse s).segments := by
      rw [toList_text, if_neg hdot]
      rfl
    have hhead := head?_spelled (parse s).segments
    refine ⟨?_, hpieces, .inr ?_⟩
    · rw [htext, leadingSlashes_append _ hhead]
      exact hlength
    · rw [htext, behindSlashes_append _ hhead]
      cases hsegments : (parse s).segments with
      | nil =>
          -- there are slashes in front, since the text is not a dot
          have hroot : (parse s).root ≠ .relative := fun h => hdot ⟨h, hsegments⟩
          refine ⟨?_, .inl rfl⟩
          cases hr : (parse s).root with
          | relative => exact absurd hr hroot
          | absolute => exact List.cons_ne_nil _ _
          | doubled => exact List.cons_ne_nil _ _
      | cons first others =>
          have hsplit := splitOn_spelled (List.cons_ne_nil first others)
          refine ⟨?_, .inr ?_⟩
          · intro h
            rw [(List.append_eq_nil_iff.mp h).2] at hsplit
            exact first.isSegment.1 (String.toList_eq_nil_iff.mp (List.cons.inj hsplit).1.symm)
          · rw [hsplit]
            intro piece hpiece
            obtain ⟨segment, -, rfl⟩ := List.mem_map.mp hpiece
            exact tells_segment segment

theorem text_parse_of_clean {n : String}
    (hslashes : keptSlashes (leadingSlashes n.toList) = leadingSlashes n.toList)
    (hclean : n.toList = ['.'] ∨ n.toList ≠ [] ∧ (behindSlashes n.toList = [] ∨
      ∀ piece ∈ (behindSlashes n.toList).splitOn '/', tells piece = true)) :
    (parse n).text = n := by
  rw [← String.toList_inj]
  have hroot : (parse n).root.text.toList = List.replicate (leadingSlashes n.toList) '/' := by
    rw [toList_text_root, ← hslashes, ← length_text_rootOf]
    rfl
  have hwhole := replicate_append_behindSlashes n.toList
  have hsegments : (parse n).segments.map (fun s => s.text.toList) =
      tellingPieces (behindSlashes n.toList) := by
    rw [tellingPieces_behindSlashes, ← map_segmentsOf, segments_parse]
  rcases hclean with hdot | ⟨hne, hbehind | htell⟩
  · obtain rfl : n = "." := String.toList_inj.mp hdot
    rfl
  · -- there is nothing but the slashes of the root
    rw [hbehind, List.append_nil] at hwhole
    rw [hbehind] at hsegments
    have hnil : (parse n).segments = [] := List.map_eq_nil_iff.mp hsegments
    have hnot : ¬((parse n).root = .relative ∧ (parse n).segments = []) := by
      intro h
      rw [← hwhole, ← hroot, h.1] at hne
      exact hne rfl
    rw [toList_text, if_neg hnot, hnil, hroot, hwhole]
    exact List.append_nil _
  · have hall : tellingPieces (behindSlashes n.toList) = (behindSlashes n.toList).splitOn '/' :=
      List.filter_eq_self.mpr htell
    rw [hall] at hsegments
    have hnot : ¬((parse n).root = .relative ∧ (parse n).segments = []) := fun h =>
      List.splitOn_ne_nil '/' _ (hsegments.symm.trans (List.map_eq_nil_iff.mpr h.2))
    rw [toList_text, if_neg hnot, hsegments, List.intercalate_splitOn, hroot, hwhole]

/-- A path is written as the one normal text with its meaning. -/
theorem text_parse_eq_iff {s n : String} :
    (parse s).text = n ↔ Normalizes s.toList n.toList := by
  constructor
  · rintro rfl
    exact normalizes_text s
  · intro h
    have hslashes : keptSlashes (leadingSlashes n.toList) = leadingSlashes n.toList := by
      rw [h.slashes, keptSlashes_keptSlashes]
    have hroot : rootOf s.toList = rootOf n.toList := by
      apply root_eq_of_length
      rw [length_text_rootOf, length_text_rootOf, hslashes, h.slashes]
    have hparse : parse s = parse n := by
      rw [parse, parse, hroot, segmentsOf_eq_iff.mpr h.pieces]
    rw [hparse, text_parse_of_clean hslashes h.clean]

/-! ## Other spellings -/

/-- `Pads s t`: one more slash stands in `t`, behind some of `s` that is more than slashes, and
there is nothing between it and what follows, or a dot. -/
inductive Pads : List Char → List Char → Prop
  | inside {piece : List Char} (front back : List Char) :
      (∃ c ∈ front, c ≠ '/') → piece = [] ∨ piece = ['.'] →
      Pads (front ++ '/' :: back) (front ++ '/' :: (piece ++ '/' :: back))
  | behind {piece : List Char} (front : List Char) :
      (∃ c ∈ front, c ≠ '/') → piece = [] ∨ piece = ['.'] →
      Pads front (front ++ '/' :: piece)

theorem rootOf_append_of_mem {front : List Char} (h : ∃ c ∈ front, c ≠ '/') (back : List Char) :
    rootOf (front ++ back) = rootOf front := by
  have htake : (front ++ back).takeWhile (· = '/') = front.takeWhile (· = '/') := by
    obtain ⟨c, hc, hne⟩ := h
    rw [List.takeWhile_append, if_neg]
    intro hlength
    have hwhole : front.takeWhile (· = '/') = front :=
      (List.takeWhile_prefix _).eq_of_length hlength
    rw [← hwhole] at hc
    exact hne (by simpa using List.mem_takeWhile_imp hc)
  rw [rootOf, rootOf, htake]

theorem segmentsOf_blank {piece : List Char} (h : piece = [] ∨ piece = ['.']) :
    segmentsOf piece = [] := by
  rcases h with rfl | rfl <;> rfl

/-- One more slash leads to the same path. -/
theorem Pads.parse_eq {s t : List Char} (h : Pads s t) :
    rootOf s = rootOf t ∧ segmentsOf s = segmentsOf t := by
  cases h with
  | inside front back hfront hpiece =>
      constructor
      · rw [rootOf_append_of_mem hfront, rootOf_append_of_mem hfront]
      · rw [segmentsOf_append_slash, segmentsOf_append_slash, segmentsOf_append_slash,
          segmentsOf_blank hpiece, List.nil_append]
  | behind front hfront hpiece =>
      constructor
      · rw [rootOf_append_of_mem hfront]
      · rw [segmentsOf_append_slash, segmentsOf_blank hpiece, List.append_nil]

/-- However many slashes and dots are put in or taken out, the path stays. -/
theorem parse_eq_of_pads {s t : String} (h : Relation.EqvGen Pads s.toList t.toList) :
    parse s = parse t := by
  have hrun {u v : List Char} (huv : Relation.EqvGen Pads u v) :
      rootOf u = rootOf v ∧ segmentsOf u = segmentsOf v := by
    induction huv with
    | rel _ _ hstep => exact hstep.parse_eq
    | refl _ => exact ⟨rfl, rfl⟩
    | symm _ _ _ ih => exact ⟨ih.1.symm, ih.2.symm⟩
    | trans _ _ _ _ _ ih ih' => exact ⟨ih.1.trans ih'.1, ih.2.trans ih'.2⟩
  obtain ⟨hroot, hsegments⟩ := hrun h
  rw [parse, parse, hroot, hsegments]

end TemplateRun.Path
