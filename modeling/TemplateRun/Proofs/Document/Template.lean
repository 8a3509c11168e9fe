/-
# `Template` — a template is told by the name of its file

Documents are selected by their names, which are whole paths written out.  But no slash is in the
suffix of a template, so it can only stand in the last segment: what a document is selected by is
the name of its file (`hasSuffix_text`), and the directories above it make no difference
(`templates_map_name`).
-/
import TemplateRun.Document.Basic
import TemplateRun.Proofs.Path.Text

namespace TemplateRun

/-! ## The last segment -/

/-- A text without slashes that ends a path stands in its last segment. -/
theorem suffix_append_iff {suffix last : List Char} (hsuffix : '/' ∉ suffix)
    {front : List Char} (hfront : front = [] ∨ ∃ before, front = before ++ ['/']) :
    suffix <:+ front ++ last ↔ suffix <:+ last := by
  refine ⟨fun h => ?_, fun h => h.trans (List.suffix_append front last)⟩
  rcases hfront with rfl | ⟨before, rfl⟩
  · exact h
  · rw [List.append_assoc, List.singleton_append] at h
    -- the slash and what is behind it is an end of the path as well, so one ends the other
    rcases List.suffix_or_suffix_of_suffix h (List.suffix_append before _) with h | h
    · rcases List.suffix_cons_iff.mp h with rfl | h
      · exact absurd List.mem_cons_self hsuffix
      · exact h
    · exact absurd (h.mem List.mem_cons_self) hsuffix

namespace Path

theorem exists_text_eq {p : Path} {init : List Segment} {last : Segment}
    (h : p.segments = init ++ [last]) :
    ∃ front, p.text.toList = front ++ last.text.toList ∧
      (front = [] ∨ ∃ before, front = before ++ ['/']) := by
  obtain ⟨front, hfront, hend⟩ :=
    exists_intercalate_eq (init.map fun s => s.text.toList) last.text.toList
  refine ⟨p.root.text.toList ++ front, ?_, ?_⟩
  · rw [toList_text, if_neg (by simp [h]), h, List.map_append, List.append_assoc, ← hfront]
    rfl
  · rcases hend with rfl | ⟨before, rfl⟩
    · cases p.root with
      | relative => exact .inl rfl
      | absolute => exact .inr ⟨[], rfl⟩
      | doubled => exact .inr ⟨['/'], rfl⟩
    · exact .inr ⟨p.root.text.toList ++ before, (List.append_assoc _ _ _).symm⟩

end Path

namespace Document

/-! ## Templates -/

/-- Whether the file is named as a template, whatever the directories above it are. -/
def isTemplate (doc : Document) : Bool := doc.path.name?.any (hasSuffix templateSuffix)

theorem hasSuffix_text (p : Path) :
    hasSuffix templateSuffix p.text = p.name?.any (hasSuffix templateSuffix) := by
  rcases List.eq_nil_or_concat p.segments with h | ⟨init, last, h⟩
  · -- without segments there is only the spelling of the root
    obtain ⟨root, segments⟩ := p
    subst h
    cases root <;> rfl
  · rw [List.concat_eq_append] at h
    obtain ⟨front, htext, hfront⟩ := Path.exists_text_eq h
    have hname : p.name? = some last.text := by
      rw [Path.name?, h, List.getLast?_concat]
      rfl
    rw [hname, Option.any_some, Bool.eq_iff_iff, hasSuffix, hasSuffix, List.isSuffixOf_iff_suffix,
      List.isSuffixOf_iff_suffix, htext]
    exact suffix_append_iff (by decide) hfront

/-- The names of templates among the names of documents are the names of those documents whose
files are named as templates. -/
theorem templates_map_name (docs : List Document) :
    templates (docs.map name) = (docs.filter isTemplate).map name := by
  rw [templates, select, List.filter_map]
  refine congrArg (List.map name) (List.filter_congr fun doc _ => ?_)
  exact hasSuffix_text doc.path

end Document

end TemplateRun
