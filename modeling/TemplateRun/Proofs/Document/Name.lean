/-
# `Name` — the name of a document stands for it

A document has many texts that lead to it and one name.  The name is the normal one among those
texts (`Path.Normalizes`), so that

    two texts lead to one document   if and only if   its names are one
    the name, read as a text         leads back       to the document with that name
    one more slash or dot in a text  leads to         the document with that name

None of this looks at a disk: `..` is kept, and two documents with different names may well be one
file.
-/
import TemplateRun.Document.Basic
import TemplateRun.Proofs.Path.Spelling

namespace TemplateRun.Document

theorem ofText_name (s : String) : ofText (ofText s).name = ofText s :=
  congrArg Document.mk (Path.parse_text (Path.parse s))

theorem ofText_eq_iff {s t : String} :
    ofText s = ofText t ↔ (ofText s).name = (ofText t).name := by
  constructor
  · intro h
    rw [h]
  · intro h
    rw [← ofText_name s, h, ofText_name]

theorem getLast?_behindSlashes_name (s : String) :
    (Path.behindSlashes (ofText s).name.toList).getLast? ≠ some '/' := by
  intro h
  obtain ⟨front, hfront⟩ := List.getLast?_eq_some_iff.mp h
  have hsplit := List.splitOn_append_cons_self (a := '/') front []
  rw [← hfront] at hsplit
  rcases (Path.normalizes_text s).clean with hdot | ⟨-, hnil | htell⟩
  · have hname : (ofText s).name.toList = ['.'] := hdot
    rw [hname] at h
    exact absurd h (by decide)
  · have hbehind : Path.behindSlashes (ofText s).name.toList = [] := hnil
    rw [hbehind] at h
    cases h
  · -- the piece behind a last slash would be empty
    have hempty : [] ∈ (Path.behindSlashes (ofText s).name.toList).splitOn '/' := by
      rw [hsplit, List.splitOn_nil]
      exact List.mem_append_right _ (List.mem_singleton_self [])
    exact absurd (htell [] hempty) (by decide)

theorem count_up_name (s : String) :
    ((ofText s).name.toList.splitOn '/').count ['.', '.'] =
      (s.toList.splitOn '/').count ['.', '.'] := by
  have hup : Path.tells ['.', '.'] = true := by decide
  have hpieces := (Path.normalizes_text s).pieces
  rw [← List.count_filter hup, ← List.count_filter (l := s.toList.splitOn '/') hup]
  exact congrArg (List.count ['.', '.']) hpieces

/-- The name of a document is its canonical text. -/
theorem name_canonical :
    (∀ s t : String, ofText s = ofText t ↔ (ofText s).name = (ofText t).name) ∧
    (∀ s : String, ofText (ofText s).name = ofText s ∧
      (ofText (ofText s).name).name = (ofText s).name) ∧
    (∀ s n : String, (ofText s).name = n ↔ Path.Normalizes s.toList n.toList) ∧
    (∀ s : String, (Path.behindSlashes (ofText s).name.toList).getLast? ≠ some '/' ∧
      ((ofText s).name.toList.splitOn '/').count ['.', '.'] =
        (s.toList.splitOn '/').count ['.', '.']) ∧
    (∀ s t : String, Relation.EqvGen Path.Pads s.toList t.toList →
      (ofText s).name = (ofText t).name) := by
  refine ⟨fun s t => ofText_eq_iff, fun s => ⟨ofText_name s, congrArg name (ofText_name s)⟩,
    fun s n => Path.text_parse_eq_iff, fun s => ⟨getLast?_behindSlashes_name s, count_up_name s⟩,
    fun s t h => ?_⟩
  exact congrArg Path.text (Path.parse_eq_of_pads h)

/-- A text with a doubled root and a way up, and the same with more slashes and dots. -/
theorem paddedName_canonical :
    Relation.EqvGen Path.Pads "//a/../b".toList "//a/./..//b/.".toList ∧
      (ofText "//a/../b").name = (ofText "//a/./..//b/.").name := by
  have hdot : Path.Pads "//a/../b".toList "//a/./../b".toList :=
    .inside ['/', '/', 'a'] ['.', '.', '/', 'b'] ⟨'a', by decide, by decide⟩ (.inr rfl)
  have hslash : Path.Pads "//a/./../b".toList "//a/./..//b".toList :=
    .inside ['/', '/', 'a', '/', '.', '/', '.', '.'] ['b'] ⟨'a', by decide, by decide⟩ (.inl rfl)
  have hlast : Path.Pads "//a/./..//b".toList "//a/./..//b/.".toList :=
    .behind "//a/./..//b".toList ⟨'a', by decide, by decide⟩ (.inr rfl)
  have hpads := (Relation.EqvGen.rel _ _ hdot).trans _ _ _ <|
    (Relation.EqvGen.rel _ _ hslash).trans _ _ _ (.rel _ _ hlast)
  exact ⟨hpads, name_canonical.2.2.2.2 _ _ hpads⟩

end TemplateRun.Document
