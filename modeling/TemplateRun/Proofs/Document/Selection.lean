/-
# `Selection` — which documents are executed

What is executed is told by the names of documents, which are whole paths; but only the last segment
of a path has a say (`hasSuffix_name`).  Of the text that a document comes from this leaves the name
at its end: `directory.jamplate/a.inc` is no template, and `./a.jamplate//.` is one.

Of a list of documents the templates are selected, all of them and in their order, however often
they stand there.  `Picks` says so without a filter: what is selected is the longest list of
templates that can be had by leaving documents out.
-/
import TemplateRun.Proofs.Document.Template
import TemplateRun.Proofs.Path.FileName

namespace TemplateRun

/-! ## Picking -/

/-- `Picks p things picked`: those of the things that satisfy `p`, all of them and in their
order. -/
structure Picks {α : Type} (p : α → Prop) (things picked : List α) : Prop where
  sublist : picked.Sublist things
  holds : ∀ a ∈ picked, p a
  greatest : ∀ other : List α, other.Sublist things → (∀ a ∈ other, p a) → other.Sublist picked

section
variable {α : Type} {p : α → Prop} {things picked : List α}

theorem Picks.unique {picked' : List α} (h : Picks p things picked)
    (h' : Picks p things picked') : picked = picked' :=
  (h'.greatest picked h.sublist h.holds).antisymm (h.greatest picked' h'.sublist h'.holds)

theorem picks_filter {keeps : α → Bool} (hkeeps : ∀ a, keeps a = true ↔ p a) :
    Picks p things (things.filter keeps) where
  sublist := List.filter_sublist
  holds a ha := (hkeeps a).mp (List.of_mem_filter ha)
  greatest other hsub hother := by
    have hall : other.filter keeps = other :=
      List.filter_eq_self.mpr fun a ha => (hkeeps a).mpr (hother a ha)
    have hfiltered := hsub.filter keeps
    rwa [hall] at hfiltered

theorem filter_eq_iff_picks {keeps : α → Bool} (hkeeps : ∀ a, keeps a = true ↔ p a) :
    things.filter keeps = picked ↔ Picks p things picked := by
  constructor
  · rintro rfl
    exact picks_filter hkeeps
  · exact (picks_filter hkeeps).unique

end

namespace Document

/-! ## Templates -/

theorem hasSuffix_iff {suffix name : String} :
    hasSuffix suffix name = true ↔ ∃ stem : String, name = stem ++ suffix := by
  rw [hasSuffix, List.isSuffixOf_iff_suffix]
  constructor
  · rintro ⟨stem, hstem⟩
    refine ⟨String.ofList stem, ?_⟩
    rw [← String.toList_inj, String.toList_append, String.toList_ofList, hstem]
  · rintro ⟨stem, rfl⟩
    exact ⟨stem.toList, String.toList_append.symm⟩

theorem hasSuffix_name {s : String} :
    hasSuffix templateSuffix (ofText s).name = true ↔
      ∃ stem : String, (ofText s).path.name? = some (stem ++ ".jamplate") := by
  rw [name, hasSuffix_text, Option.any_eq_true]
  constructor
  · rintro ⟨last, hlast, hsuffix⟩
    obtain ⟨stem, rfl⟩ := hasSuffix_iff.mp hsuffix
    exact ⟨stem, hlast⟩
  · rintro ⟨stem, hlast⟩
    exact ⟨_, hlast, hasSuffix_iff.mpr ⟨stem, rfl⟩⟩

theorem hasSuffix_name_eq {s t : String} (h : (ofText s).path.name? = (ofText t).path.name?) :
    hasSuffix templateSuffix (ofText s).name = hasSuffix templateSuffix (ofText t).name := by
  rw [name, name, hasSuffix_text, hasSuffix_text, h]

/-- The directory that a file is in has no say. -/
theorem hasSuffix_name_append {s last : String} (directory : String)
    (h : Path.Names s.toList last.toList) :
    hasSuffix templateSuffix (ofText (directory ++ "/" ++ s)).name =
      hasSuffix templateSuffix last := by
  have hlast : (ofText (directory ++ "/" ++ s)).path.name? = some last := by
    have hname := Path.name?_parse_append directory s
    rw [Path.name?_parse_eq_some_iff.mpr h] at hname
    exact hname
  rw [name, hasSuffix_text, hlast]
  rfl

/-- Whether a document is a template is told by the last segment of its path, and of a list of
things that come from documents those of templates are selected. -/
theorem selection_by_file_name :
    (∀ s : String, hasSuffix templateSuffix (ofText s).name = true ↔
      ∃ stem : String, (ofText s).path.name? = some (stem ++ ".jamplate")) ∧
    (∀ s last : String, (ofText s).path.name? = some last ↔ Path.Names s.toList last.toList) ∧
    (∀ s t : String, (ofText s).path.name? = (ofText t).path.name? →
      hasSuffix templateSuffix (ofText s).name = hasSuffix templateSuffix (ofText t).name) ∧
    (∀ s t : String, Relation.EqvGen Path.Respells s.toList t.toList →
      hasSuffix templateSuffix (ofText s).name = hasSuffix templateSuffix (ofText t).name) ∧
    (∀ directory s last : String, Path.Names s.toList last.toList →
      hasSuffix templateSuffix (ofText (directory ++ "/" ++ s)).name =
        hasSuffix templateSuffix last) ∧
    ∀ {α : Type} (textOf : α → String) (things picked : List α),
      select (fun a => (ofText (textOf a)).name) templateSuffix things = picked ↔
        Picks (fun a => ∃ stem : String,
          Path.Names (textOf a).toList (stem ++ ".jamplate").toList) things picked := by
  refine ⟨fun s => hasSuffix_name, fun s last => Path.name?_parse_eq_some_iff,
    fun s t => hasSuffix_name_eq, fun s t h => ?_, fun directory s last => ?_,
    fun textOf things picked => ?_⟩
  · exact hasSuffix_name_eq (Path.name?_parse_eq_of_respells h)
  · exact hasSuffix_name_append directory
  · refine filter_eq_iff_picks fun a => ?_
    rw [hasSuffix_name]
    exact exists_congr fun stem => Path.name?_parse_eq_some_iff

/-- A file in a directory that is named as a template, and a template in two directories and two
spellings. -/
theorem templateDirectory_selection :
    (Path.Names "a.inc/.".toList "a.inc".toList ∧
      hasSuffix templateSuffix (ofText ("x.jamplate" ++ "/" ++ "a.inc/.")).name = false) ∧
    (Relation.EqvGen Path.Respells "b/a.jamplate".toList "./b//a.jamplate/.".toList ∧
      hasSuffix templateSuffix (ofText "b/a.jamplate").name =
        hasSuffix templateSuffix (ofText "./b//a.jamplate/.").name) ∧
    (ofText "b/a.jamplate").path.name? = (ofText "/../a.jamplate").path.name? ∧
      hasSuffix templateSuffix (ofText "b/a.jamplate").name =
        hasSuffix templateSuffix (ofText "/../a.jamplate").name := by
  obtain ⟨-, -, hname, hrespells, hdirectory, -⟩ := selection_by_file_name
  have hnames : Path.Names "a.inc/.".toList "a.inc".toList :=
    .dot (Path.Names.alone (by decide) (by decide) : Path.Names "a.inc".toList "a.inc".toList)
  have hspelled : Relation.EqvGen Path.Respells "b/a.jamplate".toList
      "./b//a.jamplate/.".toList := by
    have hhere : Path.Respells "b/a.jamplate".toList "./b/a.jamplate".toList := .here _
    have hdoubled : Path.Respells "./b/a.jamplate".toList "./b//a.jamplate".toList :=
      .doubled ['.', '/', 'b'] "a.jamplate".toList
    have hdot : Path.Respells "./b//a.jamplate".toList "./b//a.jamplate/.".toList := .dot _
    exact (Relation.EqvGen.rel _ _ hhere).trans _ _ _ <|
      (Relation.EqvGen.rel _ _ hdoubled).trans _ _ _ (.rel _ _ hdot)
  have hlast : (ofText "b/a.jamplate").path.name? = (ofText "/../a.jamplate").path.name? := by
    decide
  refine ⟨⟨hnames, ?_⟩, ⟨hspelled, hrespells _ _ hspelled⟩, hlast, hname _ _ hlast⟩
  rw [hdirectory "x.jamplate" "a.inc/." "a.inc" hnames]
  decide

end Document

end TemplateRun
