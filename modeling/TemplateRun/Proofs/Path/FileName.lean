/-
# `FileName` — the piece of a text that names the file

A text leads to a file, and the last of its pieces that tell anything is the name of the file.
`Names s name` says this by the ways in which such a text is written:

    name            the name alone
    directory/s     anything at all in front of a slash
    s/   s/.        a slash at the end, or a slash and a dot

These are all the ways, and the name is the last segment of the path (`name?_parse_eq_some_iff`).
So what stands in front does not matter (`name?_parse_append`), and neither do further slashes and
dots (`Respells`).  Unlike `Pads` this holds in front of the first piece as well: there they may
lead to another directory, but not to another name.
-/
import TemplateRun.Proofs.Path.Spelling

namespace TemplateRun.Path

/-! ## The last piece -/

/-- `Names s name`: the text leads to a file with this name. -/
inductive Names : List Char → List Char → Prop
  | alone {name : List Char} : tells name = true → '/' ∉ name → Names name name
  | inside {s name : List Char} (directory : List Char) :
      Names s name → Names (directory ++ '/' :: s) name
  | slash {s name : List Char} : Names s name → Names (s ++ ['/']) name
  | dot {s name : List Char} : Names s name → Names (s ++ ['/', '.']) name

theorem tellingPieces_append_slash (s t : List Char) :
    tellingPieces (s ++ '/' :: t) = tellingPieces s ++ tellingPieces t := by
  rw [tellingPieces, List.splitOn_append_cons_self, List.filter_append]
  rfl

theorem tellingPieces_of_slash_not_mem {s : List Char} (h : '/' ∉ s) :
    tellingPieces s = [s].filter tells := by
  have hpieces : ∀ piece ∈ [s], '/' ∉ piece := by simpa using h
  have hsplit := List.splitOn_intercalate '/' hpieces (List.cons_ne_nil s [])
  rw [List.intercalate_singleton] at hsplit
  rw [tellingPieces, hsplit]

theorem tellingPieces_blank {piece : List Char} (h : piece = [] ∨ piece = ['.']) :
    tellingPieces piece = [] := by
  rw [← map_segmentsOf, segmentsOf_blank h]
  rfl

theorem tellingPieces_append_blank (s : List Char) {piece : List Char}
    (h : piece = [] ∨ piece = ['.']) : tellingPieces (s ++ '/' :: piece) = tellingPieces s := by
  rw [tellingPieces_append_slash, tellingPieces_blank h, List.append_nil]

theorem Names.getLast?_tellingPieces {s name : List Char} (h : Names s name) :
    (tellingPieces s).getLast? = some name := by
  induction h with
  | alone htells hslash =>
      rw [tellingPieces_of_slash_not_mem hslash, List.filter_cons_of_pos htells]
      rfl
  | inside directory _ ih =>
      rw [tellingPieces_append_slash, List.getLast?_append, ih]
      rfl
  | slash _ ih => rw [tellingPieces_append_blank _ (.inl rfl), ih]
  | dot _ ih => rw [tellingPieces_append_blank _ (.inr rfl), ih]

theorem exists_last_slash (s : List Char) :
    '/' ∉ s ∨ ∃ front piece, s = front ++ '/' :: piece ∧ '/' ∉ piece := by
  induction s with
  | nil => exact .inl List.not_mem_nil
  | cons c rest ih =>
      rcases ih with hrest | ⟨front, piece, rfl, hpiece⟩
      · by_cases hc : c = '/'
        · exact .inr ⟨[], rest, by rw [hc]; rfl, hrest⟩
        · exact .inl fun h => (List.mem_cons.mp h).elim (fun h => hc h.symm) hrest
      · exact .inr ⟨c :: front, piece, rfl, hpiece⟩

/-- There are no other ways to write a name.  The recursion goes to what stands in front of the last
slash, where the piece behind it tells nothing. -/
theorem names_of_getLast? {s name : List Char} (h : (tellingPieces s).getLast? = some name) :
    Names s name := by
  rcases exists_last_slash s with hslash | ⟨front, piece, rfl, hslash⟩
  · rw [tellingPieces_of_slash_not_mem hslash] at h
    by_cases htells : tells s = true
    · rw [List.filter_cons_of_pos htells] at h
      obtain rfl : s = name := Option.some.inj h
      exact .alone htells hslash
    · rw [List.filter_cons_of_neg htells] at h
      cases h
  · by_cases htells : tells piece = true
    · rw [tellingPieces_append_slash, tellingPieces_of_slash_not_mem hslash,
        List.filter_cons_of_pos htells, List.filter_nil, List.getLast?_concat] at h
      obtain rfl : piece = name := Option.some.inj h
      exact .inside front (.alone htells hslash)
    · have hblank : piece = [] ∨ piece = ['.'] := by
        simpa [tells, or_iff_not_imp_left] using htells
      rw [tellingPieces_append_blank front hblank] at h
      have hfront := names_of_getLast? h
      rcases hblank with rfl | rfl
      · exact hfront.slash
      · exact hfront.dot
termination_by s.length

theorem names_iff {s name : List Char} :
    Names s name ↔ (tellingPieces s).getLast? = some name :=
  ⟨Names.getLast?_tellingPieces, names_of_getLast?⟩

/-! ## The last segment -/

theorem name?_parse (s : String) :
    (parse s).name?.map String.toList = (tellingPieces s.toList).getLast? := by
  rw [name?, Option.map_map, segments_parse, ← map_segmentsOf, List.getLast?_map]
  rfl

/-- The last segment of the path is the name that the text is written with. -/
theorem name?_parse_eq_some_iff {s name : String} :
    (parse s).name? = some name ↔ Names s.toList name.toList := by
  rw [names_iff, ← name?_parse, Option.map_eq_some_iff]
  constructor
  · intro h
    exact ⟨name, h, rfl⟩
  · rintro ⟨other, h, hname⟩
    rw [h, String.toList_inj.mp hname]

theorem name?_parse_eq_of_tellingPieces {s t : String}
    (h : tellingPieces s.toList = tellingPieces t.toList) : (parse s).name? = (parse t).name? := by
  rw [name?, name?, segments_parse, segments_parse, segmentsOf_eq_iff.mpr h]

/-- Anything in front of a slash counts only if there is no name behind it. -/
theorem name?_parse_append (directory s : String) :
    (parse (directory ++ "/" ++ s)).name? = (parse s).name?.or (parse directory).name? := by
  have hchars : (directory ++ "/" ++ s).toList = directory.toList ++ '/' :: s.toList := by simp
  rw [name?, name?, name?, segments_parse, segments_parse, segments_parse, hchars,
    segmentsOf_append_slash, List.getLast?_append]
  cases (segmentsOf s.toList).getLast? <;> rfl

/-! ## Other spellings of a name -/

/-- `Respells s t`: in `t` there is one more slash, or one more slash and a dot. -/
inductive Respells : List Char → List Char → Prop
  | slash (s : List Char) : Respells s (s ++ ['/'])
  | dot (s : List Char) : Respells s (s ++ ['/', '.'])
  | here (s : List Char) : Respells s ('.' :: '/' :: s)
  | doubled (front back : List Char) :
      Respells (front ++ '/' :: back) (front ++ '/' :: '/' :: back)

theorem Respells.tellingPieces_eq {s t : List Char} (h : Respells s t) :
    tellingPieces s = tellingPieces t := by
  cases h with
  | slash s => exact (tellingPieces_append_blank s (.inl rfl)).symm
  | dot s => exact (tellingPieces_append_blank s (.inr rfl)).symm
  | here s =>
      have hpieces := tellingPieces_append_slash ['.'] s
      rw [tellingPieces_blank (.inr rfl)] at hpieces
      exact hpieces.symm
  | doubled front back =>
      rw [tellingPieces_append_slash, tellingPieces_append_slash, tellingPieces_slash]

/-- However often a text is spelled otherwise, it leads to a file with the same name. -/
theorem name?_parse_eq_of_respells {s t : String}
    (h : Relation.EqvGen Respells s.toList t.toList) : (parse s).name? = (parse t).name? := by
  have hpieces := h.mono fun _ _ hstep => hstep.tellingPieces_eq
  exact name?_parse_eq_of_tellingPieces <|
    (eq_equivalence.comap tellingPieces).eqvGen_iff.mp hpieces

end TemplateRun.Path
