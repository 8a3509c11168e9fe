/-
# `Parts` — discovering below a part of a tree

The documents below a root come in the order of their paths, and in this order those below one
directory stand together (`exists_block`).  So each directory that is reached below the root has its
own block of the documents, and discovery at that directory finds this block and nothing else; it
says that there are no documents where the block is empty.  And since the name of a document gives
its path back, each document is what discovery finds under its name (`discover_parts`).

    root                 a/b    a/c/x    a b    a-b/x
    root below a         a/b    a/c/x
    root below a/c              a/c/x
-/
import TemplateRun.Proofs.Document.Discovery

namespace TemplateRun

/-! ## Blocks -/

/-- In a list in order, the members stand together that have a property which all between two of
them have as well.  The induction is on the list: when its head has the property, what comes in
front of the block of the rest has it too, unless there is no block. -/
theorem exists_block {α : Type} {R : α → α → Prop} {P : α → Prop}
    (hbetween : ∀ a b c, R a b → R b c → P a → P c → P b) :
    ∀ {l : List α}, l.Pairwise R → ∃ front block back, l = front ++ block ++ back ∧
      (∀ a ∈ block, P a) ∧ ∀ a ∈ front ++ back, ¬ P a
  | [], _ => ⟨[], [], [], rfl, by simp, by simp⟩
  | a :: l, h => by
      obtain ⟨ha, hl⟩ := List.pairwise_cons.mp h
      obtain ⟨front, block, back, rfl, hblock, hrest⟩ := exists_block hbetween hl
      by_cases hP : P a
      · cases front with
        | nil =>
            refine ⟨[], a :: block, back, rfl, ?_, hrest⟩
            exact List.forall_mem_cons.mpr ⟨hP, hblock⟩
        | cons b front =>
            have hb : ¬ P b := hrest b (by simp)
            have hnone : block = [] := by
              refine List.eq_nil_iff_forall_not_mem.mpr fun c hc => hb ?_
              have hbc : R b c := by
                rw [List.append_assoc, List.cons_append, List.pairwise_cons] at hl
                exact hl.1 c (by simp [hc])
              exact hbetween a b c (ha b (by simp)) hbc hP (hblock c hc)
            subst hnone
            refine ⟨[], [a], b :: front ++ back, by simp, by simpa using hP, hrest⟩
      · refine ⟨a :: front, block, back, rfl, hblock, ?_⟩
        exact List.forall_mem_cons.mpr ⟨hP, hrest⟩

theorem mem_block {α : Type} {P : α → Prop} {front block back : List α} {a : α}
    (hrest : ∀ a ∈ front ++ back, ¬ P a) (ha : a ∈ front ++ block ++ back) (hP : P a) :
    a ∈ block := by
  rw [List.append_assoc, List.mem_append, List.mem_append] at ha
  rcases ha with hfront | hblock | hback
  · exact absurd hP (hrest a (List.mem_append_left back hfront))
  · exact hblock
  · exact absurd hP (hrest a (List.mem_append_right front hback))

/-- The document is at a path or below it. -/
def Document.Within (doc : Document) (p : Path) : Prop := ∃ names, doc.path = p.below names

namespace Disk

/-! ## Documents of a part -/

section
variable {d : Disk} {root : Path} {entries inner : List (Segment × Node)} {names : Location}

/-- What leads to a document from a directory that is reached is what leads to it from the root by
way of that directory. -/
theorem leadsToDocument_append_iff (htidy : Node.entriesTidy entries = true)
    (hr : Node.Reaches entries names (.directory inner)) {more : Location} :
    d.LeadsToDocument root entries (names ++ more) ↔
      d.LeadsToDocument (root.below names) inner more := by
  by_cases hmore : more = []
  · subst hmore
    rw [List.append_nil]
    constructor
    · rintro ⟨node, hnode, hdoc⟩
      have hsame := ((Node.reaches_iff_at? htidy).mp hr).2
      rw [((Node.reaches_iff_at? htidy).mp hnode).2] at hsame
      obtain rfl := Option.some.inj hsame
      rcases hdoc with ⟨_, h⟩ | ⟨⟨_, h⟩, -⟩ <;> cases h
    · rintro ⟨node, hnode, -⟩
      exact absurd rfl hnode.ne_nil
  · simp only [LeadsToDocument, Node.reaches_append_iff htidy hr hmore, Path.below_below]

theorem scanFaults_of_part (htidy : Node.entriesTidy entries = true)
    (hr : Node.Reaches entries names (.directory inner))
    (h : d.ScanFaults (root.below names) inner) : d.ScanFaults root entries := by
  obtain ⟨more, node, fault, hnode, hlook⟩ := h
  rw [Path.below_below] at hlook
  exact ⟨_, node, fault, (Node.reaches_append_iff htidy hr hnode.ne_nil).mpr hnode, hlook⟩

theorem Exact.mem_part_iff {docs : List Document} (h : d.Exact root entries docs)
    (htidy : Node.entriesTidy entries = true)
    (hr : Node.Reaches entries names (.directory inner)) {doc : Document} :
    doc ∈ docs ∧ doc.Within (root.below names) ↔
      ∃ more, d.LeadsToDocument (root.below names) inner more ∧
        doc = ⟨(root.below names).below more⟩ := by
  rw [h.mem_iff]
  simp only [← leadsToDocument_append_iff htidy hr, Path.below_below]
  constructor
  · rintro ⟨⟨all, hdoc, rfl⟩, more, hpath⟩
    rw [Path.below_below] at hpath
    obtain rfl := root.below_injective hpath
    exact ⟨more, hdoc, rfl⟩
  · rintro ⟨more, hdoc, rfl⟩
    exact ⟨⟨_, hdoc, rfl⟩, more, (root.below_below names more).symm⟩

theorem Exact.exists_block {docs : List Document} (h : d.Exact root entries docs)
    (names : Location) : ∃ front block back, docs = front ++ block ++ back ∧
      (∀ doc ∈ block, doc.Within (root.below names)) ∧
      ∀ doc ∈ front ++ back, ¬ doc.Within (root.below names) := by
  -- what stands between is below the root because it is a document, so that is part of the order
  let R (a b : Document) : Prop := a.path.Comes b.path ∧ ∃ between, a.path = root.below between
  have hsorted : docs.Pairwise R := by
    refine (List.pairwise_map.mp h.sorted).imp_of_mem fun {a b} ha _ hab => ⟨hab, ?_⟩
    obtain ⟨between, -, rfl⟩ := (h.mem_iff a).mp ha
    exact ⟨between, rfl⟩
  refine TemplateRun.exists_block (R := R) ?_ hsorted
  rintro a b c ⟨hab, -⟩ ⟨hbc, between, hb⟩ ⟨as, ha⟩ ⟨cs, hc⟩
  rw [Path.below_below] at ha hc
  rw [ha, hb] at hab
  rw [hb, hc] at hbc
  obtain ⟨more, rfl⟩ := Path.exists_below_of_comes root hab hbc
  exact ⟨more, by rw [hb, Path.below_below]⟩

/-- What discovery finds at a directory is its block of the documents. -/
theorem Exact.discover_part {docs front block back : List Document}
    (h : d.Exact root entries docs) (hroot : d.find root = .ok (.directory entries))
    (hfaults : ¬ d.ScanFaults root entries)
    (hr : Node.Reaches entries names (.directory inner)) (hdocs : docs = front ++ block ++ back)
    (hblock : ∀ doc ∈ block, doc.Within (root.below names))
    (hrest : ∀ doc ∈ front ++ back, ¬ doc.Within (root.below names)) :
    block = [] ∧ d.discover (root.below names) = .error (.noDocumentsIn (root.below names)) ∨
      block ≠ [] ∧
        d.discover (root.below names) = .ok (.below (root.below names) block) := by
  have htidy : Node.entriesTidy entries = true := by
    obtain ⟨place, -, hat⟩ := find_eq_ok_iff.mp hroot
    exact Node.isTidy_of_at? d.isTidy hat
  have hpart : d.find (root.below names) = .ok (.directory inner) :=
    find_of_reaches hroot hfaults hr fun _ => by rintro ⟨⟩
  have hmem (doc : Document) : doc ∈ block ↔ ∃ more,
      d.LeadsToDocument (root.below names) inner more ∧
        doc = ⟨(root.below names).below more⟩ := by
    rw [← h.mem_part_iff htidy hr, hdocs]
    constructor
    · exact fun hdoc => ⟨by simp [hdoc], hblock doc hdoc⟩
    · exact fun ⟨hdoc, hwithin⟩ => mem_block hrest hdoc hwithin
  rcases discover_directory hpart with ⟨hscan, -⟩ | ⟨-, hnone, hfound⟩ |
    ⟨-, ⟨more, hdoc⟩, part, hfound, hexact⟩
  · exact absurd (scanFaults_of_part htidy hr hscan) hfaults
  · refine .inl ⟨List.eq_nil_iff_forall_not_mem.mpr fun doc hdoc => hnone ?_, hfound⟩
    obtain ⟨more, hdoc, -⟩ := (hmem doc).mp hdoc
    exact ⟨more, hdoc⟩
  · have hsub : block.Sublist docs := by
      rw [hdocs]
      exact (List.sublist_append_right front block).trans (List.sublist_append_left _ back)
    have hne : block ≠ [] := List.ne_nil_of_mem ((hmem _).mpr ⟨more, hdoc, rfl⟩)
    have hown : d.Exact (root.below names) inner block :=
      ⟨hmem, h.nodup.sublist hsub, hne, h.sorted.sublist (hsub.map _)⟩
    exact .inr ⟨hne, by rw [hfound, hexact.unique hown]⟩

end

/-! ## Parts and the whole -/

/-- Discovery below a directory agrees with discovery below the root: the documents within the
directory stand together, and it finds these in the same order, or says that there are none.  And
each document is what it finds under the name of the document. -/
theorem discover_parts {d : Disk} {root : Path} {entries : List (Segment × Node)}
    {found : Discovered} (hroot : d.find root = .ok (.directory entries))
    (hfound : d.discover root = .ok found) :
    (∀ names inner, Node.Reaches entries names (.directory inner) →
      ∃ front block back, found.documents = front ++ block ++ back ∧
        (∀ doc ∈ block, doc.Within (root.below names)) ∧
        (∀ doc ∈ front ++ back, ¬ doc.Within (root.below names)) ∧
        (block ≠ [] → ∃ part, d.discover (root.below names) = .ok part ∧
          part.documents = block) ∧
        (block = [] → ∃ f, d.discover (root.below names) = .error f ∧
          f.family? = some .documentResolution ∧
          f.message = "No documents found in: " ++ (root.below names).text)) ∧
    ∀ doc ∈ found.documents, ∃ own, d.discover (Path.parse doc.name) = .ok own ∧
      own.documents = [doc] := by
  constructor
  · intro names inner hr
    have hfaults := not_scanFaults_of_discover hroot hfound
    obtain ⟨-, ⟨_, hfile, -⟩ | ⟨_, hdirectory, hexact⟩⟩ := discover_eq_ok hfound
    · cases hroot.symm.trans hfile
    · cases hroot.symm.trans hdirectory
      obtain ⟨front, block, back, hdocs, hblock, hrest⟩ := hexact.exists_block names
      refine ⟨front, block, back, hdocs, hblock, hrest, ?_⟩
      rcases hexact.discover_part hroot hfaults hr hdocs hblock hrest with
        ⟨hnil, hnone⟩ | ⟨hne, hpart⟩
      · exact ⟨fun hne => absurd hnil hne, fun _ => ⟨_, hnone, rfl, rfl⟩⟩
      · exact ⟨fun _ => ⟨_, hpart, rfl⟩, fun hnil => absurd hnil hne⟩
  · intro doc hdoc
    obtain ⟨bytes, hfile⟩ := find_of_mem_documents hfound hdoc
    rw [Document.name, Path.parse_text]
    exact ⟨_, discover_file hfile, rfl⟩

/-- What is below `m`: a file, and a directory with nothing in it. -/
def innerEntries : List (Segment × Node) :=
  [(⟨"n", by decide⟩, .file []), (⟨"e", by decide⟩, .directory [])]

/-- A directory between two siblings whose names begin like its own. -/
def siblingEntries : List (Segment × Node) :=
  [(⟨"m n", by decide⟩, .file []), (⟨"m", by decide⟩, .directory innerEntries),
    (⟨"m-n", by decide⟩, .directory [(⟨"x", by decide⟩, .file [])])]

/-- The disk on which these are in the directory that one is in. -/
def siblingDisk : Disk := ⟨.directory siblingEntries, [], by decide⟩

theorem siblingDisk_parts : ∃ found front block back,
    siblingDisk.discover (.parse ".") = .ok found ∧
    found.documents = front ++ block ++ back ∧ Document.ofText "m/n" ∈ block ∧
    (∃ part, siblingDisk.discover (.parse "m") = .ok part ∧ part.documents = block) ∧
    (∃ f, siblingDisk.discover (.parse "m/e") = .error f ∧
      f.message = "No documents found in: m/e") ∧
    ∃ own, siblingDisk.discover (.parse "m/n") = .ok own ∧
      own.documents = [Document.ofText "m/n"] := by
  have hroot : siblingDisk.find (.parse ".") = .ok (.directory siblingEntries) := rfl
  have hdiscover : ∃ found, siblingDisk.discover (.parse ".") = .ok found ∧
      Document.ofText "m/n" ∈ found.documents :=
    ⟨_, rfl, List.mem_map_of_mem (List.mem_mergeSort.mpr (by decide))⟩
  obtain ⟨found, hfound, hdoc⟩ := hdiscover
  obtain ⟨hparts, hown⟩ := discover_parts hroot hfound
  have hmemM : (⟨"m", by decide⟩, .directory innerEntries) ∈ siblingEntries :=
    List.mem_cons_of_mem _ List.mem_cons_self
  have hmemE : (⟨"e", by decide⟩, .directory []) ∈ innerEntries :=
    List.mem_cons_of_mem _ List.mem_cons_self
  have hm : Node.Reaches siblingEntries [⟨"m", by decide⟩] (.directory innerEntries) := .here hmemM
  have he : Node.Reaches siblingEntries [⟨"m", by decide⟩, ⟨"e", by decide⟩] (.directory []) :=
    .inside hmemM (.here hmemE)
  obtain ⟨front, block, back, hdocs, -, hrest, hpart, -⟩ := hparts _ _ hm
  obtain ⟨_, empty, _, -, -, -, hsome, hnone⟩ := hparts _ _ he
  have hwithin : (Document.ofText "m/n").Within (.parse "m") := ⟨[⟨"n", by decide⟩], by decide⟩
  have hmem : Document.ofText "m/n" ∈ block := mem_block hrest (hdocs ▸ hdoc) hwithin
  have hname : (Document.ofText "m/n").name = "m/n" := by decide
  have hsingle := hown _ hdoc
  rw [hname] at hsingle
  refine ⟨found, front, block, back, hfound, hdocs, hmem, hpart (List.ne_nil_of_mem hmem), ?_,
    hsingle⟩
  by_cases hnil : empty = []
  · obtain ⟨f, hf, -, hmessage⟩ := hnone hnil
    exact ⟨f, hf, hmessage⟩
  · obtain ⟨part, hpart, -⟩ := hsome hnil
    have hempty :
        siblingDisk.discover (.parse "m/e") = .error (.noDocumentsIn (.parse "m/e")) := rfl
    cases hempty.symm.trans hpart

end Disk

end TemplateRun
