/-
# `Tree` — what lies below a directory

A node lies below a directory if names lead to it, all but the last through directories
(`Reaches`); a link is never gone through.  The relation is said without any order among entries,
and three functions compute with it.

    entriesDescendants    lists the locations that are reached, each once (`nodup_…`, `mem_…_iff`)
    at?                   finds the node that is reached (`reaches_iff_at?`)
    isTidy                holds of what is reached (`Reaches.isTidy`)

Two trees are alike if they have the same files, links and directories at the same locations
(`Alike`).  The order of entries does not come into it: a directory is alike to the directory of
the same entries in another order (`alike_of_perm`).
-/
import TemplateRun.Disk.Node

namespace TemplateRun.Node

/-- From the entries of a directory the names lead to the node, through directories alone. -/
inductive Reaches : List (Segment × Node) → Location → Node → Prop
  | here {entries : List (Segment × Node)} {name : Segment} {node : Node} :
      (name, node) ∈ entries → Reaches entries [name] node
  | inside {entries inner : List (Segment × Node)} {name : Segment} {names : Location}
      {node : Node} :
      (name, .directory inner) ∈ entries → Reaches inner names node →
      Reaches entries (name :: names) node

theorem Reaches.ne_nil {entries : List (Segment × Node)} {names : Location} {node : Node}
    (h : Reaches entries names node) : names ≠ [] := by
  cases h <;> exact List.cons_ne_nil _ _

theorem Reaches.mono {entries more : List (Segment × Node)} {names : Location} {node : Node}
    (hsub : ∀ e ∈ entries, e ∈ more) (h : Reaches entries names node) :
    Reaches more names node := by
  cases h with
  | here hmem => exact .here (hsub _ hmem)
  | inside hmem h => exact .inside (hsub _ hmem) h

/-! ## Tidiness -/

theorem entriesTidy_cons {name : Segment} {node : Node} {rest : List (Segment × Node)} :
    entriesTidy ((name, node) :: rest) = true ↔
      name ≠ Segment.up ∧ '\x00' ∉ name.text.toList ∧ name ∉ rest.map Prod.fst ∧
        node.isTidy = true ∧ entriesTidy rest = true := by
  rw [entriesTidy]
  simp only [Bool.and_eq_true, decide_eq_true_eq, and_assoc]

theorem entry_of_entriesTidy {entries : List (Segment × Node)} (h : entriesTidy entries = true)
    {name : Segment} {node : Node} (hmem : (name, node) ∈ entries) :
    name ≠ Segment.up ∧ '\x00' ∉ name.text.toList ∧ node.isTidy = true := by
  induction entries with
  | nil => exact absurd hmem List.not_mem_nil
  | cons e rest ih =>
      obtain ⟨hup, hnul, -, hnode, hrest⟩ := entriesTidy_cons.mp h
      rcases List.mem_cons.mp hmem with rfl | hmem
      · exact ⟨hup, hnul, hnode⟩
      · exact ih hrest hmem

theorem nodup_names {entries : List (Segment × Node)} (h : entriesTidy entries = true) :
    (entries.map Prod.fst).Nodup := by
  induction entries with
  | nil => exact List.nodup_nil
  | cons e rest ih =>
      obtain ⟨-, -, hname, -, hrest⟩ := entriesTidy_cons.mp h
      exact List.nodup_cons.mpr ⟨hname, ih hrest⟩

theorem lookup_eq_some_iff {entries : List (Segment × Node)} (h : entriesTidy entries = true)
    (name : Segment) (node : Node) : entries.lookup name = some node ↔ (name, node) ∈ entries :=
  OrderedMap.get?_eq_some_iff ⟨entries, nodup_names h⟩ name node

theorem Reaches.isTidy {entries : List (Segment × Node)} {names : Location} {node : Node}
    (h : Reaches entries names node) (htidy : entriesTidy entries = true) :
    node.isTidy = true ∧ ∀ name ∈ names, name ≠ Segment.up ∧ '\x00' ∉ name.text.toList := by
  induction h with
  | here hmem =>
      obtain ⟨hup, hnul, hnode⟩ := entry_of_entriesTidy htidy hmem
      refine ⟨hnode, fun name hname => ?_⟩
      rw [List.mem_singleton.mp hname]
      exact ⟨hup, hnul⟩
  | inside hmem h ih =>
      obtain ⟨hup, hnul, hinner⟩ := entry_of_entriesTidy htidy hmem
      obtain ⟨hnode, hnames⟩ := ih hinner
      refine ⟨hnode, fun name hname => ?_⟩
      rcases List.mem_cons.mp hname with rfl | hname
      · exact ⟨hup, hnul⟩
      · exact hnames name hname

/-! ## Finding -/

theorem at?_append (node : Node) (front back : Location) :
    node.at? (front ++ back) = (node.at? front).bind fun inner => inner.at? back := by
  induction front generalizing node with
  | nil => rfl
  | cons name front ih =>
      rw [List.cons_append, at?, at?, Option.bind_assoc]
      exact Option.bind_congr fun child _ => ih child

theorem isTidy_of_at? {top node : Node} (htop : top.isTidy = true) {place : Location}
    (hat : top.at? place = some node) : node.isTidy = true := by
  induction place generalizing top with
  | nil =>
      cases hat
      exact htop
  | cons name rest ih =>
      obtain ⟨child, hchild, hinner⟩ := Option.bind_eq_some_iff.mp hat
      match top with
      | .directory entries =>
          have hmem := (lookup_eq_some_iff htop name child).mp hchild
          exact ih (entry_of_entriesTidy htop hmem).2.2 hinner

/-- The induction is on the names; what is not a directory has nothing below it. -/
theorem reaches_iff_at? {entries : List (Segment × Node)} (h : entriesTidy entries = true)
    {names : Location} {node : Node} :
    Reaches entries names node ↔ names ≠ [] ∧ (directory entries).at? names = some node := by
  constructor
  · intro hr
    refine ⟨hr.ne_nil, ?_⟩
    induction hr with
    | here hmem =>
        rw [at?, child?, (lookup_eq_some_iff h _ _).mpr hmem]
        rfl
    | inside hmem hr ih =>
        rw [at?, child?, (lookup_eq_some_iff h _ _).mpr hmem]
        exact ih (entry_of_entriesTidy h hmem).2.2
  · rintro ⟨hne, hat⟩
    induction names generalizing entries with
    | nil => exact absurd rfl hne
    | cons name names ih =>
        obtain ⟨child, hchild, hat⟩ := Option.bind_eq_some_iff.mp hat
        have hmem := (lookup_eq_some_iff h name child).mp hchild
        match names with
        | [] =>
            cases hat
            exact .here hmem
        | next :: names =>
            match child with
            | .file _ => exact nomatch hat
            | .link _ => exact nomatch hat
            | .directory inner =>
                have hinner := (entry_of_entriesTidy h hmem).2.2
                exact .inside hmem (ih hinner (List.cons_ne_nil _ _) hat)

theorem reaches_append_iff {entries inner : List (Segment × Node)}
    (h : entriesTidy entries = true) {front names : Location} {node : Node}
    (hfront : Reaches entries front (.directory inner)) (hne : names ≠ []) :
    Reaches entries (front ++ names) node ↔ Reaches inner names node := by
  have hinner : entriesTidy inner = true := (hfront.isTidy h).1
  have hat := ((reaches_iff_at? h).mp hfront).2
  rw [reaches_iff_at? h, reaches_iff_at? hinner, at?_append, hat, Option.bind_some]
  exact and_congr_left' ⟨fun _ => hne, fun _ => List.append_ne_nil_of_right_ne_nil front hne⟩

/-! ## Listing -/

theorem reaches_cons_iff {name : Segment} {node n : Node} {rest : List (Segment × Node)}
    {names : Location} :
    Reaches ((name, node) :: rest) names n ↔
      names = [name] ∧ n = node ∨
      (∃ inner more, node = .directory inner ∧ names = name :: more ∧ Reaches inner more n) ∨
      Reaches rest names n := by
  constructor
  · intro h
    cases h with
    | here hmem =>
        rcases List.mem_cons.mp hmem with he | hmem
        · obtain ⟨rfl, rfl⟩ := Prod.mk.inj he
          exact .inl ⟨rfl, rfl⟩
        · exact .inr (.inr (.here hmem))
    | inside hmem h =>
        rcases List.mem_cons.mp hmem with he | hmem
        · obtain ⟨rfl, rfl⟩ := Prod.mk.inj he
          exact .inr (.inl ⟨_, _, rfl, rfl, h⟩)
        · exact .inr (.inr (.inside hmem h))
  · rintro (⟨rfl, rfl⟩ | ⟨inner, more, rfl, rfl, h⟩ | h)
    · exact .here List.mem_cons_self
    · exact .inside List.mem_cons_self h
    · exact h.mono fun _ he => List.mem_cons_of_mem _ he

theorem mem_descendants_iff {node : Node} {names : Location} :
    names ∈ node.descendants ↔
      ∃ inner, node = .directory inner ∧ names ∈ entriesDescendants inner := by
  cases node with
  | file _ => simp [descendants]
  | link _ => simp [descendants]
  | directory inner => simp [descendants]

/-- The listing has what is reached.  The recursion is into the first entry and over the rest. -/
theorem mem_entriesDescendants_iff : ∀ {entries : List (Segment × Node)} {names : Location},
    names ∈ entriesDescendants entries ↔ ∃ node, Reaches entries names node
  | [], names => by
      rw [entriesDescendants]
      constructor
      · intro h
        exact absurd h List.not_mem_nil
      · rintro ⟨node, h⟩
        cases h with
        | here hmem => exact absurd hmem List.not_mem_nil
        | inside hmem _ => exact absurd hmem List.not_mem_nil
  | (name, node) :: rest, names => by
      rw [entriesDescendants, List.cons_append, List.mem_cons, List.mem_append, List.mem_map,
        mem_entriesDescendants_iff]
      constructor
      · rintro (rfl | ⟨more, hmore, rfl⟩ | ⟨n, h⟩)
        · exact ⟨node, .here List.mem_cons_self⟩
        · obtain ⟨inner, rfl, hmore⟩ := mem_descendants_iff.mp hmore
          obtain ⟨n, h⟩ := mem_entriesDescendants_iff.mp hmore
          exact ⟨n, .inside List.mem_cons_self h⟩
        · exact ⟨n, h.mono fun _ he => List.mem_cons_of_mem _ he⟩
      · rintro ⟨n, hn⟩
        rcases reaches_cons_iff.mp hn with ⟨rfl, rfl⟩ | ⟨inner, more, rfl, rfl, h⟩ | h
        · exact .inl rfl
        · have hmore := mem_entriesDescendants_iff.mpr ⟨n, h⟩
          exact .inr (.inl ⟨more, mem_descendants_iff.mpr ⟨inner, rfl, hmore⟩, rfl⟩)
        · exact .inr (.inr ⟨n, h⟩)

theorem head_mem_names {entries : List (Segment × Node)} {name : Segment} {names : Location}
    {node : Node} (h : Reaches entries (name :: names) node) : name ∈ entries.map Prod.fst := by
  cases h with
  | here hmem => exact List.mem_map.mpr ⟨_, hmem, rfl⟩
  | inside hmem _ => exact List.mem_map.mpr ⟨_, hmem, rfl⟩

/-- The listing has nothing twice, since names are distinct. -/
theorem nodup_entriesDescendants : ∀ {entries : List (Segment × Node)},
    entriesTidy entries = true → (entriesDescendants entries).Nodup
  | [], _ => List.nodup_nil
  | (name, node) :: rest, h => by
      obtain ⟨-, -, hname, hnode, hrest⟩ := entriesTidy_cons.mp h
      have hinner : node.descendants.Nodup := by
        match node with
        | .file _ => exact List.nodup_nil
        | .link _ => exact List.nodup_nil
        | .directory inner => exact nodup_entriesDescendants hnode
      have hne {names : Location} (hmem : names ∈ node.descendants) : names ≠ [] := by
        obtain ⟨inner, -, hmem⟩ := mem_descendants_iff.mp hmem
        obtain ⟨n, hn⟩ := mem_entriesDescendants_iff.mp hmem
        exact hn.ne_nil
      have hlater {names : Location} (hmem : name :: names ∈ entriesDescendants rest) : False := by
        obtain ⟨n, hn⟩ := mem_entriesDescendants_iff.mp hmem
        exact hname (head_mem_names hn)
      -- the entry itself, what is below it, what is below the entries behind it
      rw [entriesDescendants, List.cons_append, List.nodup_cons, List.mem_append, List.mem_map,
        List.nodup_append]
      refine ⟨?_, ?_, nodup_entriesDescendants hrest, ?_⟩
      · rintro (⟨more, hmore, he⟩ | h)
        · exact hne hmore (List.cons.inj he).2
        · exact hlater h
      · exact List.Pairwise.map _ (fun _ _ hab he => hab (List.cons.inj he).2) hinner
      · rintro names hnames more hmore rfl
        obtain ⟨inner, -, rfl⟩ := List.mem_map.mp hnames
        exact hlater hmore

/-! ## Trees that are alike -/

/-- A node without what is in it, if it is a directory. -/
def outline : Node → Node
  | directory _ => directory []
  | node => node

/-- The same files, links and directories are at the same locations. -/
def Alike (t u : Node) : Prop := ∀ place, (t.at? place).map outline = (u.at? place).map outline

theorem Alike.symm {t u : Node} (h : Alike t u) : Alike u t := fun place => (h place).symm

theorem Alike.at? {t u n : Node} (h : Alike t u) {place : Location} (hn : t.at? place = some n) :
    ∃ m, u.at? place = some m ∧ m.outline = n.outline := by
  have hmap := h place
  rw [hn] at hmap
  obtain ⟨m, hm, hout⟩ := Option.map_eq_some_iff.mp hmap.symm
  exact ⟨m, hm, hout⟩

theorem eq_file_of_outline {n : Node} {bytes : List UInt8} (h : n.outline = .file bytes) :
    n = .file bytes := by
  cases n with
  | file _ => exact h
  | link _ => exact nomatch h
  | directory _ => exact nomatch h

theorem eq_link_of_outline {n : Node} {target : String} (h : n.outline = .link target) :
    n = .link target := by
  cases n with
  | file _ => exact nomatch h
  | link _ => exact h
  | directory _ => exact nomatch h

theorem eq_directory_of_outline {n : Node} {entries : List (Segment × Node)}
    (h : n.outline = .directory entries) : ∃ more, n = .directory more := by
  cases n with
  | file _ => exact nomatch h
  | link _ => exact nomatch h
  | directory more => exact ⟨more, rfl⟩

theorem alike_of_perm {entries more : List (Segment × Node)} (htidy : entriesTidy entries = true)
    (h : entries.Perm more) : Alike (.directory entries) (.directory more) := by
  intro place
  cases place with
  | nil => rfl
  | cons name rest =>
      have hlookup : more.lookup name = entries.lookup name := by
        have hnodup : (more.map Prod.fst).Nodup := (h.map _).nodup (nodup_names htidy)
        refine Option.ext fun node => ?_
        rw [lookup_eq_some_iff htidy, h.mem_iff]
        exact OrderedMap.get?_eq_some_iff ⟨more, hnodup⟩ name node
      rw [Node.at?, Node.at?, child?, child?, hlookup]

end TemplateRun.Node
