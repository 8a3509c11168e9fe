/-
# `Discovery` — what is discovered below a directory

Which names lead to a document is said of the tree alone (`LeadsToDocument`): to a file, through
directories only, or to a link from which the disk finds a file.  Discovery lists the entries, asks
the disk about each and sorts what is left; `discover_exact` says that this comes to the same.

    Exact          all documents and nothing else, each once, in the order of paths
    ScanFaults     something below cannot be looked at; then there is no answer
    Alike          the order in which directories list their entries makes no difference

A root that leads to a file is the one document of its own.
-/
import TemplateRun.Document.Discovery
import TemplateRun.Proofs.Disk.Walk
import TemplateRun.Proofs.Path.Order

namespace TemplateRun

/-! ## Filtering with faults -/

section
variable {α ε : Type} {f : α → Except ε Bool}

theorem filterAuxM_of_ok {keep : α → Bool} : ∀ {l acc : List α}, (∀ a ∈ l, f a = .ok (keep a)) →
    l.filterAuxM f acc = .ok ((l.filter keep).reverse ++ acc)
  | [], acc, _ => rfl
  | a :: l, acc, h => by
      have hrest : ∀ b ∈ l, f b = .ok (keep b) := fun b hb => h b (List.mem_cons_of_mem a hb)
      rw [List.filterAuxM, h a List.mem_cons_self]
      show List.filterAuxM f l (cond (keep a) (a :: acc) acc) = _
      rw [filterAuxM_of_ok hrest, List.filter_cons]
      cases keep a <;> simp

theorem filterM_of_ok {keep : α → Bool} {l : List α} (h : ∀ a ∈ l, f a = .ok (keep a)) :
    l.filterM f = .ok (l.filter keep) := by
  rw [List.filterM, filterAuxM_of_ok h]
  show Except.ok ((l.filter keep).reverse ++ []).reverse = _
  rw [List.append_nil, List.reverse_reverse]

/-- If there is only one fault that can occur, and it does, then it is what comes of the list. -/
theorem filterAuxM_of_error {e : ε} : ∀ {l acc : List α},
    (∀ a ∈ l, ∀ e', f a = .error e' → e' = e) → (∃ a ∈ l, f a = .error e) →
    l.filterAuxM f acc = .error e
  | [], _, _, h => by
      obtain ⟨a, ha, -⟩ := h
      exact absurd ha List.not_mem_nil
  | a :: l, acc, honly, h => by
      rw [List.filterAuxM]
      cases hf : f a with
      | error e' =>
          rw [honly a List.mem_cons_self e' hf]
          rfl
      | ok keep =>
          refine filterAuxM_of_error (fun b hb => honly b (List.mem_cons_of_mem a hb)) ?_
          obtain ⟨b, hb, hfb⟩ := h
          rcases List.mem_cons.mp hb with rfl | hb
          · rw [hf] at hfb
            exact nomatch hfb
          · exact ⟨b, hb, hfb⟩

theorem filterM_of_error {e : ε} {l : List α} (honly : ∀ a ∈ l, ∀ e', f a = .error e' → e' = e)
    (h : ∃ a ∈ l, f a = .error e) : l.filterM f = .error e := by
  rw [List.filterM, filterAuxM_of_error honly h]
  rfl

end

namespace Disk

/-! ## Documents of a tree -/

/-- Below the directory that is found at the root, the names lead to a document. -/
def LeadsToDocument (d : Disk) (root : Path) (entries : List (Segment × Node))
    (names : Location) : Prop :=
  ∃ node, Node.Reaches entries names node ∧
    ((∃ bytes, node = .file bytes) ∨
      (∃ target, node = .link target) ∧ ∃ bytes, d.find (root.below names) = .ok (.file bytes))

/-- Something below the root cannot be looked at. -/
def ScanFaults (d : Disk) (root : Path) (entries : List (Segment × Node)) : Prop :=
  ∃ names node fault, Node.Reaches entries names node ∧
    d.look (root.below names) = .error fault

/-- These are the documents below the root, in order. -/
structure Exact (d : Disk) (root : Path) (entries : List (Segment × Node))
    (docs : List Document) : Prop where
  mem_iff : ∀ doc, doc ∈ docs ↔ ∃ names, d.LeadsToDocument root entries names ∧
    doc = ⟨root.below names⟩
  nodup : docs.Nodup
  nonempty : docs ≠ []
  sorted : (docs.map Document.path).Pairwise Path.Comes

variable {d : Disk} {root p : Path} {entries : List (Segment × Node)}

/-! ## Testing for files -/

theorem isFile_eq_error_iff {fault : AccessFault} :
    d.isFile p = .error fault ↔ d.look p = .error fault := by
  rw [isFile]
  cases d.look p <;> simp [Except.map]

theorem isFile_eq_true_iff : d.isFile p = .ok true ↔ ∃ bytes, d.find p = .ok (.file bytes) := by
  rw [isFile, look]
  cases d.find p with
  | error f => cases f <;> simp [AccessFault.isAbsence, Except.map]
  | ok node => cases node <;> simp [Except.map]

/-- What the test says where it gives an answer. -/
def passes (d : Disk) (p : Path) : Bool := (d.isFile p).toOption.getD false

theorem isFile_eq_passes (hok : ∀ fault, d.look p ≠ .error fault) :
    d.isFile p = .ok (d.passes p) := by
  rw [passes]
  cases h : d.isFile p with
  | ok keep => rfl
  | error fault => exact absurd (isFile_eq_error_iff.mp h) (hok fault)

/-- Where looking does not fail, what is found to be a file is a document.  A file of the tree may
only be out of reach, and a directory is never taken for a file. -/
theorem isFile_below_iff (hroot : d.find root = .ok (.directory entries)) {names : Location}
    (hsome : ∃ node, Node.Reaches entries names node)
    (hok : ∀ fault, d.look (root.below names) ≠ .error fault) :
    d.isFile (root.below names) = .ok true ↔ d.LeadsToDocument root entries names := by
  have hfound {node : Node} (hr : Node.Reaches entries names node)
      (hnode : ∀ target, node ≠ .link target) : d.find (root.below names) = .ok node := by
    refine (find_below hroot hr hnode).resolve_right fun h => hok .nameTooLong ?_
    rw [look, h]
    rfl
  rw [isFile_eq_true_iff]
  constructor
  · rintro ⟨bytes, hfile⟩
    obtain ⟨node, hr⟩ := hsome
    refine ⟨node, hr, ?_⟩
    cases node with
    | file bytes => exact .inl ⟨bytes, rfl⟩
    | link target => exact .inr ⟨⟨target, rfl⟩, bytes, hfile⟩
    | directory inner =>
        have hnode : ∀ target, Node.directory inner ≠ .link target := by
          rintro target ⟨⟩
        rw [hfound hr hnode] at hfile
        cases hfile
  · rintro ⟨node, hr, ⟨bytes, rfl⟩ | ⟨-, bytes, h⟩⟩
    · have hnode : ∀ target, Node.file bytes ≠ .link target := by
        rintro target ⟨⟩
      exact ⟨bytes, hfound hr hnode⟩
    · exact ⟨bytes, h⟩

/-! ## Scanning -/

theorem scanFaults_iff :
    d.ScanFaults root entries ↔
      ∃ p ∈ (Node.entriesDescendants entries).map root.below, d.isFile p = .error .nameTooLong := by
  constructor
  · rintro ⟨names, node, fault, hr, hlook⟩
    have hmem := Node.mem_entriesDescendants_iff.mpr ⟨node, hr⟩
    rw [look_eq_error hlook] at hlook
    exact ⟨_, List.mem_map_of_mem hmem, isFile_eq_error_iff.mpr hlook⟩
  · rintro ⟨p, hp, hfault⟩
    obtain ⟨names, hmem, rfl⟩ := List.mem_map.mp hp
    obtain ⟨node, hr⟩ := Node.mem_entriesDescendants_iff.mp hmem
    exact ⟨names, node, .nameTooLong, hr, isFile_eq_error_iff.mp hfault⟩

theorem filesBelow_of_scanFaults (h : d.ScanFaults root entries) :
    d.filesBelow root entries = .error .nameTooLong := by
  refine filterM_of_error (fun p _ fault hfault => ?_) (scanFaults_iff.mp h)
  exact look_eq_error (isFile_eq_error_iff.mp hfault)

theorem filesBelow_of_not_scanFaults (hroot : d.find root = .ok (.directory entries))
    (h : ¬ d.ScanFaults root entries) :
    ∃ files, d.filesBelow root entries = .ok files ∧ files.Nodup ∧
      ∀ p, p ∈ files ↔ ∃ names, d.LeadsToDocument root entries names ∧ p = root.below names := by
  have htidy : Node.entriesTidy entries = true := by
    obtain ⟨place, -, hat⟩ := find_eq_ok_iff.mp hroot
    exact Node.isTidy_of_at? d.isTidy hat
  have hok {names : Location} (hsome : ∃ node, Node.Reaches entries names node)
      (fault : AccessFault) : d.look (root.below names) ≠ .error fault := by
    obtain ⟨node, hr⟩ := hsome
    exact fun hlook => h ⟨names, node, fault, hr, hlook⟩
  have htest {p : Path} (hp : p ∈ (Node.entriesDescendants entries).map root.below) :
      d.isFile p = .ok (d.passes p) := by
    obtain ⟨names, hmem, rfl⟩ := List.mem_map.mp hp
    exact isFile_eq_passes (hok (Node.mem_entriesDescendants_iff.mp hmem))
  refine ⟨_, filterM_of_ok fun p hp => htest hp, ?_, fun p => ?_⟩
  · refine List.Pairwise.filter _ (List.Pairwise.map _ ?_ (Node.nodup_entriesDescendants htidy))
    exact fun a b hab h => hab (root.below_injective h)
  · -- membership is asked of a path, reaching of its names, so both are needed in each direction
    rw [List.mem_filter]
    constructor
    · rintro ⟨hp, hpass⟩
      have hfile := htest hp
      obtain ⟨names, hmem, rfl⟩ := List.mem_map.mp hp
      have hsome := Node.mem_entriesDescendants_iff.mp hmem
      rw [hpass] at hfile
      exact ⟨names, (isFile_below_iff hroot hsome (hok hsome)).mp hfile, rfl⟩
    · rintro ⟨names, hdoc, rfl⟩
      have hsome : ∃ node, Node.Reaches entries names node := by
        obtain ⟨node, hr, -⟩ := hdoc
        exact ⟨node, hr⟩
      have hp : root.below names ∈ (Node.entriesDescendants entries).map root.below :=
        List.mem_map_of_mem (Node.mem_entriesDescendants_iff.mpr hsome)
      have hfile := (isFile_below_iff hroot hsome (hok hsome)).mpr hdoc
      rw [htest hp] at hfile
      exact ⟨hp, Except.ok.inj hfile⟩

/-! ## Discovering -/

theorem discover_file {bytes : List UInt8} (h : d.find root = .ok (.file bytes)) :
    d.discover root = .ok (.single ⟨root⟩) := by
  rw [discover, look_eq_of_find h]

theorem discover_of_scanFaults (hroot : d.find root = .ok (.directory entries))
    (h : d.ScanFaults root entries) :
    d.discover root = .error (.scanFailed root .nameTooLong) := by
  rw [discover, look_eq_of_find hroot]
  dsimp only
  rw [filesBelow_of_scanFaults h]

theorem discover_of_noDocuments (hroot : d.find root = .ok (.directory entries))
    (h : ¬ d.ScanFaults root entries)
    (hnone : ¬ ∃ names, d.LeadsToDocument root entries names) :
    d.discover root = .error (.noDocumentsIn root) := by
  obtain ⟨files, hfiles, -, hmem⟩ := filesBelow_of_not_scanFaults hroot h
  have hempty : files = [] := by
    refine List.eq_nil_iff_forall_not_mem.mpr fun p hp => hnone ?_
    obtain ⟨names, hdoc, -⟩ := (hmem p).mp hp
    exact ⟨names, hdoc⟩
  rw [discover, look_eq_of_find hroot]
  dsimp only
  rw [hfiles, hempty]

theorem discover_of_documents (hroot : d.find root = .ok (.directory entries))
    (h : ¬ d.ScanFaults root entries) (hsome : ∃ names, d.LeadsToDocument root entries names) :
    ∃ docs, d.discover root = .ok (.below root docs) ∧ d.Exact root entries docs := by
  obtain ⟨files, hfiles, hnodup, hmem⟩ := filesBelow_of_not_scanFaults hroot h
  obtain ⟨names, hdoc⟩ := hsome
  have hfirst : root.below names ∈ files := (hmem _).mpr ⟨names, hdoc, rfl⟩
  refine ⟨(files.mergeSort Path.atMost).map Document.mk, ?_, ?_⟩
  · rw [discover, look_eq_of_find hroot]
    dsimp only
    rw [hfiles]
    cases files with
    | nil => exact absurd hfirst List.not_mem_nil
    | cons p files => rfl
  · have hbelow : ∀ p ∈ files, ∃ names, p = root.below names := by
      intro p hp
      obtain ⟨names, -, rfl⟩ := (hmem p).mp hp
      exact ⟨names, rfl⟩
    refine ⟨fun doc => ?_, ?_, ?_, ?_⟩
    · rw [List.mem_map]
      constructor
      · rintro ⟨p, hp, rfl⟩
        obtain ⟨names, hdoc, rfl⟩ := (hmem p).mp (List.mem_mergeSort.mp hp)
        exact ⟨names, hdoc, rfl⟩
      · rintro ⟨names, hdoc, rfl⟩
        exact ⟨_, List.mem_mergeSort.mpr ((hmem _).mpr ⟨names, hdoc, rfl⟩), rfl⟩
    · have hsorted := (List.mergeSort_perm files Path.atMost).symm.nodup hnodup
      exact List.Pairwise.map _ (fun p q hpq h => hpq (Document.mk.inj h)) hsorted
    · intro hnil
      have hfirst : root.below names ∈ files.mergeSort Path.atMost := List.mem_mergeSort.mpr hfirst
      rw [List.map_eq_nil_iff.mp hnil] at hfirst
      exact absurd hfirst List.not_mem_nil
    · rw [List.map_map]
      have hsame : Document.path ∘ Document.mk = id := rfl
      rw [hsame, List.map_id]
      exact Path.pairwise_comes_mergeSort root hnodup hbelow

theorem discover_directory (hroot : d.find root = .ok (.directory entries)) :
    d.ScanFaults root entries ∧ d.discover root = .error (.scanFailed root .nameTooLong) ∨
      ¬ d.ScanFaults root entries ∧ (¬ ∃ names, d.LeadsToDocument root entries names) ∧
        d.discover root = .error (.noDocumentsIn root) ∨
      ¬ d.ScanFaults root entries ∧ (∃ names, d.LeadsToDocument root entries names) ∧
        ∃ docs, d.discover root = .ok (.below root docs) ∧ d.Exact root entries docs := by
  by_cases hfaults : d.ScanFaults root entries
  · exact .inl ⟨hfaults, discover_of_scanFaults hroot hfaults⟩
  · by_cases hsome : ∃ names, d.LeadsToDocument root entries names
    · exact .inr (.inr ⟨hfaults, hsome, discover_of_documents hroot hfaults hsome⟩)
    · exact .inr (.inl ⟨hfaults, hsome, discover_of_noDocuments hroot hfaults hsome⟩)

/-- What is discovered is a file or what is below a directory, and never nothing. -/
theorem discover_eq_ok {found : Discovered} (h : d.discover root = .ok found) :
    found.documents ≠ [] ∧
      ((∃ bytes, d.find root = .ok (.file bytes) ∧ found.documents = [⟨root⟩]) ∨
        ∃ entries, d.find root = .ok (.directory entries) ∧
          d.Exact root entries found.documents) := by
  cases hroot : d.find root with
  | error f =>
      rw [discover, look, hroot] at h
      cases f <;> cases h
  | ok node =>
      cases node with
      | link target =>
          rw [discover, look_eq_of_find hroot] at h
          cases h
      | file bytes =>
          rw [discover_file hroot] at h
          cases h
          exact ⟨List.cons_ne_nil _ _, .inl ⟨bytes, rfl, rfl⟩⟩
      | directory entries =>
          rcases discover_directory hroot with
            ⟨-, hfault⟩ | ⟨-, -, hfault⟩ | ⟨-, ⟨names, hdoc⟩, docs, hdocs, hexact⟩
          · cases hfault.symm.trans h
          · cases hfault.symm.trans h
          · cases hdocs.symm.trans h
            refine ⟨fun hnil => ?_, .inr ⟨entries, rfl, hexact⟩⟩
            have hmem := (hexact.mem_iff _).mpr ⟨names, hdoc, rfl⟩
            rw [show docs = [] from hnil] at hmem
            exact List.not_mem_nil hmem

theorem not_scanFaults_of_discover {found : Discovered}
    (hroot : d.find root = .ok (.directory entries)) (h : d.discover root = .ok found) :
    ¬ d.ScanFaults root entries := by
  intro hfaults
  cases (discover_of_scanFaults hroot hfaults).symm.trans h

/-- Where everything can be looked at, what names reach is found there, if it is no link. -/
theorem find_of_reaches (hroot : d.find root = .ok (.directory entries))
    (h : ¬ d.ScanFaults root entries) {names : Location} {node : Node}
    (hr : Node.Reaches entries names node) (hnode : ∀ target, node ≠ .link target) :
    d.find (root.below names) = .ok node := by
  refine (find_below hroot hr hnode).resolve_right fun hlong => h ?_
  refine ⟨names, node, .nameTooLong, hr, ?_⟩
  rw [look, hlong]
  rfl

theorem find_of_mem_documents {found : Discovered} (h : d.discover root = .ok found)
    {doc : Document} (hdoc : doc ∈ found.documents) :
    ∃ bytes, d.find doc.path = .ok (.file bytes) := by
  obtain ⟨-, ⟨bytes, hfile, hdocs⟩ | ⟨entries, hroot, hexact⟩⟩ := discover_eq_ok h
  · rw [hdocs] at hdoc
    obtain rfl := List.mem_singleton.mp hdoc
    exact ⟨bytes, hfile⟩
  · obtain ⟨names, ⟨node, hr, ⟨bytes, rfl⟩ | ⟨-, bytes, hfile⟩⟩, rfl⟩ :=
      (hexact.mem_iff doc).mp hdoc
    · have hnode : ∀ target, Node.file bytes ≠ .link target := by
        rintro target ⟨⟩
      exact ⟨bytes, find_of_reaches hroot (not_scanFaults_of_discover hroot h) hr hnode⟩
    · exact ⟨bytes, hfile⟩

theorem Exact.unique {docs others : List Document} (h : d.Exact root entries docs)
    (h' : d.Exact root entries others) : docs = others := by
  have hpaths : docs.map Document.path = others.map Document.path := by
    refine Path.eq_of_pairwise_comes h.sorted h'.sorted fun p => ?_
    have hmem {docs : List Document} : p ∈ docs.map Document.path ↔ ⟨p⟩ ∈ docs := by
      rw [List.mem_map]
      exact ⟨fun ⟨_, hdoc, hp⟩ => hp ▸ hdoc, fun hdoc => ⟨_, hdoc, rfl⟩⟩
    rw [hmem, hmem, h.mem_iff, h'.mem_iff]
  have hdocs := congrArg (List.map Document.mk) hpaths
  rw [List.map_map, List.map_map] at hdocs
  have hsame : Document.mk ∘ Document.path = id := rfl
  rwa [hsame, List.map_id, List.map_id] at hdocs

/-! ## The order of entries -/

section
variable {d' : Disk} {more : List (Segment × Node)}

theorem Alike.symm (h : d.Alike d') : d'.Alike d := ⟨h.top.symm, h.here.symm⟩

theorem Alike.find_file (h : d.Alike d') {bytes : List UInt8}
    (hfile : d.find p = .ok (.file bytes)) : d'.find p = .ok (.file bytes) := by
  have hfind := h.find p
  rw [hfile] at hfind
  cases hp : d'.find p with
  | error f =>
      rw [hp] at hfind
      exact nomatch hfind
  | ok node =>
      rw [hp] at hfind
      rw [Node.eq_file_of_outline (Except.ok.inj hfind).symm]

theorem Alike.look_error (h : d.Alike d') {fault : AccessFault} (hlook : d.look p = .error fault) :
    d'.look p = .error fault := by
  have hfind := h.find p
  rw [look] at hlook ⊢
  cases hp : d.find p with
  | ok node =>
      rw [hp] at hlook
      cases hlook
  | error f =>
      cases hp' : d'.find p with
      | ok node =>
          rw [hp, hp'] at hfind
          cases hfind
      | error f' =>
          rw [hp, hp'] at hfind
          rw [hp, Except.error.inj hfind] at hlook
          exact hlook

theorem Alike.reaches (h : d.Alike d') (hroot : d.find root = .ok (.directory entries))
    (hroot' : d'.find root = .ok (.directory more)) {names : Location} {node : Node}
    (hr : Node.Reaches entries names node) :
    ∃ other, Node.Reaches more names other ∧ other.outline = node.outline := by
  obtain ⟨place, hplace, hat⟩ := find_eq_ok_iff.mp hroot
  obtain ⟨place', hplace', hat'⟩ := find_eq_ok_iff.mp hroot'
  rw [← h.locate root, hplace] at hplace'
  cases hplace'
  have htidy := Node.isTidy_of_at? d.isTidy hat
  have htidy' := Node.isTidy_of_at? d'.isTidy hat'
  obtain ⟨hne, hnames⟩ := (Node.reaches_iff_at? htidy).mp hr
  have hthere : d.top.at? (place ++ names) = some node := by
    rw [Node.at?_append, hat, Option.bind_some, hnames]
  obtain ⟨other, hother, hout⟩ := h.top.at? hthere
  rw [Node.at?_append, hat', Option.bind_some] at hother
  exact ⟨other, (Node.reaches_iff_at? htidy').mpr ⟨hne, hother⟩, hout⟩

theorem Alike.scanFaults (h : d.Alike d') (hroot : d.find root = .ok (.directory entries))
    (hroot' : d'.find root = .ok (.directory more)) (hf : d.ScanFaults root entries) :
    d'.ScanFaults root more := by
  obtain ⟨names, node, fault, hr, hlook⟩ := hf
  obtain ⟨other, hr', -⟩ := h.reaches hroot hroot' hr
  exact ⟨names, other, fault, hr', h.look_error hlook⟩

theorem Alike.leadsToDocument (h : d.Alike d') (hroot : d.find root = .ok (.directory entries))
    (hroot' : d'.find root = .ok (.directory more)) {names : Location}
    (hdoc : d.LeadsToDocument root entries names) : d'.LeadsToDocument root more names := by
  obtain ⟨node, hr, hdoc⟩ := hdoc
  obtain ⟨other, hr', hout⟩ := h.reaches hroot hroot' hr
  refine ⟨other, hr', ?_⟩
  rcases hdoc with ⟨bytes, rfl⟩ | ⟨⟨target, rfl⟩, bytes, hfile⟩
  · exact .inl ⟨bytes, Node.eq_file_of_outline hout⟩
  · exact .inr ⟨⟨target, Node.eq_link_of_outline hout⟩, bytes, h.find_file hfile⟩

theorem Alike.exact (h : d.Alike d') (hroot : d.find root = .ok (.directory entries))
    (hroot' : d'.find root = .ok (.directory more)) {docs : List Document}
    (hexact : d.Exact root entries docs) : d'.Exact root more docs where
  mem_iff doc := by
    rw [hexact.mem_iff]
    constructor
    · rintro ⟨names, hdoc, rfl⟩
      exact ⟨names, h.leadsToDocument hroot hroot' hdoc, rfl⟩
    · rintro ⟨names, hdoc, rfl⟩
      exact ⟨names, h.symm.leadsToDocument hroot' hroot hdoc, rfl⟩
  nodup := hexact.nodup
  nonempty := hexact.nonempty
  sorted := hexact.sorted

theorem Alike.discover_below (h : d.Alike d') (hroot : d.find root = .ok (.directory entries))
    (hroot' : d'.find root = .ok (.directory more)) : d'.discover root = d.discover root := by
  by_cases hfaults : d.ScanFaults root entries
  · rw [discover_of_scanFaults hroot hfaults,
      discover_of_scanFaults hroot' (h.scanFaults hroot hroot' hfaults)]
  · have hfaults' : ¬ d'.ScanFaults root more := fun hf =>
      hfaults (h.symm.scanFaults hroot' hroot hf)
    by_cases hsome : ∃ names, d.LeadsToDocument root entries names
    · have hsome' : ∃ names, d'.LeadsToDocument root more names := by
        obtain ⟨names, hdoc⟩ := hsome
        exact ⟨names, h.leadsToDocument hroot hroot' hdoc⟩
      obtain ⟨docs, hdocs, hexact⟩ := discover_of_documents hroot hfaults hsome
      obtain ⟨docs', hdocs', hexact'⟩ := discover_of_documents hroot' hfaults' hsome'
      rw [hdocs, hdocs', hexact'.unique (h.exact hroot hroot' hexact)]
    · have hsome' : ¬ ∃ names, d'.LeadsToDocument root more names := by
        rintro ⟨names, hdoc⟩
        exact hsome ⟨names, h.symm.leadsToDocument hroot' hroot hdoc⟩
      rw [discover_of_noDocuments hroot hfaults hsome,
        discover_of_noDocuments hroot' hfaults' hsome']

/-- Discovery does not depend on the order in which directories list their entries. -/
theorem Alike.discover (h : d.Alike d') (root : Path) : d'.discover root = d.discover root := by
  have hfind := h.find root
  cases hroot : d.find root with
  | error f =>
      cases hroot' : d'.find root with
      | error f' =>
          rw [hroot, hroot'] at hfind
          rw [Disk.discover, Disk.discover, look, look, hroot, hroot', Except.error.inj hfind]
          cases f' <;> rfl
      | ok other =>
          rw [hroot, hroot'] at hfind
          cases hfind
  | ok node =>
      cases hroot' : d'.find root with
      | error f' =>
          rw [hroot, hroot'] at hfind
          cases hfind
      | ok other =>
          rw [hroot, hroot'] at hfind
          have hout : other.outline = node.outline := (Except.ok.inj hfind).symm
          cases node with
          | file bytes =>
              rw [Node.eq_file_of_outline hout] at hroot'
              rw [discover_file hroot, discover_file hroot']
          | link target =>
              rw [Node.eq_link_of_outline hout] at hroot'
              rw [Disk.discover, Disk.discover, look_eq_of_find hroot, look_eq_of_find hroot']
          | directory entries =>
              obtain ⟨more, rfl⟩ := Node.eq_directory_of_outline hout
              exact h.discover_below hroot hroot'

end

/-! ## Exactness -/

/-- What is discovered at a root.  Below a directory it is exactly the documents, in order and each
once; where there are none it is a fault that says so; and a file is the one document at its root.
It is the same however directories list their entries. -/
theorem discover_exact (d : Disk) (root : Path) :
    (∀ entries, d.find root = .ok (.directory entries) →
      (∀ found, d.discover root = .ok found →
        ∃ docs, found = .below root docs ∧ d.Exact root entries docs) ∧
      ((∃ found, d.discover root = .ok found) ↔
        ¬ d.ScanFaults root entries ∧ ∃ names, d.LeadsToDocument root entries names) ∧
      (¬ d.ScanFaults root entries → (¬ ∃ names, d.LeadsToDocument root entries names) →
        ∃ fault, d.discover root = .error fault ∧ fault.family? = some .documentResolution ∧
          fault.message = "No documents found in: " ++ root.text)) ∧
    (∀ bytes, d.find root = .ok (.file bytes) → d.discover root = .ok (.single ⟨root⟩)) ∧
    ∀ d', d.Alike d' → d'.discover root = d.discover root := by
  refine ⟨fun entries hroot => ?_, fun _ => discover_file, fun d' h => h.discover root⟩
  rcases discover_directory hroot with ⟨hfaults, h⟩ | ⟨hfaults, hnone, h⟩ |
    ⟨hfaults, hsome, docs, h, hexact⟩
  · rw [h]
    refine ⟨fun _ hfound => (nomatch hfound), ?_, fun hok => absurd hfaults hok⟩
    exact ⟨fun ⟨_, hfound⟩ => (nomatch hfound), fun hok => absurd hfaults hok.1⟩
  · rw [h]
    refine ⟨fun _ hfound => (nomatch hfound), ?_, fun _ _ => ⟨_, rfl, rfl, rfl⟩⟩
    exact ⟨fun ⟨_, hfound⟩ => (nomatch hfound), fun hok => absurd hok.2 hnone⟩
  · rw [h]
    refine ⟨fun found hfound => ?_, ?_, fun _ hnone => absurd hsome hnone⟩
    · exact ⟨docs, (Except.ok.inj hfound).symm, hexact⟩
    · exact ⟨fun _ => ⟨hfaults, hsome⟩, fun _ => ⟨_, rfl⟩⟩

/-! ## A tree with links -/

/-- A file, a directory with a file, a link to a file and a link that leads back. -/
def linkedEntries : List (Segment × Node) :=
  [(⟨"a b", by decide⟩, .file []), (⟨"l", by decide⟩, .link "a/b"),
    (⟨"a", by decide⟩, .directory [(⟨"b", by decide⟩, .file [])]),
    (⟨"back", by decide⟩, .link "a/..")]

/-- The disk on which these are in the directory that one is in. -/
def linkedDisk : Disk := ⟨.directory linkedEntries, [], by decide⟩

/-- The same disk, with the entries in the opposite order. -/
def reversedDisk : Disk := ⟨.directory linkedEntries.reverse, [], by decide⟩

theorem linkedDisk_alike : linkedDisk.Alike reversedDisk where
  top := Node.alike_of_perm linkedDisk.isTidy linkedEntries.reverse_perm.symm
  here := rfl

theorem linkedDisk_discover :
    (∃ docs, linkedDisk.discover (.parse ".") = .ok (.below (.parse ".") docs) ∧
      linkedDisk.Exact (.parse ".") linkedEntries docs) ∧
    reversedDisk.discover (.parse ".") = linkedDisk.discover (.parse ".") ∧
    linkedDisk.discover (.parse "a/b") = .ok (.single ⟨.parse "a/b"⟩) := by
  obtain ⟨hbelow, -, horder⟩ := discover_exact linkedDisk (.parse ".")
  refine ⟨?_, horder reversedDisk linkedDisk_alike, ?_⟩
  · have hreturns : ∃ found, linkedDisk.discover (.parse ".") = .ok found := ⟨_, rfl⟩
    obtain ⟨found, h⟩ := hreturns
    obtain ⟨docs, rfl, hexact⟩ := (hbelow linkedEntries rfl).1 found h
    exact ⟨docs, h, hexact⟩
  · exact (discover_exact linkedDisk (.parse "a/b")).2.1 [] rfl

end Disk

end TemplateRun
