/-
# `Walk` — where walks lead

A walk goes on from where its first part has led, with the links that are left (`walk_append`).  So
below a path that leads to a directory one can walk on by names, and without meeting a link the
walk leads to what the names reach, unless a name or the whole path is too long (`find_below`).
That is the only fault which a walk can end in (`Strays`) and which is not just the absence of what
was looked for (`look_eq_error`).

Where a walk leads depends only on what is at each location and not on the order of entries
(`walk_alike`), and so does what a path is found to lead to (`Disk.Alike.find`).
-/
import TemplateRun.Disk.Lookup
import TemplateRun.Proofs.Disk.Tree
import TemplateRun.Proofs.Path.Text

namespace TemplateRun

/-! ## Walks in parts -/

section
variable {top : Node} {follow : Location → List Component → Except AccessFault Location}

/-- The induction is on the steps of the first part; a link hands the rest over to `follow`. -/
theorem walkWith_append (budget : Nat) (hbudget : walkWith follow top = walk top budget)
    {there : Location}
    (hfollow : ∀ here steps, follow here steps = .ok there →
      ∃ left, ∀ back, follow here (steps ++ back) = walk top left there back) :
    ∀ {front : List Component} {here : Location}, walkWith follow top here front = .ok there →
      ∃ left, ∀ back, walkWith follow top here (front ++ back) = walk top left there back := by
  intro front
  induction front with
  | nil =>
      intro here h
      cases h
      exact ⟨budget, fun back => by rw [hbudget, List.nil_append]⟩
  | cons step rest ih =>
      intro here h
      simp only [List.cons_append, walkWith] at h ⊢
      split at h
      · next entries hat =>
          cases step with
          | stay => exact ih h
          | up => exact ih h
          | name s =>
              simp only at h ⊢
              by_cases hlong : nameLimit < s.text.utf8ByteSize
              · rw [if_pos hlong] at h
                exact nomatch h
              · simp only [if_neg hlong] at h ⊢
                match hs : entries.lookup s with
                | none =>
                    rw [hs] at h
                    exact nomatch h
                | some (.link target) =>
                    -- the walk goes over to the target, with `rest` behind it: no longer `ih`
                    simp only [hs, ← List.append_assoc] at h ⊢
                    exact hfollow _ _ h
                | some (.file _) =>
                    simp only [hs] at h ⊢
                    exact ih h
                | some (.directory _) =>
                    simp only [hs] at h ⊢
                    exact ih h
      · exact nomatch h

end

theorem walk_append (top : Node) (links : Nat) {here there : Location} {front : List Component}
    (h : walk top links here front = .ok there) :
    ∃ left, ∀ back, walk top links here (front ++ back) = walk top left there back := by
  induction links generalizing here front with
  | zero => exact walkWith_append 0 rfl (fun _ _ h => nomatch h) h
  | succ links ih => exact walkWith_append (links + 1) rfl (fun _ _ h => ih h) h

/-! ## Walks by names -/

theorem ofSegment_eq_name {s : Segment} (h : s ≠ Segment.up) : Component.ofSegment s = .name s :=
  if_neg h

section
variable {top : Node} {follow : Location → List Component → Except AccessFault Location}
  {entries : List (Segment × Node)} {here : Location}

theorem walkWith_name (follow : Location → List Component → Except AccessFault Location)
    (hhere : top.at? here = some (.directory entries)) {name : Segment}
    {node : Node} (hlookup : entries.lookup name = some node)
    (hnode : ∀ target, node ≠ .link target) (rest : List Component) :
    walkWith follow top here (.name name :: rest) = walkWith follow top (here ++ [name]) rest ∨
      walkWith follow top here (.name name :: rest) = .error .nameTooLong := by
  simp only [walkWith, hhere]
  by_cases hlong : nameLimit < name.text.utf8ByteSize
  · rw [if_pos hlong]
    exact .inr rfl
  · rw [if_neg hlong, hlookup]
    cases node with
    | file _ => exact .inl rfl
    | link target => exact absurd rfl (hnode target)
    | directory _ => exact .inl rfl

theorem at?_entry (hhere : top.at? here = some (.directory entries)) (name : Segment) :
    top.at? (here ++ [name]) = entries.lookup name := by
  rw [Node.at?_append, hhere]
  show (entries.lookup name).bind _ = entries.lookup name
  cases entries.lookup name <;> rfl

theorem walkWith_names {names : Location} {node : Node} (hr : Node.Reaches entries names node)
    (htidy : Node.entriesTidy entries = true) (hnode : ∀ target, node ≠ .link target)
    (hhere : top.at? here = some (.directory entries)) :
    walkWith follow top here (names.map Component.ofSegment) = .ok (here ++ names) ∨
      walkWith follow top here (names.map Component.ofSegment) = .error .nameTooLong := by
  induction hr generalizing here with
  | here hmem =>
      have hlookup := (Node.lookup_eq_some_iff htidy _ _).mpr hmem
      rw [List.map_cons, ofSegment_eq_name (Node.entry_of_entriesTidy htidy hmem).1]
      exact walkWith_name follow hhere hlookup hnode []
  | @inside entries inner name names node hmem hr ih =>
      obtain ⟨hup, -, hinner⟩ := Node.entry_of_entriesTidy htidy hmem
      have hlookup := (Node.lookup_eq_some_iff htidy _ _).mpr hmem
      have hnext : top.at? (here ++ [name]) = some (.directory inner) := by
        rw [at?_entry hhere, hlookup]
      rw [List.map_cons, ofSegment_eq_name hup]
      rcases walkWith_name follow hhere hlookup (fun _ h => nomatch h)
        (names.map Component.ofSegment) with h | h
      · rw [h, List.append_cons here name names]
        exact ih hinner hnode hnext
      · exact .inr h

end

/-- Where no link is met, names lead where they reach, if none is too long. -/
theorem walk_names {top : Node} {entries : List (Segment × Node)} {names : Location} {node : Node}
    (hr : Node.Reaches entries names node) (htidy : Node.entriesTidy entries = true)
    (hnode : ∀ target, node ≠ .link target) (links : Nat) {here : Location}
    (hhere : top.at? here = some (.directory entries)) :
    walk top links here (names.map Component.ofSegment) = .ok (here ++ names) ∨
      walk top links here (names.map Component.ofSegment) = .error .nameTooLong := by
  cases links with
  | zero => exact walkWith_names hr htidy hnode hhere
  | succ links => exact walkWith_names hr htidy hnode hhere

/-! ## Faults of a walk -/

/-- The faults that a walk can end in.  Walking opens nothing, so it never finds a directory in a
file's place. -/
inductive Strays : AccessFault → Prop
  | notFound : Strays .notFound
  | notDirectory : Strays .notDirectory
  | nameTooLong : Strays .nameTooLong
  | tooManyLinks : Strays .tooManyLinks

theorem walkWith_strays {top : Node}
    {follow : Location → List Component → Except AccessFault Location}
    (hfollow : ∀ here steps f, follow here steps = .error f → Strays f) :
    ∀ (steps : List Component) (here : Location) {f : AccessFault},
      walkWith follow top here steps = .error f → Strays f
  | [], _, _ => fun h => nomatch h
  | step :: rest, here, f => by
      rw [walkWith]
      split
      · next entries _ =>
          cases step with
          | stay => exact walkWith_strays hfollow rest here
          | up => exact walkWith_strays hfollow rest here.dropLast
          | name s =>
              show (if _ then _ else _) = _ → _
              split
              · rintro ⟨⟩
                exact .nameTooLong
              · split
                · rintro ⟨⟩
                  exact .notFound
                · exact hfollow _ _ f
                · exact walkWith_strays hfollow rest (here ++ [s])
      · rintro ⟨⟩
        exact .notDirectory

theorem walk_strays (top : Node) : ∀ (links : Nat) (here : Location) (steps : List Component)
    (f : AccessFault), walk top links here steps = .error f → Strays f
  | 0, here, steps, _ => by
      refine walkWith_strays (fun _ _ _ h => ?_) steps here
      cases h
      exact .tooManyLinks
  | links + 1, here, steps, _ => walkWith_strays (walk_strays top links) steps here

namespace Disk

variable {d : Disk} {p : Path}

theorem locate_eq_ok {place : Location} (h : d.locate p = .ok place) :
    '\x00' ∉ p.text.toList ∧ p.text.utf8ByteSize < pathLimit ∧
      walk d.top linkLimit (if p.root = .relative then d.here else [])
        (p.segments.map Component.ofSegment) = .ok place := by
  rw [locate] at h
  split at h
  · exact nomatch h
  · next hnul =>
      split at h
      · exact nomatch h
      · next hlimit => exact ⟨hnul, Nat.lt_of_not_le hlimit, h⟩

theorem locate_eq_error {f : AccessFault} (h : d.locate p = .error f) :
    '\x00' ∈ p.text.toList ∧ f = .embeddedNul ∨ '\x00' ∉ p.text.toList ∧ Strays f := by
  rw [locate] at h
  split at h
  · next hnul =>
      cases h
      exact .inl ⟨hnul, rfl⟩
  · next hnul =>
      refine .inr ⟨hnul, ?_⟩
      split at h
      · cases h
        exact .nameTooLong
      · exact walk_strays _ _ _ _ _ h

theorem find_eq : d.find p =
    match d.locate p with
    | .error f => .error f
    | .ok place =>
      match d.top.at? place with
      | some node => .ok node
      | none => .error .notFound := by
  rw [find]
  cases d.locate p with
  | error f => rfl
  | ok place => cases d.top.at? place <;> rfl

theorem find_eq_ok_iff {node : Node} :
    d.find p = .ok node ↔ ∃ place, d.locate p = .ok place ∧ d.top.at? place = some node := by
  rw [find_eq]
  cases d.locate p with
  | error f => simp
  | ok place => cases hat : d.top.at? place <;> simp [hat]

theorem find_eq_error {f : AccessFault} (h : d.find p = .error f) :
    '\x00' ∈ p.text.toList ∧ f = .embeddedNul ∨ '\x00' ∉ p.text.toList ∧ Strays f := by
  rw [find_eq] at h
  cases hplace : d.locate p with
  | error g =>
      rw [hplace] at h
      cases h
      exact locate_eq_error hplace
  | ok place =>
      obtain ⟨hnul, -, -⟩ := locate_eq_ok hplace
      rw [hplace] at h
      dsimp only at h
      split at h
      · cases h
      · cases h
        exact .inr ⟨hnul, .notFound⟩

theorem find_ne_isDirectory : d.find p ≠ .error .isDirectory := by
  intro h
  rcases find_eq_error h with ⟨-, hf⟩ | ⟨-, hf⟩ <;> cases hf

theorem look_eq_of_find {node : Node} (h : d.find p = .ok node) : d.look p = .ok (some node) := by
  rw [look, h]

theorem look_eq_error {f : AccessFault} (h : d.look p = .error f) : f = .nameTooLong := by
  rw [look] at h
  split at h
  · exact nomatch h
  · next fault hfind =>
      split at h
      · exact nomatch h
      · next habsence =>
          cases h
          cases f with
          | nameTooLong => rfl
          | isDirectory => exact absurd hfind find_ne_isDirectory
          | notFound => exact absurd rfl habsence
          | notDirectory => exact absurd rfl habsence
          | tooManyLinks => exact absurd rfl habsence
          | embeddedNul => exact absurd rfl habsence

/-! ## Below a directory -/

/-- Below a path that leads to a directory, what names reach is found there, if it is no link and
nothing is too long. -/
theorem find_below {root : Path} {entries : List (Segment × Node)} {names : Location} {node : Node}
    (hroot : d.find root = .ok (.directory entries)) (hr : Node.Reaches entries names node)
    (hnode : ∀ target, node ≠ .link target) :
    d.find (root.below names) = .ok node ∨ d.find (root.below names) = .error .nameTooLong := by
  obtain ⟨place, hplace, hat⟩ := find_eq_ok_iff.mp hroot
  obtain ⟨hnul, -, hwalk⟩ := locate_eq_ok hplace
  have htidy : Node.entriesTidy entries = true := Node.isTidy_of_at? d.isTidy hat
  obtain ⟨left, hleft⟩ := walk_append d.top linkLimit hwalk
  have hnul' : '\x00' ∉ (root.below names).text.toList := by
    rw [Path.mem_text_iff _ (by decide) (by decide)] at hnul ⊢
    rintro ⟨s, hs, hc⟩
    rcases List.mem_append.mp hs with hs | hs
    · exact hnul ⟨s, hs, hc⟩
    · exact ((hr.isTidy htidy).2 s hs).2 hc
  rw [find_eq, locate, if_neg hnul']
  by_cases hlimit : pathLimit ≤ (root.below names).text.utf8ByteSize
  · rw [if_pos hlimit]
    exact .inr rfl
  · rw [if_neg hlimit, Path.below, List.map_append, hleft]
    rcases walk_names hr htidy hnode left hat with h | h
    · rw [h]
      have hinner := ((Node.reaches_iff_at? htidy).mp hr).2
      have hthere : d.top.at? (place ++ names) = some node := by
        rw [Node.at?_append, hat, Option.bind_some, hinner]
      exact .inl (by simp only [hthere])
    · rw [h]
      exact .inr rfl

end Disk

/-! ## Walks on trees that are alike -/

theorem lookup_alike {t u : Node} (h : Node.Alike t u) {here : Location}
    {entries more : List (Segment × Node)} (ht : t.at? here = some (.directory entries))
    (hu : u.at? here = some (.directory more)) (name : Segment) :
    (entries.lookup name).map Node.outline = (more.lookup name).map Node.outline := by
  rw [← at?_entry ht, ← at?_entry hu]
  exact h (here ++ [name])

/-- At each step the two trees have the same choice, whatever the order of entries. -/
theorem walkWith_alike {t u : Node} (h : Node.Alike t u)
    (follow : Location → List Component → Except AccessFault Location) :
    ∀ (steps : List Component) (here : Location),
      walkWith follow t here steps = walkWith follow u here steps
  | [], _ => rfl
  | step :: rest, here => by
      have ih := walkWith_alike h follow rest
      rw [walkWith, walkWith]
      cases ht : t.at? here with
      | none =>
          have hu := h here
          rw [ht] at hu
          rw [Option.map_eq_none_iff.mp hu.symm]
      | some n =>
          obtain ⟨m, hu, hout⟩ := h.at? ht
          cases n with
          | file bytes => rw [hu, Node.eq_file_of_outline hout]
          | link target => rw [hu, Node.eq_link_of_outline hout]
          | directory entries =>
              obtain ⟨more, rfl⟩ := Node.eq_directory_of_outline hout
              rw [hu]
              cases step with
              | stay => exact ih here
              | up => exact ih here.dropLast
              | name s =>
                  dsimp only
                  by_cases hlong : nameLimit < s.text.utf8ByteSize
                  · rw [if_pos hlong, if_pos hlong]
                  · rw [if_neg hlong, if_neg hlong]
                    have hchild := lookup_alike h ht hu s
                    cases hs : entries.lookup s with
                    | none =>
                        rw [hs] at hchild
                        rw [Option.map_eq_none_iff.mp hchild.symm]
                    | some child =>
                        rw [hs] at hchild
                        obtain ⟨other, hother, hout⟩ := Option.map_eq_some_iff.mp hchild.symm
                        rw [hother]
                        cases child with
                        | file bytes =>
                            rw [Node.eq_file_of_outline hout]
                            exact ih (here ++ [s])
                        | link target => rw [Node.eq_link_of_outline hout]
                        | directory inner =>
                            obtain ⟨_, rfl⟩ := Node.eq_directory_of_outline hout
                            exact ih (here ++ [s])

theorem walk_alike {t u : Node} (h : Node.Alike t u) (links : Nat) :
    walk t links = walk u links := by
  induction links with
  | zero => exact funext fun here => funext fun steps => walkWith_alike h _ steps here
  | succ links ih =>
      rw [walk, walk, ih]
      exact funext fun here => funext fun steps => walkWith_alike h _ steps here

namespace Disk

/-- The trees are alike, and one is in the same directory. -/
structure Alike (d d' : Disk) : Prop where
  top : Node.Alike d.top d'.top
  here : d.here = d'.here

variable {d d' : Disk}

theorem Alike.locate (h : d.Alike d') (p : Path) : d.locate p = d'.locate p := by
  rw [Disk.locate, Disk.locate, walk_alike h.top, h.here]

theorem Alike.find (h : d.Alike d') (p : Path) :
    (d.find p).map Node.outline = (d'.find p).map Node.outline := by
  rw [find_eq, find_eq, h.locate p]
  cases d'.locate p with
  | error f => rfl
  | ok place =>
      cases hat : d.top.at? place with
      | none =>
          have hmap := h.top place
          rw [hat] at hmap
          dsimp only
          rw [hat, Option.map_eq_none_iff.mp hmap.symm]
      | some n =>
          obtain ⟨m, hm, hout⟩ := h.top.at? hat
          dsimp only
          rw [hat, hm]
          exact congrArg Except.ok hout.symm

end Disk

end TemplateRun
