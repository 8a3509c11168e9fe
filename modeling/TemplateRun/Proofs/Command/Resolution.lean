/-
# `Resolution` — what comes of an input that does not resolve

An input from which no documents are discovered ends the program.  There are two ways for that:

    explained    nothing is there, or nothing below it, or something below it cannot be looked at;
                 the fault is one of resolution, and the exit code is 1
    escaped      the input itself cannot be looked at; the fault is the system's, and the code is 2

The second happens where looking at the input meets a name or a path that is too long, and only
there (`Resolves`): a scan takes that fault for its own, but the look that decides whether there is
something to scan lets it out.  Links count as well, since their targets are walked
(`LinksFit`).  Anything else that keeps the input from being found says only that nothing is there.
-/
import TemplateRun.Proofs.Command.ExitLaw
import TemplateRun.Proofs.Command.Stages

namespace TemplateRun

variable {σ : Type}

/-! ## Names that fit -/

/-- No name is looked up that is too long. -/
def Component.Fits : Component → Prop
  | .name s => s.text.utf8ByteSize ≤ nameLimit
  | .stay | .up => True

/-- The path and its names are short enough. -/
structure Path.Fits (p : Path) : Prop where
  text : p.text.utf8ByteSize < pathLimit
  names : ∀ s ∈ p.segments, s.text.utf8ByteSize ≤ nameLimit

/-- The names in all targets of links are short enough. -/
def Node.LinksFit (top : Node) : Prop :=
  ∀ place target, top.at? place = some (.link target) →
    ∀ step ∈ Component.ofTarget target, step.Fits

theorem Component.fits_ofSegment {s : Segment} (h : s.text.utf8ByteSize ≤ nameLimit) :
    (ofSegment s).Fits := by
  rw [ofSegment]
  split
  · trivial
  · exact h

section
variable {top : Node} {follow : Location → List Component → Except AccessFault Location}

/-- Where all names fit, those of links included, a walk never meets one that is too long. -/
theorem walkWith_ne_nameTooLong (hlinks : top.LinksFit)
    (hfollow : ∀ here steps, (∀ step ∈ steps, step.Fits) →
      follow here steps ≠ .error .nameTooLong) :
    ∀ (steps : List Component) (here : Location), (∀ step ∈ steps, step.Fits) →
      walkWith follow top here steps ≠ .error .nameTooLong
  | [], _, _ => fun h => nomatch h
  | step :: rest, here, hsteps => by
      obtain ⟨hstep, hrest⟩ := List.forall_mem_cons.mp hsteps
      have ih := walkWith_ne_nameTooLong hlinks hfollow rest
      rw [walkWith]
      split
      · next entries hhere =>
          cases step with
          | stay => exact ih here hrest
          | up => exact ih here.dropLast hrest
          | name s =>
              dsimp only
              rw [if_neg (Nat.not_lt_of_le hstep)]
              split
              · rintro ⟨⟩
              · next target hlookup =>
                  have htarget := hlinks (here ++ [s]) target (by rw [at?_entry hhere, hlookup])
                  exact hfollow _ _ (List.forall_mem_append.mpr ⟨htarget, hrest⟩)
              · exact ih (here ++ [s]) hrest
      · rintro ⟨⟩

theorem walk_ne_nameTooLong (hlinks : top.LinksFit) : ∀ (links : Nat) (here : Location)
    (steps : List Component), (∀ step ∈ steps, step.Fits) →
      walk top links here steps ≠ .error .nameTooLong
  | 0, here, steps, hsteps => by
      refine walkWith_ne_nameTooLong hlinks (fun _ _ _ h => ?_) steps here hsteps
      exact nomatch h
  | links + 1, here, steps, hsteps =>
      walkWith_ne_nameTooLong hlinks (walk_ne_nameTooLong hlinks links) steps here hsteps

end

namespace Disk

variable {d : Disk} {root : Path}

theorem find_ne_nameTooLong (hroot : root.Fits) (hlinks : d.top.LinksFit) :
    d.find root ≠ .error .nameTooLong := by
  have hsteps : ∀ step ∈ root.segments.map Component.ofSegment, step.Fits := by
    intro step hstep
    obtain ⟨s, hs, rfl⟩ := List.mem_map.mp hstep
    exact Component.fits_ofSegment (hroot.names s hs)
  have hlocate : d.locate root ≠ .error .nameTooLong := by
    rw [locate, if_neg (Nat.not_le_of_lt hroot.text)]
    split
    · rintro ⟨⟩
    · exact walk_ne_nameTooLong hlinks _ _ _ hsteps
  rw [find_eq]
  cases hplace : d.locate root with
  | error f =>
      rintro ⟨⟩
      exact hlocate hplace
  | ok place => cases hat : d.top.at? place <;> simp [hat]

theorem find_of_overlong (hnul : '\x00' ∉ root.text.toList)
    (hlong : pathLimit ≤ root.text.utf8ByteSize) : d.find root = .error .nameTooLong := by
  rw [find_eq, locate, if_neg hnul, if_pos hlong]

theorem find_of_overlong_name {s : Segment} {entries : List (Segment × Node)}
    (hhere : d.top.at? d.here = some (.directory entries)) (hnul : '\x00' ∉ s.text.toList)
    (hlong : nameLimit < s.text.utf8ByteSize) :
    d.find (Path.parse s.text) = .error .nameTooLong := by
  have hup : s ≠ Segment.up := by
    rintro rfl
    exact absurd hlong (by decide)
  rw [Path.parse_segment, find_eq, locate, Path.text_segment, if_neg hnul]
  by_cases hlimit : pathLimit ≤ s.text.utf8ByteSize
  · rw [if_pos hlimit]
  · rw [if_neg hlimit, if_pos rfl]
    have hwalk : walk d.top linkLimit d.here [.name s] = .error .nameTooLong := by
      show walkWith _ _ _ _ = _
      simp only [walkWith, hhere]
      rw [if_pos hlong]
    rw [List.map_cons, List.map_nil, ofSegment_eq_name hup, hwalk]

/-! ## Resolving -/

theorem discover_of_nameTooLong (h : d.find root = .error .nameTooLong) :
    d.discover root = .error (.inaccessible root .nameTooLong) := by
  rw [discover, look, h]
  rfl

theorem discover_of_absence {fault : AccessFault} (h : d.find root = .error fault)
    (hfault : fault ≠ .nameTooLong) : d.discover root = .error (.inputMissing root) := by
  rw [discover, look, h]
  cases fault with
  | isDirectory => exact absurd h find_ne_isDirectory
  | nameTooLong => exact absurd rfl hfault
  | _ => rfl

/-- Where the input can be looked at, there are documents or the fault is one of resolution. -/
theorem discover_of_find_ne (h : d.find root ≠ .error .nameTooLong) :
    (∃ found, d.discover root = .ok found ∧ found.documents ≠ []) ∨
      ∃ f, d.discover root = .error f ∧ f.family? = some .documentResolution := by
  cases hroot : d.find root with
  | error fault =>
      have hfault : fault ≠ .nameTooLong := by
        rintro rfl
        exact h hroot
      exact .inr ⟨_, discover_of_absence hroot hfault, rfl⟩
  | ok node =>
      cases node with
      | file bytes =>
          have hfound := discover_file hroot
          exact .inl ⟨_, hfound, (discover_eq_ok hfound).1⟩
      | link target => exact .inr ⟨.inputMissing root, by rw [discover, look_eq_of_find hroot], rfl⟩
      | directory entries =>
          rcases discover_directory hroot with ⟨-, hf⟩ | ⟨-, -, hf⟩ | ⟨-, -, docs, hfound, -⟩
          · exact .inr ⟨_, hf, rfl⟩
          · exact .inr ⟨_, hf, rfl⟩
          · exact .inl ⟨_, hfound, (discover_eq_ok hfound).1⟩

/-- What can come of discovering documents, and when. -/
structure Resolves (d : Disk) (root : Path) : Prop where
  /-- There are documents, or the fault is one of resolution, or it is the system's. -/
  cases : (∃ found, d.discover root = .ok found ∧ found.documents ≠ []) ∨
    (∃ f, d.discover root = .error f ∧ f.family? = some .documentResolution) ∨
    d.discover root = .error (.inaccessible root .nameTooLong)
  /-- The system's fault is out where the input leads to something too long. -/
  escapes : ∀ f, d.discover root = .error f →
    (f.family? = none ↔ d.find root = .error .nameTooLong)
  escaped : d.find root = .error .nameTooLong →
    d.discover root = .error (.inaccessible root .nameTooLong)
  /-- That is so for a path that is too long itself. -/
  overlong : '\x00' ∉ root.text.toList → pathLimit ≤ root.text.utf8ByteSize →
    d.find root = .error .nameTooLong
  /-- It is not so where the path, its names and those in links are short enough. -/
  fits : root.Fits → d.top.LinksFit → d.find root ≠ .error .nameTooLong

theorem resolves (d : Disk) (root : Path) : d.Resolves root where
  cases := by
    by_cases h : d.find root = .error .nameTooLong
    · exact .inr (.inr (discover_of_nameTooLong h))
    · rcases discover_of_find_ne h with hfound | hfault
      · exact .inl hfound
      · exact .inr (.inl hfault)
  escapes f hf := by
    constructor
    · intro hfamily
      by_contra h
      rcases discover_of_find_ne h with ⟨found, hfound, -⟩ | ⟨g, hg, hresolution⟩
      · exact nomatch hfound.symm.trans hf
      · cases hg.symm.trans hf
        exact nomatch hfamily.symm.trans hresolution
    · intro h
      cases (discover_of_nameTooLong h).symm.trans hf
      rfl
  escaped := discover_of_nameTooLong
  overlong := find_of_overlong
  fits := find_ne_nameTooLong

end Disk

namespace Command

/-- The one error of discovering that the program does not know has a name without brackets. -/
theorem writable_of_discover_error {disk : Disk} {root : Path} {f : Fault}
    (hf : disk.discover root = .error f) (c : Console) : f.Writable c := by
  by_cases hlong : disk.find root = .error .nameTooLong
  · cases (Disk.discover_of_nameTooLong hlong).symm.trans hf
    have hname : '[' ∉ "OSError".toList := by decide
    exact Fault.writable_of_name (.inr hname)
  · rcases Disk.discover_of_find_ne hlong with ⟨found, hfound, -⟩ | ⟨g, hg, hfamily⟩
    · exact nomatch hfound.symm.trans hf
    · cases hg.symm.trans hf
      exact fun hunexpected => nomatch hfamily.symm.trans hunexpected.2

theorem runGuarded_of_discover_error {host : Host σ} {tokens : List (Option String)}
    {i : Invocation} {f : Fault} (hasks : ¬ Asks tokens) (hread : Invocation.read tokens = .ok i)
    (hf : host.disk.discover i.project = .error f) (s : Session σ) :
    ∃ s', runGuarded host tokens s = some (f.handled.map .exited, s') ∧ s'.past = s.past := by
  have hunready : Unready host i f := .documents (preparedOf_of_discover_error hf)
  obtain ⟨t, ht, hpast⟩ := run_of_unready hasks hread hunready (configured s)
  have hway : run host tokens (configured s) = some ((Way.unready f).ending, t) := ht
  obtain ⟨r, s', hs', haside, hleft⟩ := runGuarded_of_run hway
  refine ⟨s', ?_, haside.past.trans hpast⟩
  rw [hs', hleft]
  · rfl
  · rintro g ⟨⟩
    exact writable_of_discover_error hf _

/-- Discovering comes to documents, to a fault of resolution, or, where the input leads to
something too long, to the system's fault.  Without documents the pipeline is not run, and the
program exits with 2 in that last case and with 1 in every other. -/
theorem inputs_resolve (host : Host σ) (root : Path) : host.disk.Resolves root ∧
    ∀ tokens i f, ¬ Asks tokens → Invocation.read tokens = .ok i → i.project = root →
      host.disk.discover root = .error f → ∀ s : Session σ, ∃ status s',
        runGuarded host tokens s = some (.ok (.exited status), s') ∧ s'.past = s.past ∧
        (host.disk.find root = .error .nameTooLong → status.number? = some 2) ∧
        (host.disk.find root ≠ .error .nameTooLong → status.number? = some 1) := by
  refine ⟨host.disk.resolves root, ?_⟩
  rintro tokens i f hasks hread rfl hf s
  obtain ⟨s', hs', hpast⟩ := runGuarded_of_discover_error hasks hread hf s
  by_cases hlong : host.disk.find i.project = .error .nameTooLong
  · cases (Disk.discover_of_nameTooLong hlong).symm.trans hf
    exact ⟨.code .unexpectedError, s', hs', hpast, fun _ => rfl, fun hne => absurd hlong hne⟩
  · rcases Disk.discover_of_find_ne hlong with ⟨found, hfound, -⟩ | ⟨g, hg, hfamily⟩
    · exact nomatch hfound.symm.trans hf
    · cases hg.symm.trans hf
      rw [Fault.handled_of_family (by rw [hfamily]; rfl)] at hs'
      exact ⟨.code .generalError, s', hs', hpast, fun h => absurd h hlong, fun _ => rfl⟩

/-- A text of one byte more than a name may have. -/
def overlongText : String := String.ofList (List.replicate 256 'a')

theorem mem_overlongText_iff {c : Char} : c ∈ overlongText.toList ↔ c = 'a' := by
  have htext : overlongText.toList = List.replicate 256 'a' := String.toList_ofList
  simp only [htext, List.mem_replicate]
  exact and_iff_right (by decide)

theorem nameLimit_lt_overlongText : nameLimit < overlongText.utf8ByteSize := by decide +kernel

theorem ne_overlongText {s : String} (h : s.utf8ByteSize ≤ nameLimit) : overlongText ≠ s := by
  rintro rfl
  exact absurd nameLimit_lt_overlongText (Nat.not_lt_of_le h)

/-- The name that is too long. -/
def overlongName : Segment where
  text := overlongText
  isSegment := by
    refine ⟨ne_overlongText (by decide), ne_overlongText (by decide), ?_⟩
    rw [mem_overlongText_iff]
    decide

theorem find_overlongName :
    (bareHost Unit).disk.find (Path.parse overlongName.text) = .error .nameTooLong :=
  Disk.find_of_overlong_name rfl (mem_overlongText_iff.not.mpr (by decide))
    nameLimit_lt_overlongText

theorem read_overlongName : ¬ Asks [some overlongName.text] ∧
    ∃ i, Invocation.read [some overlongName.text] = .ok i ∧ i.project =
      Path.parse overlongName.text := by
  have hne : overlongName.text ≠ "" := overlongName.isSegment.1
  have hreal : Invocation.realTokens [some overlongName.text] = [overlongName.text] := by
    simp [Invocation.realTokens, Option.filter, hne]
  have hflags : overlongName.text ∉ askingFlags := by
    have hshort : ∀ flag ∈ askingFlags, flag.utf8ByteSize ≤ nameLimit := by decide
    exact fun h => ne_overlongText (hshort _ h) rfl
  have hsplits : Invocation.Splits [] [] := Invocation.readOptions_eq_ok_iff.mp rfl
  obtain ⟨i, hread, hinput, -⟩ := Invocation.exists_read hreal hsplits
  refine ⟨not_asks_of_realTokens hreal hflags, i, hread, ?_⟩
  rw [Invocation.project, hinput]

/-- The bad input that the program does not explain. -/
theorem overlongName_escapes :
    (∃ f, (bareHost Unit).disk.discover (Path.parse overlongName.text) = .error f ∧
      f.kindName = "OSError" ∧ f.family? = none) ∧
    ∃ s', runGuarded (bareHost Unit) [some overlongName.text] (.blank ()) =
      some (.ok (.exited (.code .unexpectedError)), s') := by
  have hf := Disk.discover_of_nameTooLong find_overlongName
  obtain ⟨hasks, i, hread, hproject⟩ := read_overlongName
  rw [← hproject] at hf
  obtain ⟨s', hs', -⟩ := runGuarded_of_discover_error hasks hread hf (.blank ())
  exact ⟨⟨_, hproject ▸ hf, rfl, rfl⟩, s', hs'⟩

theorem overlongName_exits : ∃ i f, Invocation.read [some overlongName.text] = .ok i ∧
    (bareHost Unit).disk.discover i.project = .error f ∧ ∃ status s',
      runGuarded (bareHost Unit) [some overlongName.text] (.blank ()) =
        some (.ok (.exited status), s') ∧
      s'.past = [] ∧ status.number? = some 2 := by
  obtain ⟨hasks, i, hread, hproject⟩ := read_overlongName
  have hlong := find_overlongName
  rw [← hproject] at hlong
  obtain ⟨hresolves, hexits⟩ := inputs_resolve (bareHost Unit) i.project
  have hf := hresolves.escaped hlong
  obtain ⟨status, s', hs', hpast, htwo, -⟩ := hexits _ i _ hasks hread rfl hf (.blank ())
  exact ⟨i, _, hread, hf, status, s', hs', hpast, htwo hlong⟩

end Command

end TemplateRun
