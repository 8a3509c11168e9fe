/-
# `Legible` — which documents can be read, and where reading stops

Looking for documents and reading them ask different things of the disk, the one what is at a path
and the other the bytes that are there.  They agree on what a document is (`discovery_reads`):

    at a path      the path is a document of its own if and only if it can be read in Latin-1, in
                   which all bytes have a text
    below a root   what has been discovered is there to be read; all that can still go wrong is
                   that its bytes are none of the encoding

Reading a path that can be asked for fails with a fault that names the document, and with no other
(`read_eq_error`).  Where the bytes are not well-formed, the advice that comes with the fault names
the place at which they break off (`read_refused`).
-/
import TemplateRun.Proofs.Document.Discovery
import TemplateRun.Proofs.Document.Reading
import TemplateRun.Proofs.Encoding.Refusal

namespace TemplateRun

namespace Document

open Encoding

/-! ## Faults of reading -/

section
variable {d : Disk} {doc : Document} {name : String} {encoding : Encoding} {f : Fault}

theorem readBytes_eq_ok_iff {p : Path} {bytes : List UInt8} :
    d.readBytes p = .ok bytes ↔ d.find p = .ok (.file bytes) := by
  refine ⟨fun h => ?_, @readBytes_of_file d ⟨p⟩ bytes⟩
  rw [Disk.readBytes] at h
  cases hfind : d.find p with
  | error fault =>
      rw [hfind] at h
      cases h
  | ok node =>
      rw [hfind] at h
      cases node <;> cases h
      rfl

theorem readBytes_ne_embeddedNul {p : Path} (hnul : '\x00' ∉ p.text.toList) :
    d.readBytes p ≠ .error .embeddedNul := by
  rw [Disk.readBytes]
  cases hfind : d.find p with
  | error fault =>
      rintro ⟨⟩
      rcases Disk.find_eq_error hfind with ⟨h, -⟩ | ⟨-, h⟩
      · exact hnul h
      · cases h
  | ok node => cases node <;> rintro ⟨⟩

/-- What keeps a document from being read is that its file cannot be opened, or that the bytes in it
are none of the encoding. -/
theorem read_eq_error (hname : Calls name encoding) (hnul : '\x00' ∉ doc.name.toList)
    (h : doc.read d name = .error f) :
    (∃ fault, d.readBytes doc.path = .error fault ∧ f = .unreadable doc.path (.access fault)) ∨
      ∃ bytes refusal, d.find doc.path = .ok (.file bytes) ∧
        encoding.text bytes = .error refusal ∧
        f = .unreadable doc.path (.undecodable refusal) := by
  cases hbytes : d.readBytes doc.path with
  | error fault =>
      rw [read, if_neg (by simpa using hname.1), hbytes] at h
      cases fault with
      | embeddedNul => exact absurd hbytes (readBytes_ne_embeddedNul hnul)
      | _ => cases h; exact .inl ⟨_, rfl, rfl⟩
  | ok bytes =>
      have hfile := readBytes_eq_ok_iff.mp hbytes
      rw [read_of_file hfile hname] at h
      cases htext : encoding.text bytes with
      | error refusal =>
          rw [htext] at h
          cases h
          exact .inr ⟨bytes, refusal, hfile, htext, rfl⟩
      | ok text =>
          rw [htext] at h
          cases h

theorem find_of_read {text : String} (h : doc.read d name = .ok text) :
    ∃ bytes, d.find doc.path = .ok (.file bytes) := by
  rw [read] at h
  split at h
  · cases h
  · split at h
    · cases h
    · cases h
    · next bytes hbytes => exact ⟨bytes, readBytes_eq_ok_iff.mp hbytes⟩

theorem exists_read_latin1 {bytes : List UInt8} (hfile : d.find doc.path = .ok (.file bytes)) :
    ∃ text, doc.read d "latin-1" = .ok text :=
  (exists_read_eq_ok_iff hfile calls_latin1).mpr ⟨_, rfl⟩

end

/-! ## Where reading stops -/

/-- A file that is not well-formed is not read, and the advice of the fault says where it breaks off
and why. -/
theorem read_refused {d : Disk} {doc : Document} {bytes : List UInt8}
    (hfile : d.find doc.path = .ok (.file bytes)) (hill : ¬ ∃ cs, Utf8.Spelling bytes cs) :
    ∃ f r, doc.read d "utf-8" = .error f ∧ f.family? = some .documentRead ∧
      f.causeName? = some "UnicodeDecodeError" ∧
      f.message = "Cannot read document: " ++ doc.name ∧
      f.hint = some ("'utf-8' codec can't decode " ++
        (if r.span = 1 then
          "byte 0x" ++ Text.hexByte r.first ++ " in position " ++ toString r.position
        else
          "bytes in position " ++ toString r.position ++ "-" ++
            toString (r.position + r.span - 1)) ++
        ": " ++ r.reason.text) ∧
      Utf8.Pinpoints bytes r := by
  obtain ⟨r, hdecode, hpinpoints⟩ := Utf8.exists_refusal hill
  have htext : Encoding.utf8.text bytes = .error r := by
    rw [Encoding.text, Encoding.decode, hdecode]
    rfl
  refine ⟨.unreadable doc.path (.undecodable r), r, ?_, rfl, rfl, rfl, ?_, hpinpoints⟩
  · rw [read_of_file hfile calls_utf8, htext]
    rfl
  · rw [Fault.hint, ReadFault.message, Refusal.message, hpinpoints.encoding]
    rfl

/-- A character of three bytes, cut off in the middle by another one. -/
def cutBytes : List UInt8 := [0x41, 0xe2, 0x82, 0x41]

def cutDisk : Disk :=
  ⟨.directory [(⟨"cut", by decide⟩, .file cutBytes), (⟨"link", by decide⟩, .link "cut")], [],
    by decide⟩

theorem not_spelling_cutBytes : ¬ ∃ cs, Utf8.Spelling cutBytes cs := by
  rintro ⟨cs, hcs⟩
  cases Utf8.decode_eq_ok_iff.mpr hcs

theorem cutDisk_refused : ∃ f r, (ofText "link").read cutDisk "utf-8" = .error f ∧
    f.hint = some "'utf-8' codec can't decode bytes in position 1-2: invalid continuation byte" ∧
    Utf8.Pinpoints cutBytes r ∧ ¬ ∃ cs, Utf8.Spelling cutBytes cs := by
  have hfile : cutDisk.find (ofText "link").path = .ok (.file cutBytes) := rfl
  obtain ⟨f, r, hread, -, -, -, -, hpinpoints⟩ := read_refused hfile not_spelling_cutBytes
  refine ⟨f, r, hread, ?_, hpinpoints, not_spelling_cutBytes⟩
  have hfault : (ofText "link").read cutDisk "utf-8" = .error (.unreadable (ofText "link").path
      (.undecodable ⟨"utf-8", 0xe2, 1, 2, .continuationByte⟩)) := rfl
  cases hfault.symm.trans hread
  decide

end Document

/-! ## Discovery and reading -/

namespace Disk

/-- Discovery and reading agree on what a document is: a path is the one document at itself if and
only if it can be read, what is discovered below a root can be read as far as its bytes allow, and
reading a path has one kind of fault. -/
theorem discovery_reads (d : Disk) :
    (∀ p, (∃ found, d.discover p = .ok found ∧ found.documents = [⟨p⟩]) ↔
      ∃ text, (Document.mk p).read d "latin-1" = .ok text) ∧
    (∀ root found, d.discover root = .ok found → ∀ doc ∈ found.documents,
      (∃ text, doc.read d "latin-1" = .ok text) ∧
      ∀ f, doc.read d "utf-8" = .error f →
        f.family? = some .documentRead ∧ f.causeName? = some "UnicodeDecodeError") ∧
    ∀ p name encoding, '\x00' ∉ p.text.toList → Document.Calls name encoding →
      ∀ f, (Document.mk p).read d name = .error f → f.family? = some .documentRead := by
  refine ⟨fun p => ⟨?_, ?_⟩, fun root found hfound doc hdoc => ?_, ?_⟩
  · rintro ⟨found, hfound, hdocs⟩
    have hself : (⟨p⟩ : Document) ∈ found.documents := by
      rw [hdocs]
      exact List.mem_singleton_self _
    obtain ⟨bytes, hfile⟩ := find_of_mem_documents hfound hself
    exact Document.exists_read_latin1 hfile
  · rintro ⟨text, htext⟩
    obtain ⟨bytes, hfile⟩ := Document.find_of_read htext
    exact ⟨_, discover_file hfile, rfl⟩
  · obtain ⟨bytes, hfile⟩ := find_of_mem_documents hfound hdoc
    refine ⟨Document.exists_read_latin1 hfile, fun f hf => ?_⟩
    rw [Document.read_of_file hfile Document.calls_utf8] at hf
    cases htext : Encoding.utf8.text bytes with
    | error refusal =>
        rw [htext] at hf
        cases hf
        exact ⟨rfl, rfl⟩
    | ok text =>
        rw [htext] at hf
        cases hf
  · intro p name encoding hnul hname f hf
    rcases Document.read_eq_error hname hnul hf with ⟨fault, -, rfl⟩ | ⟨bytes, refusal, -, -, rfl⟩
    · rfl
    · rfl

/-- The link is discovered, and what it leads to has a text, but not in UTF-8. -/
theorem cutDisk_reads : ∃ found, Document.cutDisk.discover (.parse ".") = .ok found ∧
    Document.ofText "link" ∈ found.documents ∧
    (∃ text, (Document.ofText "link").read Document.cutDisk "latin-1" = .ok text) ∧
    (∃ f, (Document.ofText "link").read Document.cutDisk "utf-8" = .error f ∧
      f.causeName? = some "UnicodeDecodeError") ∧
    ∃ f, (Document.ofText "missing").read Document.cutDisk "ascii" = .error f ∧
      f.family? = some .documentRead ∧ f.causeName? = some "FileNotFoundError" := by
  obtain ⟨-, hbelow, hfaults⟩ := discovery_reads Document.cutDisk
  have hdiscover : ∃ found, Document.cutDisk.discover (.parse ".") = .ok found ∧
      Document.ofText "link" ∈ found.documents :=
    ⟨_, rfl, List.mem_map_of_mem (List.mem_mergeSort.mpr (by decide))⟩
  have hundecodable : ∃ f, (Document.ofText "link").read Document.cutDisk "utf-8" = .error f :=
    ⟨_, rfl⟩
  have hmissing : ∃ f, (Document.ofText "missing").read Document.cutDisk "ascii" = .error f ∧
      f.causeName? = some "FileNotFoundError" := ⟨_, rfl, rfl⟩
  obtain ⟨found, hfound, hlink⟩ := hdiscover
  obtain ⟨f, hf⟩ := hundecodable
  obtain ⟨g, hg, hcause⟩ := hmissing
  obtain ⟨htext, hcauses⟩ := hbelow _ _ hfound _ hlink
  refine ⟨found, hfound, hlink, htext, ⟨f, hf, (hcauses f hf).2⟩, g, hg, ?_, hcause⟩
  exact hfaults _ "ascii" .ascii (by decide) Document.calls_ascii g hg

end Disk

end TemplateRun
