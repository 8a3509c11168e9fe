/-
# `Reading` — the text of a file on the disk

Reading a document gives the bytes of its file to an encoding, and what the encoding says of them
is the result (`read_of_file`).  So a document has a text if and only if its bytes have one, and
then it is that one (`read_eq_ok_iff`).  `Reads` puts down what this means for each of the four
encodings under their usual names.
-/
import TemplateRun.Document.Basic
import TemplateRun.Proofs.Encoding.Text

namespace TemplateRun.Document

open Encoding

/-! ## From the file to its text -/

/-- `Calls name encoding`: this is a name of the encoding, and one that can be asked for. -/
def Calls (name : String) (encoding : Encoding) : Prop :=
  '\x00' ∉ name.toList ∧ Encoding.ofName? name = some encoding

section
variable {d : Disk} {doc : Document} {bytes : List UInt8} {name : String} {encoding : Encoding}

theorem readBytes_of_file (hfile : d.find doc.path = .ok (.file bytes)) :
    d.readBytes doc.path = .ok bytes := by
  rw [Disk.readBytes, hfile]
  rfl

theorem read_of_file (hfile : d.find doc.path = .ok (.file bytes)) (hname : Calls name encoding) :
    doc.read d name = (encoding.text bytes).mapError
      fun refusal => .unreadable doc.path (.undecodable refusal) := by
  have hnul : ¬ name.toList.contains '\x00' = true := by simpa using hname.1
  rw [read, if_neg hnul, readBytes_of_file hfile]
  dsimp only
  rw [decode, hname.2]

theorem read_eq_ok_iff (hfile : d.find doc.path = .ok (.file bytes)) (hname : Calls name encoding)
    {text : String} : doc.read d name = .ok text ↔
      ∃ cs, encoding.decode bytes = .ok cs ∧ Folds cs text.toList := by
  rw [read_of_file hfile hname, ← text_eq_ok_iff]
  cases encoding.text bytes with
  | error refusal => simp [Except.mapError]
  | ok text => simp [Except.mapError]

theorem read_of_decode (hfile : d.find doc.path = .ok (.file bytes)) (hname : Calls name encoding)
    {cs : List Char} (hcs : encoding.decode bytes = .ok cs) :
    doc.read d name = .ok (String.ofList (foldLineEnds cs)) := by
  rw [read_eq_ok_iff hfile hname, String.toList_ofList]
  exact ⟨cs, hcs, folds_foldLineEnds cs⟩

theorem exists_read_eq_ok_iff (hfile : d.find doc.path = .ok (.file bytes))
    (hname : Calls name encoding) :
    (∃ text, doc.read d name = .ok text) ↔ ∃ cs, encoding.decode bytes = .ok cs := by
  constructor
  · rintro ⟨text, htext⟩
    obtain ⟨cs, hcs, -⟩ := (read_eq_ok_iff hfile hname).mp htext
    exact ⟨cs, hcs⟩
  · rintro ⟨cs, hcs⟩
    exact ⟨_, read_of_decode hfile hname hcs⟩

end

/-! ## The four encodings -/

theorem calls_utf8 : Calls "utf-8" .utf8 := ⟨by decide, by decide⟩

theorem calls_utf8Signed : Calls "utf-8-sig" .utf8Signed := ⟨by decide, by decide⟩

theorem calls_ascii : Calls "ascii" .ascii := ⟨by decide, by decide⟩

theorem calls_latin1 : Calls "latin-1" .latin1 := ⟨by decide, by decide⟩

/-- What reading a document with these bytes gives. -/
structure Reads (d : Disk) (doc : Document) (bytes : List UInt8) : Prop where
  /-- In UTF-8 exactly the well-formed files can be read. -/
  succeeds : (∃ text, doc.read d "utf-8" = .ok text) ↔ ∃ cs, Utf8.Spelling bytes cs
  /-- The text is what is spelled, with every line end a line feed. -/
  utf8 (text : String) : doc.read d "utf-8" = .ok text ↔
    ∃ cs, Utf8.Spelling bytes cs ∧ Folds cs text.toList
  /-- No text holds a carriage return. -/
  return_not_mem (text : String) : doc.read d "utf-8" = .ok text → '\r' ∉ text.toList
  /-- A string without carriage returns is read back, a byte order mark in front of it included. -/
  roundTrip (s : String) : '\r' ∉ s.toList → bytes = s.toUTF8.data.toList →
    doc.read d "utf-8" = .ok s
  /-- Behind a byte order mark the text is the one of a file without it. -/
  signed {rest : List UInt8} {cs : List Char} : bytes = signature ++ rest →
    Utf8.Spelling rest cs →
    (∃ text, doc.read d "utf-8-sig" = .ok text ∧ Folds cs text.toList) ∧
    ∀ (d' : Disk) (doc' : Document), d'.find doc'.path = .ok (.file rest) →
      doc.read d "utf-8-sig" = doc'.read d' "utf-8"
  /-- In ASCII exactly the files with no byte from 0x80 on can be read. -/
  ascii_succeeds : (∃ text, doc.read d "ascii" = .ok text) ↔ ∀ b ∈ bytes, b.toNat < 0x80
  /-- A text in ASCII is the text in UTF-8. -/
  ascii (text : String) : doc.read d "ascii" = .ok text → doc.read d "utf-8" = .ok text
  /-- In Latin-1 every file can be read, and each byte is a character. -/
  latin1 : ∃ cs text, cs.map Char.toNat = bytes.map UInt8.toNat ∧ Folds cs text.toList ∧
    doc.read d "latin-1" = .ok text

section
variable {d : Disk} {doc : Document} {bytes : List UInt8}

theorem read_utf8_iff (hfile : d.find doc.path = .ok (.file bytes)) {text : String} :
    doc.read d "utf-8" = .ok text ↔ ∃ cs, Utf8.Spelling bytes cs ∧ Folds cs text.toList := by
  rw [read_eq_ok_iff hfile calls_utf8]
  simp only [Encoding.decode, Utf8.decode_eq_ok_iff]

theorem read_signed {rest : List UInt8} {cs : List Char}
    (hfile : d.find doc.path = .ok (.file (signature ++ rest))) (hcs : Utf8.Spelling rest cs) :
    doc.read d "utf-8-sig" = .ok (String.ofList (foldLineEnds cs)) := by
  refine read_of_decode hfile calls_utf8Signed ?_
  rw [decode_signature_append]
  exact Utf8.decode_eq_ok_iff.mpr hcs

theorem exists_read_ascii_iff (hfile : d.find doc.path = .ok (.file bytes)) :
    (∃ text, doc.read d "ascii" = .ok text) ↔ ∀ b ∈ bytes, b.toNat < 0x80 := by
  rw [exists_read_eq_ok_iff hfile calls_ascii]
  simp only [Encoding.decode, decodeAsciiFrom_eq_ok_iff, exists_and_left, exists_eq, and_true]

/-- A file that is there is read where it is well-formed, and as what it says. -/
theorem read_exact (hfile : d.find doc.path = .ok (.file bytes)) : doc.Reads d bytes where
  succeeds := by
    rw [exists_read_eq_ok_iff hfile calls_utf8]
    exact exists_congr fun cs => Utf8.decode_eq_ok_iff
  utf8 text := read_utf8_iff hfile
  return_not_mem text htext := by
    obtain ⟨cs, -, hfolds⟩ := (read_utf8_iff hfile).mp htext
    exact hfolds.return_not_mem
  roundTrip s hs hbytes := by
    rw [read_utf8_iff hfile, hbytes]
    exact ⟨s.toList, Utf8.spelling_toUTF8 s, folds_self hs⟩
  signed := by
    rintro rest cs rfl hcs
    constructor
    · refine ⟨_, read_signed hfile hcs, ?_⟩
      rw [String.toList_ofList]
      exact folds_foldLineEnds cs
    · intro d' doc' hfile'
      rw [read_signed hfile hcs]
      exact (read_of_decode hfile' calls_utf8 (Utf8.decode_eq_ok_iff.mpr hcs)).symm
  ascii_succeeds := exists_read_ascii_iff hfile
  ascii text htext := by
    have hbytes := (exists_read_ascii_iff hfile).mp ⟨text, htext⟩
    obtain ⟨cs, hcs, hfolds⟩ := (read_eq_ok_iff hfile calls_ascii).mp htext
    rw [decode_ascii hbytes] at hcs
    exact (read_eq_ok_iff hfile calls_utf8).mpr ⟨cs, hcs, hfolds⟩
  latin1 := by
    refine ⟨charactersOf bytes, _, map_toNat_charactersOf bytes, ?_,
      read_of_decode hfile calls_latin1 rfl⟩
    rw [String.toList_ofList]
    exact folds_foldLineEnds _

end

/-! ## A file with a mark -/

/-- Two files, one of them behind a byte order mark, and both with two kinds of line ends. -/
def markedDisk : Disk :=
  ⟨.directory [(⟨"plain", by decide⟩, .file [0xc3, 0xa9, 0x0d, 0x0a, 0x0d]),
    (⟨"marked", by decide⟩, .file [0xef, 0xbb, 0xbf, 0xc3, 0xa9, 0x0d, 0x0a, 0x0d])], [], by decide⟩

theorem markedDisk_reads :
    (ofText "plain").read markedDisk "utf-8" = .ok "é\n\n" ∧
    (ofText "marked").read markedDisk "utf-8" = .ok "\uFEFFé\n\n" ∧
    (ofText "marked").read markedDisk "utf-8-sig" = .ok "é\n\n" ∧
    ¬ ∃ text, (ofText "plain").read markedDisk "ascii" = .ok text := by
  have hplain : markedDisk.find (ofText "plain").path =
      .ok (.file [0xc3, 0xa9, 0x0d, 0x0a, 0x0d]) := rfl
  have hmarked : markedDisk.find (ofText "marked").path =
      .ok (.file (signature ++ [0xc3, 0xa9, 0x0d, 0x0a, 0x0d])) := rfl
  have hspelling : Utf8.Spelling [0xc3, 0xa9, 0x0d, 0x0a, 0x0d] ['é', '\r', '\n', '\r'] :=
    Utf8.spelling_iff.mpr (by decide)
  have hfolds : Folds ['é', '\r', '\n', '\r'] "é\n\n".toList := folds_iff.mpr (by decide)
  have hutf8 : (ofText "plain").read markedDisk "utf-8" = .ok "é\n\n" :=
    ((read_exact hplain).utf8 _).mpr ⟨_, hspelling, hfolds⟩
  refine ⟨hutf8, ?_, ?_, ?_⟩
  · refine ((read_exact hmarked).utf8 _).mpr ⟨'\uFEFF' :: ['é', '\r', '\n', '\r'], ?_, ?_⟩
    · exact .cons (Utf8.spells_encodeChar '\uFEFF') hspelling
    · exact .other (by decide) hfolds
  · obtain ⟨-, hplainer⟩ := (read_exact hmarked).signed rfl hspelling
    rw [hplainer markedDisk _ hplain, hutf8]
  · rw [(read_exact hplain).ascii_succeeds]
    intro hbytes
    exact absurd (hbytes 0xc3 List.mem_cons_self) (by decide)

end TemplateRun.Document
