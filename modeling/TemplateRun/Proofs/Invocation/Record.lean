/-
# `Record` — the record of an invocation tells which one it is

What is logged about a command line is one printable line, and no two invocations leave the same
line, whatever their texts hold.  The signs that divide the line may occur in the texts, but every
text stands quoted, and a quoted text shows where it ends (`Text.SelfDelimiting`).  So the line is
read from the left:

    input, output   two quoted texts with words between them
    the memory      quoted pairs with a comma and a blank between each two
    its end         a closing brace, which begins no quoted text and no blank
-/
import TemplateRun.Proofs.Text.Quoted
import TemplateRun.Command.Basic

namespace TemplateRun.Invocation

open Text (SelfDelimiting Avoids isPrintable)
open Text.Quoted (encode selfDelimiting_encode avoids_encode isPrintable_of_mem_encode)

/-! ## The line as characters -/

def quotedChars (s : String) : List Char := encode s.toList

def entryChars (e : String × String) : List Char :=
  quotedChars e.1 ++ (": ".toList ++ quotedChars e.2)

def memoryChars (memory : Memory) : List Char :=
  ", ".toList.intercalate (memory.entries.map entryChars)

theorem toList_quote (s : String) : (Text.quote s).toList = quotedChars s := String.toList_ofList

theorem toList_entry (e : String × String) :
    (Text.quote e.1 ++ ": " ++ Text.quote e.2).toList = entryChars e := by
  rw [String.toList_append, String.toList_append, toList_quote, toList_quote, List.append_assoc,
    entryChars]

theorem toList_entriesText (memory : Memory) :
    (entriesText memory).toList = memoryChars memory := by
  rw [entriesText, String.toList_intercalate, List.map_map, memoryChars]
  exact congrArg _ (List.map_congr_left fun e _ => toList_entry e)

theorem message_eq (i : Invocation) :
    i.record.message = "Parsed invocation: " ++ ("Invocation(input=" ++ Text.quote i.input ++
      ", output=" ++ Text.quote i.output ++ ", default_memory=mappingproxy(\x7b" ++
      entriesText i.memory ++ "\x7d))") := rfl

theorem toList_message (i : Invocation) :
    i.record.message.toList =
      "Parsed invocation: ".toList ++ ("Invocation(input=".toList ++
        ((quotedChars i.input ++ (", output=".toList ++ quotedChars i.output)) ++
          (", default_memory=mappingproxy(\x7b".toList ++
            (memoryChars i.memory ++ '\x7d' :: "))".toList)))) := by
  have hend : "\x7d))".toList = '\x7d' :: "))".toList := by decide
  rw [message_eq]
  simp only [String.toList_append, toList_quote, toList_entriesText, hend, List.append_assoc]

/-! ## The line tells the invocation -/

theorem selfDelimiting_quotedChars : SelfDelimiting quotedChars :=
  selfDelimiting_encode.comp fun _ _ => String.toList_inj.mp

theorem selfDelimiting_entryChars : SelfDelimiting entryChars :=
  selfDelimiting_quotedChars.pair selfDelimiting_quotedChars ": ".toList

theorem avoids_entryChars : Avoids entryChars '\x7d' := by
  have hbrace : ¬Text.Quoted.IsDelimiter '\x7d' := by rintro (h | h) <;> revert h <;> decide
  intro e
  obtain ⟨c, cs, hc, hne⟩ := avoids_encode hbrace e.1.toList
  exact ⟨c, cs ++ (": ".toList ++ quotedChars e.2), by rw [entryChars, quotedChars, hc]; rfl, hne⟩

/-- One line, one invocation. -/
theorem fields_eq_of_message_eq {i j : Invocation} (h : i.record.message = j.record.message) :
    i.input = j.input ∧ i.output = j.output ∧ i.memory.entries = j.memory.entries := by
  have hchars := congrArg String.toList h
  rw [toList_message, toList_message] at hchars
  obtain ⟨hnames, hmemory⟩ :=
    selfDelimiting_quotedChars.pair selfDelimiting_quotedChars ", output=".toList
      (i.input, i.output) (j.input, j.output) _ _
      (List.append_cancel_left (List.append_cancel_left hchars))
  obtain ⟨hinput, houtput⟩ := Prod.mk.inj hnames
  have hcomma : ',' ≠ '\x7d' := by decide
  obtain ⟨hentries, -⟩ := selfDelimiting_entryChars.intercalate avoids_entryChars hcomma [' ']
    (List.append_cancel_left hmemory)
  exact ⟨hinput, houtput, hentries⟩

/-! ## The line is one line -/

theorem isPrintable_quotedChars (s : String) : ∀ c ∈ quotedChars s, isPrintable c = true :=
  fun _ => isPrintable_of_mem_encode

theorem isPrintable_memoryChars (memory : Memory) :
    ∀ c ∈ memoryChars memory, isPrintable c = true := by
  have hcomma : ∀ c ∈ ", ".toList, isPrintable c = true :=
    List.all_eq_true.mp (by decide +kernel)
  have hcolon : ∀ c ∈ ": ".toList, isPrintable c = true :=
    List.all_eq_true.mp (by decide +kernel)
  have hentry (e : String × String) : ∀ c ∈ entryChars e, isPrintable c = true := by
    rw [entryChars, List.forall_mem_append, List.forall_mem_append]
    exact ⟨isPrintable_quotedChars e.1, hcolon, isPrintable_quotedChars e.2⟩
  intro c hc
  rcases mem_intercalate_iff.mp hc with ⟨piece, hpiece, hc⟩ | ⟨hc, -⟩
  · obtain ⟨e, -, rfl⟩ := List.mem_map.mp hpiece
    exact hentry e c hc
  · exact hcomma c hc

theorem isPrintable_message (i : Invocation) :
    ∀ c ∈ i.record.message.toList, isPrintable c = true := by
  have hrecord : ∀ c ∈ "Parsed invocation: ".toList, isPrintable c = true :=
    List.all_eq_true.mp (by decide +kernel)
  have hinput : ∀ c ∈ "Invocation(input=".toList, isPrintable c = true :=
    List.all_eq_true.mp (by decide +kernel)
  have houtput : ∀ c ∈ ", output=".toList, isPrintable c = true :=
    List.all_eq_true.mp (by decide +kernel)
  have hmemory : ∀ c ∈ ", default_memory=mappingproxy(\x7b".toList, isPrintable c = true :=
    List.all_eq_true.mp (by decide +kernel)
  have hend : ∀ c ∈ '\x7d' :: "))".toList, isPrintable c = true :=
    List.all_eq_true.mp (by decide +kernel)
  rw [toList_message]
  simp only [List.forall_mem_append]
  exact ⟨hrecord, hinput, ⟨isPrintable_quotedChars _, houtput, isPrintable_quotedChars _⟩, hmemory,
    isPrintable_memoryChars _, hend⟩

/-! ## The record -/

/-- Where a command line is carried out, one record says first what was read from it: a printable
line that holds the input, the output and the entries of the memory in their order, and that no
command line leaves from which anything else was read. -/
theorem record_tells {tokens : List (Option String)} {i : Invocation} (h : read tokens = .ok i) :
    (∀ {σ : Type} (host : Host σ), (Command.leading tokens).bind Command.answerTo? = none →
      Command.run host tokens = do
        Command.record i.record
        return .returned (← Command.carryOut host i)) ∧
    i.record = ⟨.debug, "jamplate_cli.core.arguments",
      "Parsed invocation: " ++ ("Invocation(input=" ++ Text.quote i.input ++ ", output=" ++
        Text.quote i.output ++ ", default_memory=mappingproxy(\x7b" ++
        ", ".intercalate (i.memory.entries.map fun e => Text.quote e.1 ++ ": " ++ Text.quote e.2) ++
        "\x7d))")⟩ ∧
    (∀ c ∈ i.record.message.toList, isPrintable c = true) ∧ '\n' ∉ i.record.message.toList ∧
    ∀ tokens' j, read tokens' = .ok j → (i.record.message = j.record.message ↔
      i.input = j.input ∧ i.output = j.output ∧ i.memory.entries = j.memory.entries) := by
  refine ⟨fun host hanswer => ?_, ?_, isPrintable_message i, fun hbreak => ?_,
    fun tokens' j _ => ⟨fields_eq_of_message_eq, fun hfields => ?_⟩⟩
  · rw [Command.run, hanswer]
    dsimp only
    rw [h]
  · rfl
  · exact absurd (isPrintable_message i _ hbreak) (by decide)
  · obtain ⟨hinput, houtput, hentries⟩ := hfields
    rw [← String.toList_inj, toList_message, toList_message, memoryChars, memoryChars, hinput,
      houtput, hentries]

/-- An entry whose value is written like the end of it and the beginning of another. -/
def forged : Invocation := (read [some "a", some "k=v', 'l': 'w\n"]).toOption.get rfl

def genuine : Invocation := (read [some "a", some "k=v", some "l=w\n"]).toOption.get rfl

theorem forged_record_tells :
    read [some "a", some "k=v', 'l': 'w\n"] = .ok forged ∧
    read [some "a", some "k=v", some "l=w\n"] = .ok genuine ∧
    '\n' ∉ forged.record.message.toList ∧ forged.record.message ≠ genuine.record.message := by
  have hforged : read [some "a", some "k=v', 'l': 'w\n"] = .ok forged := rfl
  have hgenuine : read [some "a", some "k=v", some "l=w\n"] = .ok genuine := rfl
  have hdiffer : forged.memory.entries ≠ genuine.memory.entries := by decide
  obtain ⟨-, -, -, hbreak, htells⟩ := record_tells hforged
  exact ⟨hforged, hgenuine, hbreak, fun h => hdiffer ((htells _ _ hgenuine).mp h).2.2⟩

end TemplateRun.Invocation
