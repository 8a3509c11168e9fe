/-
# `Grammar` — what a command line says, without reading it

The reader takes tokens from the left and decides at each what to do with the rest.  The grammar
here does not read: it says which token lists are options written out one after the other
(`Options`), which are options but for a last `-o` (`Splits`), and where a list stops being either
(`StopsAt`).  What options amount to is said from the whole list as well (`Amounts`): the last
output directory counts, and under every key the last value.

    the reader                  the grammar
    refuses for want of input   no token is real
    refuses an option           the tokens behind the input stop at it
    gives an invocation         they split, and amount to what it says

`read_grammar` is these three lines as equivalences, and that a command line which splits is read.
A token behind `-o` is passed over by the grammar whatever it looks like, and so neither becomes an
entry nor stops the list.
-/
import TemplateRun.Proofs.Invocation.Entry
import TemplateRun.Proofs.Writes

namespace TemplateRun.Invocation

/-! ## The grammar -/

/-- `Options tokens settings`: the tokens are options, each whole, and set these things. -/
inductive Options : List String → List Setting → Prop
  | nil : Options [] []
  | entry {key value : String} {tokens : List String} {settings : List Setting} :
      '=' ∉ key.toList → Options tokens settings →
      Options ((key ++ "=" ++ value) :: tokens) (.entry key value :: settings)
  | output {directory : String} {tokens : List String} {settings : List Setting} :
      Options tokens settings →
      Options ("-o" :: directory :: tokens) (.output directory :: settings)

/-- The tokens are options, and perhaps a last `-o` with nothing behind it. -/
def Splits (tokens : List String) (settings : List Setting) : Prop :=
  Options tokens settings ∨ ∃ before, tokens = before ++ ["-o"] ∧ Options before settings

/-- Behind whole options there is a token that begins none. -/
def StopsAt (tokens : List String) (token : String) : Prop :=
  ∃ before settings after, tokens = before ++ token :: after ∧ Options before settings ∧
    '=' ∉ token.toList ∧ token ≠ "-o"

/-- What settings come to: the last output directory, and the keys in the order in which they
first occur, each with its last value. -/
structure Amounts (settings : List Setting) (i : Invocation) : Prop where
  output :
    (∃ before after, settings = before ++ .output i.output :: after ∧
      ∀ directory, .output directory ∉ after) ∨
    (i.output = "output" ∧ ∀ directory, .output directory ∉ settings)
  keys : i.memory.keys = ((settings.filterMap Setting.entry?).map Prod.fst).eraseDups
  values : ∀ key value, i.memory.get? key = some value ↔
    ∃ before after, settings = before ++ .entry key value :: after ∧
      ∀ other, .entry key other ∉ after

/-! ## Reading options -/

theorem readOptions_entry {token key value : String} {rest : List String}
    (h : entry? token = some (key, value)) :
    readOptions (token :: rest) = (readOptions rest).map (.entry key value :: ·) := by
  rw [readOptions.eq_def]
  simp only [h]

theorem readOptions_output (directory : String) (rest : List String) :
    readOptions ("-o" :: directory :: rest) = (readOptions rest).map (.output directory :: ·) := by
  rw [readOptions.eq_def]
  rfl

theorem readOptions_stop {token : String} {rest : List String} (h : entry? token = none)
    (hflag : token ≠ "-o") : readOptions (token :: rest) = .error (.unknownOption token) := by
  rw [readOptions.eq_def]
  simp only [h]
  exact if_neg hflag

/-- Whole options are read, and reading goes on behind them. -/
theorem readOptions_append {tokens : List String} {settings : List Setting}
    (h : Options tokens settings) (rest : List String) :
    readOptions (tokens ++ rest) = (readOptions rest).map (settings ++ ·) := by
  induction h with
  | nil =>
      rw [List.nil_append]
      cases readOptions rest <;> rfl
  | entry hkey _ ih =>
      rw [List.cons_append, readOptions_entry (entry?_eq_some_iff.mpr ⟨rfl, hkey⟩), ih]
      cases readOptions rest <;> rfl
  | output _ ih =>
      rw [List.cons_append, List.cons_append, readOptions_output, ih]
      cases readOptions rest <;> rfl

theorem Splits.readOptions {tokens : List String} {settings : List Setting}
    (h : Splits tokens settings) : readOptions tokens = .ok settings := by
  rcases h with h | ⟨before, rfl, h⟩
  · have hread := readOptions_append h []
    rw [List.append_nil] at hread
    rw [hread]
    exact congrArg Except.ok (List.append_nil settings)
  · have hlast : Invocation.readOptions ["-o"] = .ok [] := by decide
    rw [readOptions_append h, hlast]
    exact congrArg Except.ok (List.append_nil settings)

theorem StopsAt.readOptions {tokens : List String} {token : String} (h : StopsAt tokens token) :
    readOptions tokens = .error (.unknownOption token) := by
  obtain ⟨before, settings, after, rfl, h, hentry, hflag⟩ := h
  rw [readOptions_append h, readOptions_stop (entry?_eq_none_iff.mpr hentry) hflag]
  rfl

/-! ## Every list splits or stops -/

theorem Splits.entry {key value : String} {tokens : List String} {settings : List Setting}
    (hkey : '=' ∉ key.toList) (h : Splits tokens settings) :
    Splits ((key ++ "=" ++ value) :: tokens) (.entry key value :: settings) := by
  rcases h with h | ⟨before, rfl, h⟩
  · exact .inl (.entry hkey h)
  · exact .inr ⟨_ :: before, rfl, .entry hkey h⟩

theorem Splits.output {directory : String} {tokens : List String} {settings : List Setting}
    (h : Splits tokens settings) :
    Splits ("-o" :: directory :: tokens) (.output directory :: settings) := by
  rcases h with h | ⟨before, rfl, h⟩
  · exact .inl (.output h)
  · exact .inr ⟨_ :: _ :: before, rfl, .output h⟩

theorem StopsAt.entry {key value token : String} {tokens : List String}
    (hkey : '=' ∉ key.toList) (h : StopsAt tokens token) :
    StopsAt ((key ++ "=" ++ value) :: tokens) token := by
  obtain ⟨before, settings, after, rfl, h, hstop⟩ := h
  exact ⟨_ :: before, _, after, rfl, .entry hkey h, hstop⟩

theorem StopsAt.output {directory token : String} {tokens : List String}
    (h : StopsAt tokens token) : StopsAt ("-o" :: directory :: tokens) token := by
  obtain ⟨before, settings, after, rfl, h, hstop⟩ := h
  exact ⟨_ :: _ :: before, _, after, rfl, .output h, hstop⟩

/-- The induction takes one token or two, as the options do. -/
theorem splits_or_stopsAt :
    ∀ tokens : List String, (∃ settings, Splits tokens settings) ∨ ∃ token, StopsAt tokens token
  | [] => .inl ⟨[], .inl .nil⟩
  | token :: rest => by
      cases hentry : entry? token with
      | some pair =>
          obtain ⟨rfl, hkey⟩ := entry?_eq_some_iff.mp hentry
          rcases splits_or_stopsAt rest with ⟨settings, h⟩ | ⟨bad, h⟩
          · exact .inl ⟨_, h.entry hkey⟩
          · exact .inr ⟨bad, h.entry hkey⟩
      | none =>
          by_cases hflag : token = "-o"
          · subst hflag
            match rest with
            | [] => exact .inl ⟨[], .inr ⟨[], rfl, .nil⟩⟩
            | directory :: rest =>
                rcases splits_or_stopsAt rest with ⟨settings, h⟩ | ⟨bad, h⟩
                · exact .inl ⟨_, h.output⟩
                · exact .inr ⟨bad, h.output⟩
          · exact .inr ⟨token, [], [], rest, rfl, .nil, entry?_eq_none_iff.mp hentry, hflag⟩

theorem readOptions_eq_ok_iff {tokens : List String} {settings : List Setting} :
    readOptions tokens = .ok settings ↔ Splits tokens settings := by
  refine ⟨fun h => ?_, Splits.readOptions⟩
  rcases splits_or_stopsAt tokens with ⟨found, hs⟩ | ⟨bad, hs⟩
  · rw [hs.readOptions] at h
    cases h
    exact hs
  · rw [hs.readOptions] at h
    exact nomatch h

theorem readOptions_eq_error_iff {tokens : List String} {fault : ArgumentFault} :
    readOptions tokens = .error fault ↔
      ∃ token, fault = .unknownOption token ∧ StopsAt tokens token := by
  constructor
  · intro h
    rcases splits_or_stopsAt tokens with ⟨found, hs⟩ | ⟨bad, hs⟩
    · rw [hs.readOptions] at h
      exact nomatch h
    · rw [hs.readOptions] at h
      cases h
      exact ⟨bad, rfl, hs⟩
  · rintro ⟨token, rfl, hs⟩
    exact hs.readOptions

-- what stands behind `-o` is a directory even where it looks like an option
example : readOptions ["-o", "-o", "k=v", "-o", "k=w", "-o"] =
    .ok [.output "-o", .entry "k" "v", .output "k=w"] := by decide

example : readOptions ["-o=b"] = .ok [.entry "-o" "b"] := by decide

/-! ## What settings come to -/

theorem filterMap_output_eq_nil {settings : List Setting}
    (h : ∀ directory, .output directory ∉ settings) : settings.filterMap Setting.output? = [] := by
  rw [List.filterMap_eq_nil_iff]
  intro s hs
  cases s with
  | entry _ _ => rfl
  | output directory => exact absurd hs (h directory)

/-- The list is cut at its last output directory, if it has one. -/
theorem exists_last_output (settings : List Setting) :
    (∀ directory, .output directory ∉ settings) ∨
    ∃ before directory after, settings = before ++ .output directory :: after ∧
      ∀ other, .output other ∉ after := by
  induction settings with
  | nil => exact .inl fun _ => List.not_mem_nil
  | cons s rest ih =>
      rcases ih with h | ⟨before, directory, after, rfl, h⟩
      · cases s with
        | entry key value => exact .inl fun d => by simp [h d]
        | output directory => exact .inr ⟨[], directory, rest, rfl, h⟩
      · exact .inr ⟨s :: before, directory, after, rfl, h⟩

theorem outputOf_last {before after : List Setting} {directory : String}
    (h : ∀ other, .output other ∉ after) :
    outputOf (before ++ .output directory :: after) = directory := by
  have hlast : (before ++ .output directory :: after).filterMap Setting.output? =
      before.filterMap Setting.output? ++ [directory] := by
    rw [List.filterMap_append, List.filterMap_cons, filterMap_output_eq_nil h]
    rfl
  rw [outputOf, hlast, List.getLast?_append_of_ne_nil _ (List.cons_ne_nil _ _)]
  rfl

theorem outputOf_none {settings : List Setting} (h : ∀ directory, .output directory ∉ settings) :
    outputOf settings = "output" := by
  rw [outputOf, filterMap_output_eq_nil h]
  rfl

theorem outputOf_eq_iff {settings : List Setting} {directory : String} :
    outputOf settings = directory ↔
      (∃ before after, settings = before ++ .output directory :: after ∧
        ∀ other, .output other ∉ after) ∨
      (directory = "output" ∧ ∀ other, .output other ∉ settings) := by
  constructor
  · rintro rfl
    rcases exists_last_output settings with h | ⟨before, directory, after, rfl, h⟩
    · exact .inr ⟨outputOf_none h, h⟩
    · exact .inl ⟨before, after, by rw [outputOf_last h], h⟩
  · rintro (⟨before, after, rfl, h⟩ | ⟨rfl, h⟩)
    · exact outputOf_last h
    · exact outputOf_none h

theorem not_mem_keys_iff {settings : List Setting} {key : String} :
    key ∉ (settings.filterMap Setting.entry?).map Prod.fst ↔
      ∀ value, .entry key value ∉ settings := by
  constructor
  · intro h value hmem
    exact h (List.mem_map.mpr ⟨(key, value), List.mem_filterMap.mpr ⟨_, hmem, rfl⟩, rfl⟩)
  · intro h hmem
    obtain ⟨⟨k, value⟩, hpair, rfl⟩ := List.mem_map.mp hmem
    obtain ⟨s, hs, hs'⟩ := List.mem_filterMap.mp hpair
    cases s with
    | output _ => exact nomatch hs'
    | entry k' v' =>
        cases hs'
        exact h _ hs

theorem get?_memoryOf_eq_some_iff {settings : List Setting} {key value : String} :
    (memoryOf settings).get? key = some value ↔
      ∃ before after, settings = before ++ .entry key value :: after ∧
        ∀ other, .entry key other ∉ after := by
  rw [memoryOf, OrderedMap.get?_ofList_eq_some_iff]
  constructor
  · rintro ⟨before, after, h, hkey⟩
    obtain ⟨front, back, rfl, -, hback⟩ := List.filterMap_eq_append_iff.mp h
    obtain ⟨skipped, s, last, rfl, -, hs, rfl⟩ := List.filterMap_eq_cons_iff.mp hback
    cases s with
    | output _ => exact nomatch hs
    | entry k v =>
        cases hs
        exact ⟨front ++ skipped, last, by simp, not_mem_keys_iff.mp hkey⟩
  · rintro ⟨before, after, rfl, hkey⟩
    exact ⟨_, _, by rw [List.filterMap_append]; rfl, not_mem_keys_iff.mpr hkey⟩

theorem amounts_iff {settings : List Setting} {i : Invocation} :
    Amounts settings i ↔ i.output = outputOf settings ∧ i.memory = memoryOf settings := by
  constructor
  · rintro ⟨houtput, hkeys, hvalues⟩
    refine ⟨(outputOf_eq_iff.mpr houtput).symm, OrderedMap.eq_of_keys_of_get? ?_ fun key => ?_⟩
    · rw [hkeys, memoryOf, OrderedMap.keys_ofList]
    · exact Option.ext fun value => by rw [hvalues, get?_memoryOf_eq_some_iff]
  · rintro ⟨houtput, hmemory⟩
    refine ⟨outputOf_eq_iff.mp houtput.symm, ?_, fun key value => ?_⟩
    · rw [hmemory, memoryOf, OrderedMap.keys_ofList]
    · rw [hmemory, get?_memoryOf_eq_some_iff]

/-! ## Reading a command line -/

theorem ne_empty_of_mem_realTokens {tokens : List (Option String)} {token : String}
    (h : token ∈ realTokens tokens) : token ≠ "" := by
  obtain ⟨t, -, ht⟩ := List.mem_filterMap.mp h
  rw [Option.filter_eq_some_iff] at ht
  simpa using ht.2

theorem read_nil {tokens : List (Option String)} (h : realTokens tokens = []) :
    read tokens = .error .noInput := by
  rw [read, h]

theorem read_cons {tokens : List (Option String)} {input : String} {options : List String}
    (h : realTokens tokens = input :: options) (hinput : input ≠ "") :
    read tokens = (readOptions options).map fun settings =>
      ⟨input, outputOf settings, memoryOf settings, hinput⟩ := by
  rw [read, h]
  show (readOptions options >>= fun settings =>
    make? input (outputOf settings) (memoryOf settings)) = _
  cases readOptions options with
  | error fault => rfl
  | ok settings => exact dif_neg hinput

theorem read_eq_error_iff {tokens : List (Option String)} {input : String} {options : List String}
    (h : realTokens tokens = input :: options) {fault : ArgumentFault} :
    read tokens = .error fault ↔ ∃ token, fault = .unknownOption token ∧ StopsAt options token := by
  have hinput : input ≠ "" := ne_empty_of_mem_realTokens (h ▸ List.mem_cons_self)
  rw [read_cons h hinput, ← readOptions_eq_error_iff]
  cases readOptions options with
  | error f => simp [Except.map]
  | ok settings => simp [Except.map]

theorem read_eq_ok_iff {tokens : List (Option String)} {input : String} {options : List String}
    (h : realTokens tokens = input :: options) {i : Invocation} :
    read tokens = .ok i ↔ i.input = input ∧ ∃ settings, Splits options settings ∧
      Amounts settings i := by
  have hinput : input ≠ "" := ne_empty_of_mem_realTokens (h ▸ List.mem_cons_self)
  simp only [amounts_iff, ← readOptions_eq_ok_iff]
  rw [read_cons h hinput]
  obtain ⟨name, output, memory, hname⟩ := i
  cases readOptions options with
  | error f => simp [Except.map]
  | ok settings =>
      simp only [Except.map, Except.ok.injEq, Invocation.mk.injEq, exists_eq_left']
      exact ⟨fun ⟨hi, ho, hm⟩ => ⟨hi.symm, ho.symm, hm.symm⟩,
        fun ⟨hi, ho, hm⟩ => ⟨hi.symm, ho.symm, hm.symm⟩⟩

theorem exists_of_read {tokens : List (Option String)} {i : Invocation} (h : read tokens = .ok i) :
    ∃ options settings, realTokens tokens = i.input :: options ∧ Splits options settings ∧
      Amounts settings i := by
  cases hreal : realTokens tokens with
  | nil =>
      rw [read_nil hreal] at h
      exact nomatch h
  | cons input options =>
      obtain ⟨rfl, settings, hsplits, hamounts⟩ := (read_eq_ok_iff hreal).mp h
      exact ⟨options, settings, rfl, hsplits, hamounts⟩

theorem exists_read {tokens : List (Option String)} {input : String} {options : List String}
    {settings : List Setting} (h : realTokens tokens = input :: options)
    (hs : Splits options settings) :
    ∃ i, read tokens = .ok i ∧ i.input = input ∧ Amounts settings i := by
  have hinput : input ≠ "" := ne_empty_of_mem_realTokens (h ▸ List.mem_cons_self)
  have hamounts : Amounts settings ⟨input, outputOf settings, memoryOf settings, hinput⟩ :=
    amounts_iff.mpr ⟨rfl, rfl⟩
  exact ⟨_, (read_eq_ok_iff h).mpr ⟨rfl, settings, hs, hamounts⟩, rfl, hamounts⟩

/-- The three ways in which a command line is read, each said without the reader. -/
theorem read_grammar (tokens : List (Option String)) :
    (read tokens = .error .noInput ↔ realTokens tokens = []) ∧
    (∀ option, read tokens = .error (.unknownOption option) ↔
      ∃ input options, realTokens tokens = input :: options ∧ StopsAt options option) ∧
    (∀ i, read tokens = .ok i ↔
      ∃ options settings, realTokens tokens = i.input :: options ∧ Splits options settings ∧
        Amounts settings i) ∧
    ((∃ i, read tokens = .ok i) ↔
      ∃ input options settings, realTokens tokens = input :: options ∧ Splits options settings) := by
  cases h : realTokens tokens with
  | nil =>
      have hread := read_nil h
      simp [hread]
  | cons input options =>
      refine ⟨?_, fun option => ?_, fun i => ?_, ?_⟩
      · simp [read_eq_error_iff h]
      · rw [read_eq_error_iff h]
        simp
      · rw [read_eq_ok_iff h]
        constructor
        · rintro ⟨rfl, settings, hs⟩
          exact ⟨options, settings, rfl, hs⟩
        · rintro ⟨_, settings, he, hs⟩
          obtain ⟨rfl, rfl⟩ := List.cons.inj he
          exact ⟨rfl, settings, hs⟩
      · constructor
        · rintro ⟨i, hi⟩
          obtain ⟨-, settings, hs, -⟩ := (read_eq_ok_iff h).mp hi
          exact ⟨input, options, settings, rfl, hs⟩
        · rintro ⟨_, _, settings, he, hs⟩
          obtain ⟨rfl, rfl⟩ := List.cons.inj he
          have hinput : input ≠ "" := ne_empty_of_mem_realTokens (h ▸ List.mem_cons_self)
          refine ⟨⟨input, outputOf settings, memoryOf settings, hinput⟩, ?_⟩
          exact (read_eq_ok_iff h).mpr ⟨rfl, settings, hs, amounts_iff.mpr ⟨rfl, rfl⟩⟩

end TemplateRun.Invocation
