/-
# `Rendering` — reading undoes writing

An invocation can be written as a command line in many ways.  The input comes first; behind it stand
the entries of the memory in their order, each as one token, and at some place between them `-o`
with the output directory; and placeholders may stand anywhere, also behind `-o` (`Renders`).  All
of these are read as the invocation that was written (`read_rendering`).

What is asked of the invocation is that it can be written: an empty output directory would be a
placeholder, and a key with a `=` in it would end there.  Nothing is asked of what tokens look like.
An input or an output directory that reads `-o` or `k=v` is taken for what it is by its place, and a
value by the first `=` in its token.
-/
import TemplateRun.Proofs.Invocation.Grammar

namespace TemplateRun.Invocation

/-! ## Writing -/

/-- `Padded tokens padded`: the same tokens in the same order, with placeholders between them. -/
inductive Padded : List String → List (Option String) → Prop
  | nil : Padded [] []
  | missing {tokens : List String} {padded : List (Option String)} :
      Padded tokens padded → Padded tokens (none :: padded)
  | empty {tokens : List String} {padded : List (Option String)} :
      Padded tokens padded → Padded tokens (some "" :: padded)
  | token {tokens : List String} {padded : List (Option String)} (token : String) :
      Padded tokens padded → Padded (token :: tokens) (some token :: padded)

def entryToken (entry : String × String) : String := entry.1 ++ "=" ++ entry.2

/-- The tokens behind the input, with the output directory between some entries and others. -/
def optionTokens (before : List (String × String)) (output : String)
    (after : List (String × String)) : List String :=
  before.map entryToken ++ "-o" :: output :: after.map entryToken

/-- The command line is one of those that the invocation is written as. -/
def Renders (i : Invocation) (tokens : List (Option String)) : Prop :=
  ∃ before after, i.memory.entries = before ++ after ∧
    Padded (i.input :: optionTokens before i.output after) tokens

/-! ## Reading what was written -/

theorem Padded.realTokens {tokens : List String} {padded : List (Option String)}
    (h : Padded tokens padded) (hreal : ∀ token ∈ tokens, token ≠ "") :
    realTokens padded = tokens := by
  induction h with
  | nil => rfl
  | missing _ ih => exact ih hreal
  | empty _ ih => exact ih hreal
  | token token _ ih =>
      obtain ⟨htoken, hrest⟩ := List.forall_mem_cons.mp hreal
      have hkeep : (some token).filter (· ≠ "") = some token :=
        Option.filter_some_pos (decide_eq_true htoken)
      rw [Invocation.realTokens, List.filterMap_cons, hkeep]
      exact congrArg (token :: ·) (ih hrest)

theorem entryToken_ne_empty (entry : String × String) : entryToken entry ≠ "" := by
  intro h
  have hchars := congrArg String.toList h
  simp [entryToken] at hchars

section
variable {before after : List (String × String)} {output : String}

theorem ne_empty_of_mem_optionTokens (houtput : output ≠ "") :
    ∀ token ∈ optionTokens before output after, token ≠ "" := by
  have hentries (entries : List (String × String)) :
      ∀ token ∈ entries.map entryToken, token ≠ "" := by
    intro token htoken
    obtain ⟨entry, -, rfl⟩ := List.mem_map.mp htoken
    exact entryToken_ne_empty entry
  refine List.forall_mem_append.mpr ⟨hentries before, List.forall_mem_cons.mpr ⟨by decide, ?_⟩⟩
  exact List.forall_mem_cons.mpr ⟨houtput, hentries after⟩

def entrySetting (entry : String × String) : Setting := .entry entry.1 entry.2

def optionSettings (before : List (String × String)) (output : String)
    (after : List (String × String)) : List Setting :=
  before.map entrySetting ++ .output output :: after.map entrySetting

theorem Options.behind {entries : List (String × String)} {tokens : List String}
    {settings : List Setting} (h : Options tokens settings)
    (hkeys : ∀ key ∈ entries.map Prod.fst, '=' ∉ key.toList) :
    Options (entries.map entryToken ++ tokens) (entries.map entrySetting ++ settings) := by
  induction entries with
  | nil => exact h
  | cons entry rest ih =>
      obtain ⟨hkey, hrest⟩ := List.forall_mem_cons.mp hkeys
      exact .entry hkey (ih hrest)

theorem options_optionTokens (hkeys : ∀ key ∈ (before ++ after).map Prod.fst, '=' ∉ key.toList) :
    Options (optionTokens before output after) (optionSettings before output after) := by
  rw [List.map_append, List.forall_mem_append] at hkeys
  have hafter := Options.nil.behind hkeys.2
  rw [List.append_nil, List.append_nil] at hafter
  exact hafter.output.behind hkeys.1

/-! ## What was written -/

theorem output_not_mem_entries (entries : List (String × String)) (directory : String) :
    .output directory ∉ entries.map entrySetting := by
  intro h
  obtain ⟨entry, -, he⟩ := List.mem_map.mp h
  exact nomatch he

theorem filterMap_entrySetting (entries : List (String × String)) :
    (entries.map entrySetting).filterMap Setting.entry? = entries := by
  rw [List.filterMap_map]
  exact List.filterMap_some

theorem memoryOf_optionSettings :
    memoryOf (optionSettings before output after) = OrderedMap.ofList (before ++ after) := by
  have hentries : (optionSettings before output after).filterMap Setting.entry? =
      before ++ after := by
    rw [optionSettings, List.filterMap_append, filterMap_entrySetting, List.filterMap_cons,
      filterMap_entrySetting]
    rfl
  rw [memoryOf, hentries]

end

/-- However an invocation is written, it is read back. -/
theorem read_rendering {i : Invocation} (houtput : i.output ≠ "")
    (hkeys : ∀ key ∈ i.memory.keys, '=' ∉ key.toList) {tokens : List (Option String)}
    (h : Renders i tokens) : read tokens = .ok i := by
  obtain ⟨before, after, hentries, hpadded⟩ := h
  have hreal : realTokens tokens = i.input :: optionTokens before i.output after :=
    hpadded.realTokens
      (List.forall_mem_cons.mpr ⟨i.input_ne, ne_empty_of_mem_optionTokens houtput⟩)
  rw [OrderedMap.keys, hentries] at hkeys
  refine (read_eq_ok_iff hreal).mpr ⟨rfl, _, .inl (options_optionTokens hkeys), ?_⟩
  refine amounts_iff.mpr ⟨?_, ?_⟩
  · exact (outputOf_last (output_not_mem_entries after)).symm
  · rw [memoryOf_optionSettings, ← hentries, OrderedMap.ofList_entries]

/-- An invocation whose parts look like options. -/
def lookalike : Invocation where
  input := "-o"
  output := "k=v"
  memory := OrderedMap.ofList [("", ""), ("a", "-o"), ("-o", "=")]
  input_ne := by decide

/-- A command line for it, with placeholders. -/
def lookalikeTokens : List (Option String) :=
  [none, some "-o", some "=", some "", some "-o", none, some "k=v", some "a=-o", some "",
    some "-o=="]

theorem lookalike_rendered : lookalike.output ≠ "" ∧
    (∀ key ∈ lookalike.memory.keys, '=' ∉ key.toList) ∧ Renders lookalike lookalikeTokens ∧
    read lookalikeTokens = .ok lookalike := by
  have houtput : lookalike.output ≠ "" := by decide
  have hkeys : ∀ key ∈ lookalike.memory.keys, '=' ∉ key.toList := by decide
  have hrenders : Renders lookalike lookalikeTokens := by
    refine ⟨[("", "")], [("a", "-o"), ("-o", "=")], rfl, ?_⟩
    refine .missing (.token "-o" (.token "=" (.empty (.token "-o" (.missing ?_)))))
    exact .token "k=v" (.token "a=-o" (.empty (.token "-o==" .nil)))
  exact ⟨houtput, hkeys, hrenders, read_rendering houtput hkeys hrenders⟩

end TemplateRun.Invocation
