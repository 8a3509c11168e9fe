/-
# `Equality` — which command lines ask for the same

Two invocations are equal if nothing that uses them can tell them apart but by the order of the
memory.  Of the command lines that they were read from this says: the same input, the same output
directory in the end, and in the end the same value under every key (`SaySame`).  What was
overwritten does not count, nor where an entry stands among the others.

    LastOutput, LastValue   what a list of settings comes to, said from the whole list
    SameEffect              two lists come to the same
    Exchanges               two options that stand side by side have changed places

What a list comes to is what its end comes to, and else what the rest does (`directory?_append`,
`get?_memoryOf_append`).  So two settings side by side may change places unless both say something
of one thing, and not the same (`Clash`).
-/
import TemplateRun.Proofs.Invocation.Grammar

namespace TemplateRun.Invocation

/-! ## What settings come to -/

/-- The directory is the last that the settings name, or the default one if they name none. -/
def LastOutput (settings : List Setting) (directory : String) : Prop :=
  (∃ before after, settings = before ++ .output directory :: after ∧
    ∀ other, .output other ∉ after) ∨
  (directory = "output" ∧ ∀ other, .output other ∉ settings)

/-- The value is the last that the settings give to the key. -/
def LastValue (settings : List Setting) (key value : String) : Prop :=
  ∃ before after, settings = before ++ .entry key value :: after ∧ ∀ other, .entry key other ∉ after

/-- Two lists of settings come to the same. -/
structure SameEffect (settings settings' : List Setting) : Prop where
  output : ∀ directory, LastOutput settings directory ↔ LastOutput settings' directory
  values : ∀ key value, LastValue settings key value ↔ LastValue settings' key value

theorem sameEffect_iff {settings settings' : List Setting} :
    SameEffect settings settings' ↔ outputOf settings = outputOf settings' ∧
      ∀ key, (memoryOf settings).get? key = (memoryOf settings').get? key := by
  constructor
  · rintro ⟨houtput, hvalues⟩
    refine ⟨(outputOf_eq_iff.mpr ((houtput _).mp (outputOf_eq_iff.mp rfl))).symm, fun key => ?_⟩
    refine Option.ext fun value => ?_
    rw [get?_memoryOf_eq_some_iff, get?_memoryOf_eq_some_iff]
    exact hvalues key value
  · rintro ⟨houtput, hvalues⟩
    refine ⟨fun directory => ?_, fun key value => ?_⟩
    · rw [LastOutput, LastOutput, ← outputOf_eq_iff, ← outputOf_eq_iff, houtput]
    · rw [LastValue, LastValue, ← get?_memoryOf_eq_some_iff, ← get?_memoryOf_eq_some_iff, hvalues]

/-! ## What a command line says -/

/-- The command line has this input, and its options these settings. -/
def Says (tokens : List (Option String)) (input : String) (settings : List Setting) : Prop :=
  ∃ options, realTokens tokens = input :: options ∧ Splits options settings

/-- Two command lines have one input, and come to the same. -/
def SaySame (tokens tokens' : List (Option String)) : Prop :=
  ∃ input settings settings', Says tokens input settings ∧ Says tokens' input settings' ∧
    SameEffect settings settings'

theorem read_eq_ok_iff_says {tokens : List (Option String)} {i : Invocation} :
    read tokens = .ok i ↔ ∃ settings, Says tokens i.input settings ∧
      i.output = outputOf settings ∧ i.memory = memoryOf settings := by
  cases h : realTokens tokens with
  | nil =>
      rw [read_nil h]
      constructor
      · rintro ⟨⟩
      · rintro ⟨settings, ⟨options, hreal, -⟩, -⟩
        rw [h] at hreal
        cases hreal
  | cons input options =>
      rw [read_eq_ok_iff h]
      simp only [amounts_iff]
      constructor
      · rintro ⟨rfl, settings, hsplits, heffect⟩
        exact ⟨settings, ⟨options, h, hsplits⟩, heffect⟩
      · rintro ⟨settings, ⟨options', hreal, hsplits⟩, heffect⟩
        rw [h] at hreal
        obtain ⟨hinput, rfl⟩ := List.cons.inj hreal
        exact ⟨hinput.symm, settings, hsplits, heffect⟩

theorem Says.unique {tokens : List (Option String)} {input input' : String}
    {settings settings' : List Setting} (h : Says tokens input settings)
    (h' : Says tokens input' settings') : input = input' ∧ settings = settings' := by
  obtain ⟨options, hreal, hsplits⟩ := h
  obtain ⟨options', hreal', hsplits'⟩ := h'
  rw [hreal] at hreal'
  obtain ⟨hinput, rfl⟩ := List.cons.inj hreal'
  refine ⟨hinput, ?_⟩
  rw [← readOptions_eq_ok_iff] at hsplits hsplits'
  rw [hsplits] at hsplits'
  exact Except.ok.inj hsplits'

theorem beq_iff_saySame {tokens tokens' : List (Option String)} {i j : Invocation}
    (hi : read tokens = .ok i) (hj : read tokens' = .ok j) :
    (i == j) = true ↔ SaySame tokens tokens' := by
  obtain ⟨settings, hsays, houtput, hmemory⟩ := read_eq_ok_iff_says.mp hi
  obtain ⟨settings', hsays', houtput', hmemory'⟩ := read_eq_ok_iff_says.mp hj
  rw [beq_iff, houtput, houtput', hmemory, hmemory', ← sameEffect_iff]
  constructor
  · rintro ⟨hinput, heffect⟩
    exact ⟨i.input, settings, settings', hsays, hinput ▸ hsays', heffect⟩
  · rintro ⟨input, others, others', hothers, hothers', heffect⟩
    obtain ⟨hinput, rfl⟩ := hsays.unique hothers
    obtain ⟨hinput', rfl⟩ := hsays'.unique hothers'
    exact ⟨hinput.trans hinput'.symm, heffect⟩

/-! ## Options that change places -/

/-- The last directory that settings name, if they name one. -/
def directory? (settings : List Setting) : Option String :=
  (settings.filterMap Setting.output?).getLast?

theorem directory?_append (settings more : List Setting) :
    directory? (settings ++ more) = (directory? more).or (directory? settings) := by
  rw [directory?, List.filterMap_append, List.getLast?_append]
  rfl

theorem get?_memoryOf_append (settings more : List Setting) (key : String) :
    (memoryOf (settings ++ more)).get? key =
      ((memoryOf more).get? key).or ((memoryOf settings).get? key) := by
  simp only [memoryOf, OrderedMap.get?_ofList, List.filterMap_append, List.reverse_append,
    List.lookup_append]

/-- Two settings say different things of one thing. -/
def Clash : Setting → Setting → Prop
  | .entry key value, .entry key' value' => key = key' ∧ value ≠ value'
  | .output directory, .output directory' => directory ≠ directory'
  | _, _ => False

theorem directory?_exchange {s t : Setting} (h : ¬Clash s t) :
    directory? [s, t] = directory? [t, s] := by
  cases s with
  | entry _ _ => cases t <;> rfl
  | output directory =>
      cases t with
      | entry _ _ => rfl
      | output directory' => rw [not_not.mp h]

theorem get?_memoryOf_exchange {s t : Setting} (h : ¬Clash s t) (key : String) :
    (memoryOf [s, t]).get? key = (memoryOf [t, s]).get? key := by
  cases s with
  | output _ => cases t <;> rfl
  | entry k v =>
      cases t with
      | output _ => rfl
      | entry k' v' =>
          have hread (a b : String × String) : (OrderedMap.ofList [a, b]).get? key =
              if key = b.1 then some b.2 else if key = a.1 then some a.2 else none := by
            rw [OrderedMap.ofList, List.foldl_cons, List.foldl_cons, List.foldl_nil,
              OrderedMap.get?_insert, OrderedMap.get?_insert, OrderedMap.get?_empty]
          have hsame : k = k' → v = v' := fun hk => not_not.mp fun hv => h ⟨hk, hv⟩
          show (OrderedMap.ofList [(k, v), (k', v')]).get? key =
            (OrderedMap.ofList [(k', v'), (k, v)]).get? key
          rw [hread, hread]
          by_cases hk : key = k
          · by_cases hk' : key = k'
            · obtain rfl : k = k' := hk.symm.trans hk'
              rw [hsame rfl]
            · rw [if_pos hk, if_neg hk', if_pos hk]
          · rw [if_neg hk, if_neg hk]

/-- Settings that do not clash may change places. -/
theorem SameEffect.exchange {s t : Setting} (h : ¬Clash s t) (before after : List Setting) :
    SameEffect (before ++ ([s, t] ++ after)) (before ++ ([t, s] ++ after)) := by
  rw [sameEffect_iff]
  constructor
  · show (directory? _).getD defaultOutput = (directory? _).getD defaultOutput
    rw [directory?_append, directory?_append, directory?_append before, directory?_append [t, s],
      directory?_exchange h]
  · intro key
    rw [get?_memoryOf_append, get?_memoryOf_append, get?_memoryOf_append before,
      get?_memoryOf_append [t, s], get?_memoryOf_exchange h]

/-- `Exchanges tokens tokens'`: two options, each whole, stand side by side in the one command line
and the other way round in the other, and do not clash. -/
inductive Exchanges (tokens tokens' : List (Option String)) : Prop
  | intro {input : String} {first second : List String} {settings : List Setting} {s t : Setting}
      (before after : List String) :
      realTokens tokens = input :: (before ++ (first ++ (second ++ after))) →
      realTokens tokens' = input :: (before ++ (second ++ (first ++ after))) →
      Options before settings → Options first [s] → Options second [t] → ¬Clash s t →
      Exchanges tokens tokens'

theorem readOptions_append_pair {before first second : List String} {settings : List Setting}
    {s t : Setting} (hbefore : Options before settings) (hfirst : Options first [s])
    (hsecond : Options second [t]) (after : List String) :
    readOptions (before ++ (first ++ (second ++ after))) =
      (readOptions after).map fun rest => settings ++ ([s, t] ++ rest) := by
  rw [readOptions_append hbefore, readOptions_append hfirst, readOptions_append hsecond]
  cases readOptions after <;> rfl

/-- A command line is read after the exchange too, and asks for the same. -/
theorem SaySame.of_exchanges {tokens tokens' : List (Option String)} {i : Invocation}
    (hi : read tokens = .ok i) (h : Exchanges tokens tokens') :
    ∃ j, read tokens' = .ok j ∧ SaySame tokens tokens' := by
  obtain @⟨input, first, second, settings, s, t, before, after, hreal, hreal', hbefore, hfirst,
    hsecond, hclash⟩ := h
  obtain ⟨found, ⟨options, hoptions, hsplits⟩, -⟩ := read_eq_ok_iff_says.mp hi
  rw [hreal] at hoptions
  obtain ⟨hinput, rfl⟩ := List.cons.inj hoptions
  rw [← readOptions_eq_ok_iff, readOptions_append_pair hbefore hfirst hsecond] at hsplits
  cases hafter : readOptions after with
  | error fault =>
      rw [hafter] at hsplits
      cases hsplits
  | ok rest =>
      have hsays : Says tokens input (settings ++ ([s, t] ++ rest)) := by
        refine ⟨_, hreal, readOptions_eq_ok_iff.mp ?_⟩
        rw [readOptions_append_pair hbefore hfirst hsecond, hafter]
        rfl
      have hsays' : Says tokens' input (settings ++ ([t, s] ++ rest)) := by
        refine ⟨_, hreal', readOptions_eq_ok_iff.mp ?_⟩
        rw [readOptions_append_pair hbefore hsecond hfirst, hafter]
        rfl
      have hne : input ≠ "" := hinput ▸ i.input_ne
      refine ⟨⟨input, _, _, hne⟩, read_eq_ok_iff_says.mpr ⟨_, hsays', rfl, rfl⟩, ?_⟩
      exact ⟨input, _, _, hsays, hsays', .exchange hclash settings rest⟩

/-! ## Equality -/

theorem hash_eq_of_beq {i j : Invocation} (h : (i == j) = true) : hash i = hash j := by
  obtain ⟨hinput, houtput, -⟩ := (beq_iff i j).mp h
  show mixHash (hash i.input) (hash i.output) = mixHash (hash j.input) (hash j.output)
  rw [hinput, houtput]

/-- Equality of invocations is what their command lines say, an equivalence, and kept by hashes and
by options that change places. -/
theorem equality_of_read :
    (∀ tokens tokens' i j, read tokens = .ok i → read tokens' = .ok j →
      ((i == j) = true ↔ SaySame tokens tokens')) ∧
    (∀ i j : Invocation, (i == j) = true → hash i = hash j) ∧
    (∀ i : Invocation, (i == i) = true) ∧
    (∀ i j : Invocation, (i == j) = true → (j == i) = true) ∧
    (∀ i j k : Invocation, (i == j) = true → (j == k) = true → (i == k) = true) ∧
    (∀ tokens tokens' i, read tokens = .ok i → Exchanges tokens tokens' →
      ∃ j, read tokens' = .ok j ∧ (i == j) = true) := by
  refine ⟨fun _ _ _ _ => beq_iff_saySame, fun _ _ => hash_eq_of_beq, fun i => ?_, fun i j h => ?_,
    fun i j k h h' => ?_, fun tokens tokens' i hi h => ?_⟩
  · exact (beq_iff i i).mpr ⟨rfl, rfl, fun _ => rfl⟩
  · obtain ⟨hinput, houtput, hvalues⟩ := (beq_iff i j).mp h
    exact (beq_iff j i).mpr ⟨hinput.symm, houtput.symm, fun key => (hvalues key).symm⟩
  · obtain ⟨hinput, houtput, hvalues⟩ := (beq_iff i j).mp h
    obtain ⟨hinput', houtput', hvalues'⟩ := (beq_iff j k).mp h'
    exact (beq_iff i k).mpr ⟨hinput.trans hinput', houtput.trans houtput',
      fun key => (hvalues key).trans (hvalues' key)⟩
  · obtain ⟨j, hj, hsame⟩ := SaySame.of_exchanges hi h
    exact ⟨j, hj, (beq_iff_saySame hi hj).mpr hsame⟩

/-- Two entries, `-o` with a directory that looks like another `-o`, and a last `-o`. -/
def oneOrder : List (Option String) :=
  [some "a", some "k=v", none, some "l=w", some "-o", some "-o", some "-o"]

/-- The same, where the entries have changed places. -/
def otherOrder : List (Option String) :=
  [some "a", some "l=w", some "k=v", some "-o", some "", some "-o", some "-o"]

def oneInvocation : Invocation :=
  ⟨"a", "-o", OrderedMap.ofList [("k", "v"), ("l", "w")], by decide⟩

def otherInvocation : Invocation :=
  ⟨"a", "-o", OrderedMap.ofList [("l", "w"), ("k", "v")], by decide⟩

theorem oneOrder_equality :
    read oneOrder = .ok oneInvocation ∧ read otherOrder = .ok otherInvocation ∧
    Exchanges oneOrder otherOrder ∧ SaySame oneOrder otherOrder ∧
    (oneInvocation == otherInvocation) = true ∧ (otherInvocation == oneInvocation) = true ∧
    (oneInvocation == oneInvocation) = true ∧ hash oneInvocation = hash otherInvocation ∧
    oneInvocation.memory ≠ otherInvocation.memory := by
  obtain ⟨hlaw, hhash, -, hsymm, htrans, hexchange⟩ := equality_of_read
  have hone : read oneOrder = .ok oneInvocation := rfl
  have hother : read otherOrder = .ok otherInvocation := rfl
  have hexchanges : Exchanges oneOrder otherOrder :=
    have hk : Options ["k" ++ "=" ++ "v"] [.entry "k" "v"] := .entry (by decide) .nil
    have hl : Options ["l" ++ "=" ++ "w"] [.entry "l" "w"] := .entry (by decide) .nil
    have hclash : ¬("k" = "l" ∧ "v" ≠ "w") := by decide
    .intro [] ["-o", "-o", "-o"] rfl rfl .nil hk hl hclash
  obtain ⟨j, hj, hbeq⟩ := hexchange _ _ _ hone hexchanges
  rw [hother] at hj
  cases hj
  have hback := hsymm _ _ hbeq
  exact ⟨hone, hother, hexchanges, (hlaw _ _ _ _ hone hother).mp hbeq, hbeq, hback,
    htrans _ _ _ hbeq hback, hhash _ _ hbeq, by decide⟩

end TemplateRun.Invocation
