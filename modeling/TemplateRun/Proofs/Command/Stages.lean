/-
# `Stages` — the stage that stops the program is the last one that matters

The program looks at the command line, at the disk and at the registered engines, in this order.
What comes after the stage that stops it makes no difference, which is said by comparing two runs:
they start with the same terminal, on hosts that have nothing in common but what has been looked at,
and they end alike and leave everything but the terminal as it was (`Agree`).

    answered       the first real token asks for help or for the version
    rejected       the command line is no invocation
    unresolved     there are no documents, on the disk that both hosts have
    unloaded       there is no engine

The first real token is found in one place and read as the input in another.  `Leads` says that it
is one token, and that a flag which stands anywhere else is a token like others.
-/
import TemplateRun.Proofs.Command.Program
import TemplateRun.Proofs.Invocation.Grammar

namespace TemplateRun

variable {σ τ α β : Type}

/-! ## Two plays -/

/-- From the same terminal both plays come to the same result and the same terminal, and leave the
rest as it was. -/
def Agree (m : Play σ α) (m' : Play τ α) : Prop :=
  ∀ s t, s.terminal = t.terminal → ∃ r terminal,
    m s = some (r, { s with terminal := terminal }) ∧
    m' t = some (r, { t with terminal := terminal })

theorem agree_pure (a : α) : Agree (pure a : Play σ α) (pure a : Play τ α) := by
  intro s t h
  exact ⟨.ok a, s.terminal, rfl, by rw [h]; rfl⟩

theorem agree_ofExcept (q : Except Fault α) :
    Agree (Play.ofExcept q : Play σ α) (Play.ofExcept q : Play τ α) := by
  intro s t h
  cases q with
  | ok a => exact ⟨.ok a, s.terminal, rfl, by rw [h]; rfl⟩
  | error f => exact ⟨.error f, s.terminal, rfl, by rw [h]; rfl⟩

theorem Agree.bind {m : Play σ α} {m' : Play τ α} {next : α → Play σ β} {next' : α → Play τ β}
    (h : Agree m m') (hnext : ∀ a, Agree (next a) (next' a)) :
    Agree (m >>= next) (m' >>= next') := by
  intro s t hterminal
  obtain ⟨r, terminal, hs, ht⟩ := h s t hterminal
  cases r with
  | error f =>
      refine ⟨.error f, terminal, ?_, ?_⟩
      · rw [Play.bind_apply, hs]
      · rw [Play.bind_apply, ht]
  | ok a =>
      obtain ⟨q, terminal', hs', ht'⟩ :=
        hnext a { s with terminal := terminal } { t with terminal := terminal } rfl
      refine ⟨q, terminal', ?_, ?_⟩
      · rw [Play.bind_apply, hs]
        exact hs'
      · rw [Play.bind_apply, ht]
        exact ht'

theorem agree_say (notice : Console.Notice) :
    Agree (Play.say notice : Play σ Unit) (Play.say notice : Play τ Unit) := by
  intro s t h
  cases hw : s.terminal.console.write notice with
  | ok text =>
      refine ⟨.ok (), s.terminal.show text, by rw [Play.say, Play.put, hw], ?_⟩
      rw [Play.say, Play.put, ← h, hw]
  | error defect =>
      refine ⟨.error (.illMarked defect), s.terminal, by rw [Play.say, Play.put, hw], ?_⟩
      rw [Play.say, Play.put, ← h, hw, h]

namespace Command

theorem agree_record (r : Log.Record) :
    Agree (record r : Play σ Unit) (record r : Play τ Unit) := by
  intro s t h
  exact ⟨.ok (), s.terminal.record r, rfl, by rw [h]; rfl⟩

theorem agree_records (log : List Log.Record) :
    Agree (log.forM record : Play σ PUnit) (log.forM record : Play τ PUnit) := by
  induction log with
  | nil => exact agree_pure PUnit.unit
  | cons r log ih => exact (agree_record r).bind fun _ => ih

theorem agree_explain (fault : Fault) :
    Agree (explain fault : Play σ Unit) (explain fault : Play τ Unit) := by
  refine (agree_say _).bind fun _ => ?_
  cases fault.hint with
  | none => exact agree_pure ()
  | some advice =>
      dsimp only
      split
      · exact agree_say _
      · exact agree_pure ()

theorem agree_prepare (disk : Disk) (i : Invocation) :
    Agree (prepare disk i : Play σ Prepared) (prepare disk i : Play τ Prepared) := by
  unfold prepare
  generalize i.prepare disk.providers [] = preparation
  exact (agree_records _).bind fun _ => agree_ofExcept _

/-! ## Stages -/

section
variable {a : Host σ} {b : Host τ} {tokens : List (Option String)} {i : Invocation}

theorem agree_run_of_rejected {f : ArgumentFault} (h : ¬ Asks tokens)
    (hread : Invocation.read tokens = .error f) : Agree (run a tokens) (run b tokens) := by
  rw [run, run, answerTo?_eq_none h]
  simp only [hread]
  exact (agree_explain _).bind fun _ => (agree_say _).bind fun _ => agree_pure _

theorem agree_carryOut {f : Fault} (hdisk : b.disk = a.disk) (hf : preparedOf a.disk i = .error f) :
    Agree (carryOut a i) (carryOut b i) := by
  intro s t h
  obtain ⟨r, terminal, hs, ht⟩ := agree_prepare a.disk i s t h
  obtain ⟨s', hs', -⟩ := prepare_aside a.disk i s
  have hr : r = preparedOf a.disk i := by
    rw [hs, Option.some.injEq, Prod.mk.injEq] at hs'
    exact hs'.1
  rw [hr, hf] at hs ht
  refine ⟨.error f, terminal, ?_, ?_⟩
  · rw [carryOut, Play.bind_apply, hs]
  · rw [carryOut, hdisk, Play.bind_apply, ht]

theorem agree_run_of_unresolved {f : Fault} (h : ¬ Asks tokens)
    (hread : Invocation.read tokens = .ok i) (hdisk : b.disk = a.disk)
    (hf : preparedOf a.disk i = .error f) : Agree (run a tokens) (run b tokens) := by
  rw [run, run, answerTo?_eq_none h]
  simp only [hread]
  refine (agree_record _).bind fun _ => ?_
  exact (agree_carryOut hdisk hf).bind fun _ => agree_pure _

theorem run_of_unready {f : Fault} (h : ¬ Asks tokens) (hread : Invocation.read tokens = .ok i)
    (hf : Unready a i f) (s : Session σ) :
    ∃ s', run a tokens s = some (.error f, s') ∧ s'.past = s.past := by
  obtain ⟨t, haside, hrun⟩ := @run_of_read σ a i tokens h hread s
  obtain ⟨s', hs', hpast, -⟩ := carryOut_of_unready hf t
  exact ⟨s', by rw [hrun, Play.bind_apply, hs'], hpast.trans haside.past⟩

end

/-- `ShortCircuits a b tokens s t`: the runs of one command line on two hosts, stage by stage. -/
structure ShortCircuits (a : Host σ) (b : Host τ) (tokens : List (Option String)) (s : Session σ)
    (t : Session τ) : Prop where
  /-- What a first real token asks for is given, whatever is behind it and whatever the hosts have;
  the program exits with 0. -/
  answered : ∀ token text, leading tokens = some token → answerTo? token = some text →
    ∀ tokens', leading tokens' = some token → ∃ c, c.code = 0 ∧
      run a tokens s =
        some (.ok (.exited (.code c)), { s with terminal := s.terminal.answer text }) ∧
      run b tokens' t =
        some (.ok (.exited (.code c)), { t with terminal := s.terminal.answer text })
  /-- A rejected command line has the same explanation on any two hosts, and the code 64. -/
  rejected : ¬ Asks tokens → ∀ f, Invocation.read tokens = .error f → ∃ c terminal, c.code = 64 ∧
    run a tokens s = some (.ok (.returned c), { s with terminal := terminal }) ∧
    run b tokens t = some (.ok (.returned c), { t with terminal := terminal })
  /-- Without documents the fault is the same whatever engines there are. -/
  unresolved : ¬ Asks tokens → ∀ i f, Invocation.read tokens = .ok i →
    a.disk.discover i.project = .error f → b.disk = a.disk → ∃ terminal,
      run a tokens s = some (.error f, { s with terminal := terminal }) ∧
      run b tokens t = some (.error f, { t with terminal := terminal })
  /-- Without an engine nothing happens to the pipeline. -/
  unloaded : ¬ Asks tokens → ∀ i f, Invocation.read tokens = .ok i →
    (∃ found, a.disk.discover i.project = .ok found) → a.injected = none →
    (loadEngine a.registry).1 = .error f →
      ∃ s', run a tokens s = some (.error f, s') ∧ s'.past = s.past

theorem shortCircuits (a : Host σ) (b : Host τ) (tokens : List (Option String)) {s : Session σ}
    {t : Session τ} (hterminal : s.terminal = t.terminal) : ShortCircuits a b tokens s t where
  answered token text hleading htext tokens' hleading' := by
    have hanswer {tokens : List (Option String)} (h : leading tokens = some token) :
        (leading tokens).bind answerTo? = some text := by
      rw [h]
      exact htext
    refine ⟨.success, rfl, run_of_asks (hanswer hleading) s, ?_⟩
    rw [run_of_asks (hanswer hleading') t, hterminal]
  rejected hasks f hread := by
    obtain ⟨r, terminal, hs, ht⟩ :=
      @agree_run_of_rejected σ τ a b tokens f hasks hread s t hterminal
    obtain ⟨s', hs', -⟩ := @run_of_rejected σ a tokens f hasks hread s
    cases hs'.symm.trans hs
    exact ⟨.argumentError, terminal, rfl, hs, ht⟩
  unresolved hasks i f hread hdiscover hdisk := by
    have hf := preparedOf_of_discover_error hdiscover
    obtain ⟨r, terminal, hs, ht⟩ := agree_run_of_unresolved hasks hread hdisk hf s t hterminal
    obtain ⟨s', hs', -⟩ := run_of_unready hasks hread (.documents hf) s
    cases hs'.symm.trans hs
    exact ⟨terminal, hs, ht⟩
  unloaded hasks i f hread hfound hinjected hload := by
    obtain ⟨found, hfound⟩ := hfound
    have hengine : engineOf a = .error f := by
      simp only [engineOf, hinjected, hload]
      rfl
    exact run_of_unready hasks hread (.engine (preparedOf_of_discover hfound) hengine) s

/-! ## The first real token -/

def askingFlags : List String := ["-h", "--help", "-V", "--version"]

/-- In front of the first real token there are placeholders only. -/
theorem leading_eq_some_iff {tokens : List (Option String)} {token : String} :
    leading tokens = some token ↔ ∃ before after, tokens = before ++ some token :: after ∧
      token ≠ "" ∧ ∀ x ∈ before, x = none ∨ x = some "" := by
  have hreal (x : Option String) (real : String) :
      x.filter (· ≠ "") = some real ↔ x = some real ∧ real ≠ "" := by
    rw [Option.filter_eq_some_iff, decide_eq_true_iff]
  have hplaceholder (x : Option String) : x.filter (· ≠ "") = none ↔ x = none ∨ x = some "" := by
    cases x <;> simp
  rw [leading, Invocation.realTokens, List.head?_filterMap, List.findSome?_eq_some_iff]
  simp only [hreal, hplaceholder]
  constructor
  · rintro ⟨before, x, after, rfl, ⟨rfl, hne⟩, hbefore⟩
    exact ⟨before, after, rfl, hne, hbefore⟩
  · rintro ⟨before, after, rfl, hne, hbefore⟩
    exact ⟨before, _, after, rfl, ⟨rfl, hne⟩, hbefore⟩

/-- The token that is tested for a flag is the one that is read as the input, and a flag anywhere
else is what any token is there. -/
structure Leads (tokens : List (Option String)) : Prop where
  first : ∀ token, leading tokens = some token ↔ ∃ before after,
    tokens = before ++ some token :: after ∧ token ≠ "" ∧ ∀ x ∈ before, x = none ∨ x = some ""
  missing : Invocation.read tokens = .error .noInput ↔ leading tokens = none
  input : ∀ i, Invocation.read tokens = .ok i → leading tokens = some i.input
  stopped : ∀ option, Invocation.read tokens = .error (.unknownOption option) →
    ∃ input options, leading tokens = some input ∧
      Invocation.realTokens tokens = input :: options ∧ Invocation.StopsAt options option
  /-- Where an option should be, a flag is none. -/
  option : ∀ flag ∈ askingFlags, ∀ input before settings after, input ∉ askingFlags →
    Invocation.realTokens tokens = input :: (before ++ flag :: after) →
    Invocation.Options before settings →
      ¬ Asks tokens ∧ Invocation.read tokens = .error (.unknownOption flag)
  /-- Behind an output flag it is the directory. -/
  directory : ∀ flag ∈ askingFlags, ∀ input before settings after more, input ∉ askingFlags →
    Invocation.realTokens tokens = input :: (before ++ "-o" :: flag :: after) →
    Invocation.Options before settings → Invocation.Splits after more →
      ¬ Asks tokens ∧ ∃ i, Invocation.read tokens = .ok i ∧ i.input = input ∧
        Invocation.Amounts (settings ++ .output flag :: more) i

section
variable {tokens : List (Option String)} {input : String} {options : List String}

theorem leading_of_realTokens (h : Invocation.realTokens tokens = input :: options) :
    leading tokens = some input := by
  rw [leading, h]
  rfl

theorem not_asks_of_realTokens (h : Invocation.realTokens tokens = input :: options)
    (hinput : input ∉ askingFlags) : ¬ Asks tokens := by
  rintro ⟨token, htoken, hmem⟩
  rw [leading_of_realTokens h] at htoken
  cases htoken
  exact hinput hmem

theorem splits_output {before after : List String} {settings more : List Invocation.Setting}
    (h : Invocation.Options before settings) (h' : Invocation.Splits after more)
    (directory : String) :
    Invocation.Splits (before ++ "-o" :: directory :: after)
      (settings ++ .output directory :: more) := by
  rw [← Invocation.readOptions_eq_ok_iff, Invocation.readOptions_append h,
    Invocation.readOptions_output, h'.readOptions]
  rfl

theorem leads (tokens : List (Option String)) : Leads tokens where
  first _ := leading_eq_some_iff
  missing := by
    cases hreal : Invocation.realTokens tokens with
    | nil => simp [leading, hreal, Invocation.read_nil hreal]
    | cons input options =>
        simp [leading_of_realTokens hreal, Invocation.read_eq_error_iff hreal]
  input i hread := by
    obtain ⟨options, settings, hreal, -⟩ := Invocation.exists_of_read hread
    exact leading_of_realTokens hreal
  stopped option hread := by
    cases hreal : Invocation.realTokens tokens with
    | nil =>
        rw [Invocation.read_nil hreal] at hread
        exact nomatch hread
    | cons input options =>
        obtain ⟨token, htoken, hstops⟩ := (Invocation.read_eq_error_iff hreal).mp hread
        cases htoken
        exact ⟨input, options, leading_of_realTokens hreal, rfl, hstops⟩
  option flag hflag input before settings after hinput hreal hoptions := by
    have hplain : ∀ flag ∈ askingFlags, '=' ∉ flag.toList ∧ flag ≠ "-o" := by decide
    refine ⟨not_asks_of_realTokens hreal hinput, (Invocation.read_eq_error_iff hreal).mpr ?_⟩
    exact ⟨flag, rfl, before, settings, after, rfl, hoptions, hplain flag hflag⟩
  directory flag hflag input before settings after more hinput hreal hoptions hsplits := by
    exact ⟨not_asks_of_realTokens hreal hinput,
      Invocation.exists_read hreal (splits_output hoptions hsplits flag)⟩

end

/-- The stages stop the program in their order, and the first of them and the reader look at the
same token. -/
theorem stages_stop (a : Host σ) (b : Host τ) (tokens : List (Option String)) {s : Session σ}
    {t : Session τ} (hterminal : s.terminal = t.terminal) :
    Leads tokens ∧ ShortCircuits a b tokens s t :=
  ⟨leads tokens, shortCircuits a b tokens hterminal⟩

/-- A host on which there is nothing. -/
def bareHost (σ : Type) : Host σ := ⟨⟨.directory [], [], by decide⟩, none, []⟩

/-- The same host, with an engine that says yes to everything. -/
def agreeableHost (σ : Type) : Host σ :=
  { bareHost σ with injected := some ⟨fun _ => .done true, fun _ => .done true⟩ }

theorem bareHost_stops : Leads [none, some "x", some "-h"] ∧
    ∃ c terminal, c.code = 64 ∧
      run (bareHost Unit) [none, some "x", some "-h"] (.blank ()) =
        some (.ok (.returned c), { Session.blank () with terminal := terminal }) ∧
      run (agreeableHost Bool) [none, some "x", some "-h"] (.blank false) =
        some (.ok (.returned c), { Session.blank false with terminal := terminal }) := by
  have hasks : ¬ Asks [none, some "x", some "-h"] := by
    rw [asks_iff]
    decide
  obtain ⟨hleads, hstops⟩ := @stages_stop Unit Bool (bareHost Unit) (agreeableHost Bool)
    [none, some "x", some "-h"] (.blank ()) (.blank false) rfl
  exact ⟨hleads, hstops.rejected hasks (.unknownOption "-h") rfl⟩

end Command

end TemplateRun
