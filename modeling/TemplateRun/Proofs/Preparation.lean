/-
# `Preparation` — what preparing an invocation does, and what it leaves alone

The providers are asked in order and at most once each (`Prepares`): the resolver always, for the
location of the project; the factory if and only if the resolver has found something.  What the
factory has made is then seeded, and nothing else of it changes (`Seeded`).  Which requests have
been made is read off providers that keep a record of them (`Providers.traced`).

A memory can be written into.  So it matters that an environment gets a copy of the invocation's
memory, and not that memory itself.  This shows where memories are told apart by the address at
which they are kept (`Workshop`): whatever is done to the environments of any number of
preparations, the invocation's own memory stays as it is, and each environment is what its own
changes make of it (`environment?_run`).
-/
import Mathlib.Logic.Function.Basic
import TemplateRun.Preparation
import TemplateRun.Proofs.Writes

namespace TemplateRun

variable {μ : Type}

/-! ## Requests -/

/-- What a provider is asked for. -/
inductive Request where
  | resolve (project : Path)
  | makeEnvironment
deriving DecidableEq

/-- Providers who do the same and keep a record of what they are asked for. -/
def Providers.traced (p : Providers μ) : Providers (μ × List Request) where
  resolve path m :=
    let (r, memory) := p.resolve path m.1
    (r, memory, m.2 ++ [.resolve path])
  makeEnvironment m :=
    let (r, memory) := p.makeEnvironment m.1
    (r, memory, m.2 ++ [.makeEnvironment])

/-- The preparation without the record of requests. -/
def Preparation.untraced (t : Preparation (μ × List Request)) : Preparation μ :=
  ⟨t.outcome, t.memory.1, t.log⟩

/-! ## Seeding -/

/-- The environment `e'` is `e` with the three keys of an invocation, and nothing else. -/
structure Seeded (i : Invocation) (e e' : Environment) : Prop where
  memory : e'.metadata.get? MetaKey.memory.name = some (.memory i.memory)
  project : e'.metadata.get? MetaKey.project.name = some (.path i.project)
  output : e'.metadata.get? MetaKey.output.name = some (.path i.target)
  others : ∀ key, (∀ k : MetaKey, key ≠ k.name) → e'.metadata.get? key = e.metadata.get? key
  /-- Keys that are there stay where they are, the others come behind them. -/
  keys : e'.metadata.keys =
    e.metadata.keys ++ (MetaKey.all.map MetaKey.name).filter (· ∉ e.metadata.keys)
  compilations : e'.compilations = e.compilations
  pending : e'.pending = e.pending

theorem seeded_seed (i : Invocation) (e : Environment) :
    Seeded i e (e.seed i.memory i.project i.target) where
  memory := by
    simp only [Environment.seed, Environment.setMeta, OrderedMap.get?_insert]
    rfl
  project := by
    simp only [Environment.seed, Environment.setMeta, OrderedMap.get?_insert]
    rfl
  output := by
    simp only [Environment.seed, Environment.setMeta, OrderedMap.get?_insert]
    rfl
  others key hkey := by
    simp only [Environment.seed, Environment.setMeta, OrderedMap.get?_insert]
    rw [if_neg (hkey .output), if_neg (hkey .project), if_neg (hkey .memory)]
  keys := by
    have hdistinct : ([(MetaKey.memory.name, MetaValue.memory i.memory),
        (MetaKey.project.name, .path i.project), (MetaKey.output.name, .path i.target)].map
          Prod.fst).Nodup := by
      change (MetaKey.all.map MetaKey.name).Nodup
      decide
    exact OrderedMap.keys_foldl_insert hdistinct e.metadata
  compilations := rfl
  pending := rfl

/-! ## Preparing -/

/-- `Prepares i p memory t`: preparing the invocation goes this way, with these requests. -/
inductive Prepares (i : Invocation) (p : Providers μ) (memory : μ) :
    Preparation (μ × List Request) → Prop
  | unresolved {memory' : μ} (f : Fault) :
      p.resolve i.project memory = (.error f, memory') →
      Prepares i p memory ⟨.error f, (memory', [.resolve i.project]), []⟩
  | nothing {memory' : μ} (f : Fault) :
      p.resolve i.project memory = (.ok [], memory') → f.family? = some .documentResolution →
      f.message = "No documents found at: " ++ i.project.text →
      Prepares i p memory ⟨.error f, (memory', [.resolve i.project]), []⟩
  | unmade {memory' memory'' : μ} {documents : List String} (f : Fault) :
      p.resolve i.project memory = (.ok documents, memory') → documents ≠ [] →
      p.makeEnvironment memory' = (.error f, memory'') →
      Prepares i p memory ⟨.error f, (memory'', [.resolve i.project, .makeEnvironment]),
        [i.resolvedRecord documents.length]⟩
  | made {memory' memory'' : μ} {documents : List String} {e e' : Environment} :
      p.resolve i.project memory = (.ok documents, memory') → documents ≠ [] →
      p.makeEnvironment memory' = (.ok e, memory'') → Seeded i e e' →
      Prepares i p memory ⟨.ok ⟨e', documents⟩,
        (memory'', [.resolve i.project, .makeEnvironment]), [i.resolvedRecord documents.length]⟩

namespace Invocation

/-- To keep a record changes nothing, and the record is the one of the way that is gone. -/
theorem prepare_traced (i : Invocation) (p : Providers μ) (memory : μ) :
    Prepares i p memory (i.prepare p.traced (memory, [])) ∧
      (i.prepare p.traced (memory, [])).untraced = i.prepare p memory := by
  obtain ⟨resolved, memory', hresolve⟩ : ∃ r m, p.resolve i.project memory = (r, m) := ⟨_, _, rfl⟩
  cases resolved with
  | error f =>
      simp only [prepare, Providers.traced, hresolve]
      exact ⟨.unresolved f hresolve, rfl⟩
  | ok documents =>
      cases documents with
      | nil =>
          simp only [prepare, Providers.traced, hresolve]
          exact ⟨.nothing _ hresolve rfl rfl, rfl⟩
      | cons d rest =>
          have hsome : d :: rest ≠ [] := List.cons_ne_nil d rest
          obtain ⟨made, memory'', hmake⟩ : ∃ r m, p.makeEnvironment memory' = (r, m) :=
            ⟨_, _, rfl⟩
          cases made with
          | error f =>
              simp only [prepare, Providers.traced, hresolve, hmake]
              exact ⟨.unmade f hresolve hsome hmake, rfl⟩
          | ok e =>
              simp only [prepare, Providers.traced, hresolve, hmake]
              exact ⟨.made hresolve hsome hmake (seeded_seed i e), rfl⟩

theorem memory_prepared {i : Invocation} {p : Providers μ} {memory : μ} {prepared : Prepared}
    (h : (i.prepare p memory).outcome = .ok prepared) :
    prepared.environment.metadata.get? MetaKey.memory.name = some (.memory i.memory) := by
  obtain ⟨hprepares, huntraced⟩ := i.prepare_traced p memory
  rw [← huntraced] at h
  generalize i.prepare p.traced (memory, []) = t at hprepares h
  cases hprepares with
  | unresolved | nothing | unmade => cases h
  | made _ _ _ hseeded =>
      cases h
      exact hseeded.memory

end Invocation

/-! ## Environments whose memory is kept elsewhere -/

namespace Environment

/-- The environment after a change of its memory, if it has one. -/
def onMemory (f : Memory → Memory) (e : Environment) : Environment :=
  match e.metadata.get? MetaKey.memory.name with
  | some (.memory entries) => e.setMeta MetaKey.memory.name (.memory (f entries))
  | _ => e

/-- The environment after a change of all but its memory. -/
def besideMemory (g : Environment → Environment) (e : Environment) : Environment :=
  match e.metadata.get? MetaKey.memory.name with
  | some value => (g e).setMeta MetaKey.memory.name value
  | none => g e

theorem writeMemory_eq {e : Environment} {entries : Memory}
    (h : e.metadata.get? MetaKey.memory.name = some (.memory entries)) (key value : String) :
    e.writeMemory key value = .ok (e.onMemory fun m => m.insert key value) := by
  rw [writeMemory, onMemory, h]

def withMemory (e : Environment) (entries : Memory) : Environment :=
  e.setMeta MetaKey.memory.name (.memory entries)

section
variable (e : Environment) (entries entries' : Memory)

theorem get?_withMemory :
    (e.withMemory entries).metadata.get? MetaKey.memory.name = some (.memory entries) := by
  rw [withMemory, setMeta, OrderedMap.get?_insert, if_pos rfl]

theorem setMeta_withMemory (value : MetaValue) :
    (e.withMemory entries).setMeta MetaKey.memory.name value =
      e.setMeta MetaKey.memory.name value := by
  rw [withMemory, setMeta, setMeta, setMeta, OrderedMap.insert_insert]

theorem onMemory_withMemory (f : Memory → Memory) :
    (e.withMemory entries).onMemory f = e.withMemory (f entries) := by
  rw [onMemory, get?_withMemory]
  exact setMeta_withMemory e entries _

theorem besideMemory_withMemory (g : Environment → Environment) :
    (e.withMemory entries).besideMemory g = (g (e.withMemory entries)).withMemory entries := by
  rw [besideMemory, get?_withMemory]
  rfl

end

theorem withMemory_eq_self {e : Environment} {entries : Memory}
    (h : e.metadata.get? MetaKey.memory.name = some (.memory entries)) :
    e.withMemory entries = e := by
  rw [withMemory, setMeta, OrderedMap.insert_eq_self h]

end Environment

/-- An environment that has been prepared, and where its memory is kept. -/
structure Copy where
  environment : Environment
  address : Nat

/-- Where one invocation is prepared again and again. -/
structure Workshop (μ : Type) where
  /-- The memories, by address.  The first is the invocation's own. -/
  memories : Nat → Memory
  /-- The first address at which nothing is kept. -/
  free : Nat
  copies : List Copy
  /-- What the providers remember. -/
  remembered : μ

/-- What can be done in a workshop. -/
inductive Deed (μ : Type) where
  /-- Prepare the invocation once more. -/
  | prepare
  /-- Change the memory of an environment where it is kept. -/
  | write (n : Nat) (f : Memory → Memory)
  /-- Change something else of an environment. -/
  | change (n : Nat) (g : Environment → Environment)
  /-- The providers see or do something. -/
  | elsewhere (h : μ → μ)

/-- What a deed does to the environment with this number, by itself. -/
def Deed.on (n : Nat) (d : Deed μ) (e : Environment) : Environment :=
  match d with
  | .write m f => if m = n then e.onMemory f else e
  | .change m g => if m = n then e.besideMemory g else e
  | .prepare | .elsewhere _ => e

namespace Workshop

/-- A workshop in which nothing has been done. -/
def opened (i : Invocation) (remembered : μ) : Workshop μ where
  memories := fun _ => i.memory
  free := 1
  copies := []
  remembered := remembered

/-- An environment with the memory that is kept for it. -/
def view (s : Workshop μ) (c : Copy) : Environment :=
  c.environment.withMemory (s.memories c.address)

def environment? (s : Workshop μ) (n : Nat) : Option Environment := s.copies[n]?.map s.view

/-- The workshop after a deed.  The memory that is prepared is the one that is kept for the
invocation at that time, and what goes into the environment is a copy at a new address. -/
def after (i : Invocation) (p : Providers μ) (s : Workshop μ) : Deed μ → Workshop μ
  | .prepare =>
    let own := s.memories 0
    let preparation := { i with memory := own }.prepare p s.remembered
    match preparation.outcome with
    | .error _ => { s with remembered := preparation.memory }
    | .ok prepared =>
      { memories := Function.update s.memories s.free own
        free := s.free + 1
        copies := s.copies ++ [⟨prepared.environment, s.free⟩]
        remembered := preparation.memory }
  | .write n f =>
    match s.copies[n]? with
    | none => s
    | some c =>
      { s with memories := Function.update s.memories c.address (f (s.memories c.address)) }
  | .change n g =>
    { s with copies := s.copies.modify n fun c => { c with environment := g (s.view c) } }
  | .elsewhere h => { s with remembered := h s.remembered }

/-- The workshop after some deeds. -/
def run (i : Invocation) (p : Providers μ) (s : Workshop μ) (deeds : List (Deed μ)) : Workshop μ :=
  deeds.foldl (after i p) s

/-- Where the memories of the environments are kept. -/
def addresses (s : Workshop μ) : List Nat := s.copies.map Copy.address

/-- No two environments share a memory, and none has the invocation's own. -/
structure Apart (i : Invocation) (s : Workshop μ) : Prop where
  own : s.memories 0 = i.memory
  free : 0 < s.free
  taken : ∀ a ∈ s.addresses, 0 < a ∧ a < s.free
  distinct : s.addresses.Nodup

section
variable {i : Invocation} {p : Providers μ} {s : Workshop μ} {n : Nat} {e : Environment}

theorem apart_opened (i : Invocation) (remembered : μ) : (opened i remembered).Apart i where
  own := rfl
  free := Nat.one_pos
  taken _ ha := absurd ha List.not_mem_nil
  distinct := List.nodup_nil

theorem getElem?_addresses {c : Copy} (hc : s.copies[n]? = some c) :
    s.addresses[n]? = some c.address := by
  rw [addresses, List.getElem?_map, hc]
  rfl

theorem Apart.address_taken (h : s.Apart i) {c : Copy} (hc : s.copies[n]? = some c) :
    0 < c.address ∧ c.address < s.free :=
  h.taken _ (List.mem_of_getElem? (getElem?_addresses hc))

/-- The number of an environment can be told from the address of its memory. -/
theorem Apart.eq_of_address (h : s.Apart i) {m : Nat} {c c' : Copy} (hc : s.copies[n]? = some c)
    (hc' : s.copies[m]? = some c') (haddress : c.address = c'.address) : n = m := by
  obtain ⟨hn, -⟩ := List.getElem?_eq_some_iff.mp (getElem?_addresses hc)
  rw [← List.getElem?_inj hn h.distinct, getElem?_addresses hc, getElem?_addresses hc', haddress]

theorem Apart.after_prepare (h : s.Apart i) : s.after i p .prepare =
    match (i.prepare p s.remembered).outcome with
    | .error _ => { s with remembered := (i.prepare p s.remembered).memory }
    | .ok prepared =>
      { memories := Function.update s.memories s.free i.memory
        free := s.free + 1
        copies := s.copies ++ [⟨prepared.environment, s.free⟩]
        remembered := (i.prepare p s.remembered).memory } := by
  have hown := h.own
  obtain ⟨input, output, memory, hinput⟩ := i
  subst hown
  rfl

theorem addresses_modify (copies : List Copy) (n : Nat) (g : Copy → Environment) :
    (copies.modify n fun c => { c with environment := g c }).map Copy.address =
      copies.map Copy.address := by
  refine List.ext_getElem? fun m => ?_
  rw [List.getElem?_map, List.getElem?_map, List.getElem?_modify]
  cases copies[m]? with
  | none => rfl
  | some c =>
      simp only [Option.map_eq_map, Option.map_some]
      split
      · rfl
      · rfl

theorem Apart.after (h : s.Apart i) (d : Deed μ) : (s.after i p d).Apart i := by
  have ⟨hown, hfree, htaken, hdistinct⟩ := h
  cases d with
  | prepare =>
      rw [h.after_prepare]
      split
      · exact ⟨hown, hfree, htaken, hdistinct⟩
      · next prepared _ =>
          let c : Copy := ⟨prepared.environment, s.free⟩
          have haddresses : (s.copies ++ [c]).map Copy.address = s.addresses ++ [s.free] :=
            List.map_append
          refine ⟨?_, Nat.succ_pos _, ?_, ?_⟩
          · dsimp only
            rwa [Function.update_of_ne (Nat.ne_of_lt hfree)]
          · rw [addresses, haddresses]
            refine List.forall_mem_append.mpr ⟨fun a ha => ?_, List.forall_mem_singleton.mpr ?_⟩
            · exact ⟨(htaken a ha).1, Nat.lt_succ_of_lt (htaken a ha).2⟩
            · exact ⟨hfree, Nat.lt_succ_self _⟩
          · rw [addresses, haddresses, List.nodup_append]
            refine ⟨hdistinct, by simp, fun a ha b hb => ?_⟩
            rw [List.mem_singleton.mp hb]
            exact Nat.ne_of_lt (htaken a ha).2
  | write n f =>
      rw [Workshop.after]
      split
      · exact h
      · next c hc =>
          refine ⟨?_, hfree, htaken, hdistinct⟩
          dsimp only
          rwa [Function.update_of_ne (Nat.ne_of_lt (h.address_taken hc).1)]
  | change n g =>
      have haddresses : (s.after i p (.change n g)).addresses = s.addresses :=
        addresses_modify s.copies n _
      exact ⟨hown, hfree, haddresses ▸ htaken, haddresses ▸ hdistinct⟩
  | elsewhere => exact ⟨hown, hfree, htaken, hdistinct⟩

/-- What a deed does to an environment is what it does to that one by itself. -/
theorem Apart.environment?_after (h : s.Apart i) (he : s.environment? n = some e) (d : Deed μ) :
    (s.after i p d).environment? n = some (d.on n e) := by
  obtain ⟨c, hc, rfl⟩ := Option.map_eq_some_iff.mp he
  cases d with
  | prepare =>
      rw [h.after_prepare]
      split
      · exact he
      · next prepared _ =>
          obtain ⟨hn, -⟩ := List.getElem?_eq_some_iff.mp hc
          rw [environment?, List.getElem?_append_left hn, hc, Option.map_some, view]
          dsimp only
          rw [Function.update_of_ne (Nat.ne_of_lt (h.address_taken hc).2)]
          rfl
  | write m f =>
      rw [Workshop.after, Deed.on]
      split
      · next hm =>
          rw [if_neg]
          · exact he
          · rintro rfl
            rw [hm] at hc
            cases hc
      · next c' hc' =>
          rw [environment?, hc, Option.map_some, view]
          dsimp only
          by_cases hmn : m = n
          · subst hmn
            obtain rfl : c = c' := Option.some.inj (hc.symm.trans hc')
            rw [if_pos rfl, Function.update_self, view, Environment.onMemory_withMemory]
          · have hne : c.address ≠ c'.address := fun heq => hmn (h.eq_of_address hc hc' heq).symm
            rw [if_neg hmn, Function.update_of_ne hne, view]
  | change m g =>
      rw [Workshop.after, Deed.on, environment?, List.getElem?_modify, hc]
      by_cases hmn : m = n
      · subst hmn
        rw [if_pos rfl, view, Environment.besideMemory_withMemory]
        simp [view]
      · rw [if_neg hmn]
        simp [hmn, view]
  | elsewhere => exact he

theorem Apart.environment?_prepared (h : s.Apart i) {prepared : Prepared}
    (hprepared : (i.prepare p s.remembered).outcome = .ok prepared) :
    (s.after i p .prepare).environment? s.copies.length = some prepared.environment := by
  rw [h.after_prepare, hprepared]
  dsimp only
  rw [environment?, List.getElem?_concat_length, Option.map_some, view]
  dsimp only
  rw [Function.update_self, Environment.withMemory_eq_self (Invocation.memory_prepared hprepared)]

theorem Apart.run (h : s.Apart i) (deeds : List (Deed μ)) : (s.run i p deeds).Apart i := by
  induction deeds generalizing s with
  | nil => exact h
  | cons d deeds ih => exact ih (h.after d)

theorem Apart.environment?_run (h : s.Apart i) (he : s.environment? n = some e)
    (deeds : List (Deed μ)) :
    (s.run i p deeds).environment? n = some (deeds.foldl (fun e d => d.on n e) e) := by
  induction deeds generalizing s e with
  | nil => exact he
  | cons d deeds ih => exact ih (h.after d) (h.environment?_after he d)

end
end Workshop

/-- Preparing an invocation asks the providers in order and goes one of four ways; and however often
it is prepared, whatever is done to the environments in between, the invocation keeps its memory,
each preparation gives what it would give by itself, and each environment is what its own changes
make of it. -/
theorem prepare_exact (i : Invocation) (p : Providers μ) (remembered : μ) :
    (∀ memory, Prepares i p memory (i.prepare p.traced (memory, [])) ∧
      (i.prepare p.traced (memory, [])).untraced = i.prepare p memory) ∧
    ∀ deeds, ∃ s, s = (Workshop.opened i remembered).run i p deeds ∧ s.memories 0 = i.memory ∧
      (∀ prepared, (i.prepare p s.remembered).outcome = .ok prepared →
        (s.after i p .prepare).environment? s.copies.length = some prepared.environment) ∧
      (∀ f, (i.prepare p s.remembered).outcome = .error f →
        (s.after i p .prepare).copies = s.copies) ∧
      ∀ n e, s.environment? n = some e → ∀ more,
        (s.run i p more).environment? n = some (more.foldl (fun e d => d.on n e) e) := by
  refine ⟨i.prepare_traced p, fun deeds => ⟨_, rfl, ?_⟩⟩
  have hapart := (Workshop.apart_opened i remembered).run (p := p) deeds
  refine ⟨hapart.own, fun prepared => hapart.environment?_prepared, fun f hf => ?_, ?_⟩
  · rw [hapart.after_prepare, hf]
  · exact fun n e he more => hapart.environment?_run he more

def sampleInvocation : Invocation where
  input := "project"
  output := "out"
  memory := .ofList [("K", "V")]
  input_ne := by decide

/-- A resolver that finds one document, and a factory whose environments have an output already. -/
def sampleProviders : Providers Unit where
  resolve _ _ := (.ok ["a.jamplate"], ())
  makeEnvironment _ := (.ok (Environment.fresh.setMeta MetaKey.output.name (.text "old")), ())

/-- Two preparations, and a write into the first environment in between. -/
def sampleDeeds : List (Deed Unit) :=
  [.prepare, .write 0 fun m => m.insert "extra" "x", .prepare]

/-- What is written into the first environment is in its memory alone. -/
theorem sampleInvocation_apart : ∃ (s : Workshop Unit) (first : Prepared) (e₀ e₁ : Environment),
    s = (Workshop.opened sampleInvocation ()).run sampleInvocation sampleProviders sampleDeeds ∧
    s.memories 0 = sampleInvocation.memory ∧
    (sampleInvocation.prepare sampleProviders ()).outcome = .ok first ∧
    first.environment.writeMemory "extra" "x" = .ok e₀ ∧
    s.environment? 0 = some e₀ ∧ e₀.metadata.get? MetaKey.memory.name =
      some (.memory (sampleInvocation.memory.insert "extra" "x")) ∧
    s.environment? 1 = some e₁ ∧
    e₁.metadata.get? MetaKey.memory.name = some (.memory sampleInvocation.memory) := by
  obtain ⟨-, hruns⟩ := prepare_exact sampleInvocation sampleProviders ()
  obtain ⟨_, rfl, hown, -⟩ := hruns sampleDeeds
  obtain ⟨_, rfl, -, hprepared, -⟩ := hruns []
  obtain ⟨_, rfl, -, -, -, hstays⟩ := hruns [.prepare]
  obtain ⟨_, rfl, -, hlast, -⟩ := hruns (sampleDeeds.take 2)
  have hfirst := hstays 0 _ (hprepared _ rfl) (sampleDeeds.drop 1)
  have hsecond := hlast _ rfl
  have hmade : (sampleInvocation.prepare sampleProviders ()).outcome = .ok _ := rfl
  have hwritten := Environment.writeMemory_eq (Invocation.memory_prepared hmade) "extra" "x"
  exact ⟨_, _, _, _, rfl, hown, hmade, hwritten, hfirst, rfl, hsecond, rfl⟩

end TemplateRun
