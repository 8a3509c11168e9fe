/-
# `Registry` — which engine is taken, and that no other is touched

The engine that is taken is the first in the order of names (`First`): no name is less, and none
of those registered before it has the same one.  The sort of the registry is stable, so this is the
one in front of the sorted list (`exists_first`), and there is no other (`First.unique`).  Of the
rest nothing is needed but the names, for the log (`Announces`).

Loading is an action, and what it does is up to the plugin.  So whether an entry point has been
asked to load is not to be seen from what comes out: it is read off entry points that keep a record
of it (`EntryPoint.traced`), each under the number at which it is registered.

    Opens       the ways that asking one entry point can go: it faults in loading, with an error or
                otherwise; it has an engine, or something else; or it has something that makes
                an engine, which is then made or not
    Loads       the ways that asking a registry can go: there is nothing to ask, or the first
                is asked
-/
import TemplateRun.Registry

namespace TemplateRun

variable {ε μ : Type} {m : Type → Type}

/-! ## The order of names -/

/-- The text `s` does not stand after `t`: texts are compared code point by code point. -/
def ByCodePoint (s t : String) : Prop :=
  ¬ List.Lex Nat.lt (t.toList.map Char.toNat) (s.toList.map Char.toNat)

theorem lex_codePoints : ∀ {as bs : List Char},
    List.Lex Nat.lt (as.map Char.toNat) (bs.map Char.toNat) ↔ List.Lex (fun a b => a < b) as bs
  | as, [] => by simp
  | [], b :: bs => by simp
  | a :: as, b :: bs => by
      rw [List.map_cons, List.map_cons, List.cons_lex_cons_iff, List.cons_lex_cons_iff,
        lex_codePoints, Char.toNat_inj]
      rfl

theorem byCodePoint_iff {s t : String} : ByCodePoint s t ↔ s ≤ t := by
  rw [ByCodePoint, lex_codePoints]
  rfl

/-- `First entries n e`: the entry point `e`, registered at number `n`, has the least name, and is
the first to have it. -/
structure First (entries : List (EntryPoint ε m)) (n : Nat) (e : EntryPoint ε m) : Prop where
  here : entries[n]? = some e
  least : ∀ other ∈ entries, ByCodePoint e.name other.name
  earliest : ∀ k other, entries[k]? = some other → other.name = e.name → n ≤ k

section
variable {entries others : List (EntryPoint ε m)} {chosen chosen' : EntryPoint ε m} {n n' : Nat}

theorem First.mem (h : First entries n chosen) : chosen ∈ entries := List.mem_of_getElem? h.here

theorem First.unique (h : First entries n chosen) (h' : First entries n' chosen') :
    n = n' ∧ chosen = chosen' := by
  have hle := byCodePoint_iff.mp (h.least chosen' h'.mem)
  have hge := byCodePoint_iff.mp (h'.least chosen h.mem)
  have hname : chosen.name = chosen'.name := Std.le_antisymm hle hge
  have hn : n = n' :=
    Nat.le_antisymm (h.earliest n' chosen' h'.here hname.symm) (h'.earliest n chosen h.here hname)
  subst hn
  exact ⟨rfl, Option.some.inj (h.here.symm.trans h'.here)⟩

theorem First.of_perm (h : First entries n chosen) (hperm : others.Perm entries)
    (hnames : (entries.map EntryPoint.name).Nodup) : ∃ k, First others k chosen := by
  obtain ⟨k, hk⟩ := List.mem_iff_getElem?.mp (hperm.mem_iff.mpr h.mem)
  refine ⟨k, hk, fun other hother => h.least other (hperm.mem_iff.mp hother), ?_⟩
  intro j other hj hname
  have hnodup := (hperm.map EntryPoint.name).nodup_iff.mpr hnames
  have hk' : (others.map EntryPoint.name)[k]? = some chosen.name := by
    rw [List.getElem?_map, hk, Option.map_some]
  have hj' : (others.map EntryPoint.name)[j]? = some chosen.name := by
    rw [List.getElem?_map, hj, Option.map_some, hname]
  obtain ⟨hlt, -⟩ := List.getElem?_eq_some_iff.mp hk'
  exact Nat.le_of_eq ((List.getElem?_inj hlt hnodup).mp (hk'.trans hj'.symm))

theorem precedes_iff {a b : EntryPoint ε m} : a.precedes b = true ↔ a.name ≤ b.name :=
  decide_eq_true_iff

theorem precedes_trans (a b c : EntryPoint ε m) (h : a.precedes b = true)
    (h' : b.precedes c = true) : a.precedes c = true :=
  precedes_iff.mpr (Std.le_trans (precedes_iff.mp h) (precedes_iff.mp h'))

theorem precedes_total (a b : EntryPoint ε m) : (a.precedes b || b.precedes a) = true := by
  rw [Bool.or_eq_true, precedes_iff, precedes_iff]
  exact Std.le_total

theorem least_of_ranked (h : EntryPoint.ranked entries = chosen :: others) :
    ∀ other ∈ entries, ByCodePoint chosen.name other.name := by
  intro other hother
  have hsorted := List.pairwise_mergeSort precedes_trans precedes_total entries
  rw [← EntryPoint.ranked, h] at hsorted
  have hmem : other ∈ EntryPoint.ranked entries := List.mem_mergeSort.mpr hother
  rw [h] at hmem
  rw [byCodePoint_iff]
  rcases List.mem_cons.mp hmem with rfl | hmem
  · exact Std.le_refl _
  · exact precedes_iff.mp (List.rel_of_pairwise_cons hsorted hmem)

/-- What comes first when the entry points are sorted.  The sort is stable: an entry point that is
put in front of others passes those with lesser names only. -/
theorem exists_first (h : EntryPoint.ranked entries = chosen :: others) :
    ∃ n, First entries n chosen := by
  induction entries generalizing chosen others with
  | nil =>
      rw [EntryPoint.ranked, List.mergeSort_nil] at h
      cases h
  | cons e entries ih =>
      obtain ⟨front, back, hsorted, hrest, hfront⟩ :=
        List.mergeSort_cons precedes_trans precedes_total e entries
      have hleast := least_of_ranked h
      rw [EntryPoint.ranked, hsorted] at h
      cases front with
      | nil =>
          obtain ⟨rfl, -⟩ := List.cons.inj h
          exact ⟨0, rfl, hleast, fun k _ _ _ => Nat.zero_le k⟩
      | cons b front =>
          obtain ⟨rfl, -⟩ := List.cons.inj h
          obtain ⟨n, hfirst⟩ := ih hrest
          have hlate : ¬ e.name ≤ b.name := by
            rw [← precedes_iff, Bool.not_eq_true, ← Bool.not_eq_true']
            exact hfront b List.mem_cons_self
          refine ⟨n + 1, hfirst.here, hleast, ?_⟩
          rintro (_ | k) other hk hname
          · obtain rfl := Option.some.inj hk
            exact absurd (Std.le_of_eq hname) hlate
          · exact Nat.succ_le_succ (hfirst.earliest k other hk hname)

end

/-! ## What is logged -/

/-- `Announces names name log`: of engines with these names, the choice of one is logged so. -/
inductive Announces (names : List String) (name : String) : List Log.Record → Prop
  | only : names.length ≤ 1 → Announces names name []
  | several (sorted : List String) : 1 < names.length → sorted.Perm names →
      sorted.Pairwise ByCodePoint →
      Announces names name [⟨.debug, EntryPoint.logger, "Several engines registered (" ++
        ", ".intercalate sorted ++ "); using " ++ Text.quote name⟩]

theorem Announces.of_perm {names names' : List String} {name : String} {log : List Log.Record}
    (h : Announces names name log) (hperm : names'.Perm names) : Announces names' name log := by
  cases h with
  | only hone => exact .only (hperm.length_eq ▸ hone)
  | several sorted hmore hsame hsorted =>
      exact .several sorted (hperm.length_eq ▸ hmore) (hsame.trans hperm.symm) hsorted

theorem Announces.unique {names : List String} {name : String} {log log' : List Log.Record}
    (h : Announces names name log) (h' : Announces names name log') : log = log' := by
  cases h with
  | only hone =>
      cases h' with
      | only => rfl
      | several _ hmore => exact absurd hmore (Nat.not_lt.mpr hone)
  | several sorted hmore hsame hsorted =>
      cases h' with
      | only hone => exact absurd hmore (Nat.not_lt.mpr hone)
      | several sorted' _ hsame' hsorted' =>
          have heq : sorted = sorted' := by
            refine List.Perm.eq_of_pairwise ?_ hsorted hsorted' (hsame.trans hsame'.symm)
            intro s t _ _ hle hge
            exact Std.le_antisymm (byCodePoint_iff.mp hle) (byCodePoint_iff.mp hge)
          rw [heq]

section
variable {entries others : List (EntryPoint ε m)} {chosen : EntryPoint ε m}

theorem announces_of_ranked (h : EntryPoint.ranked entries = chosen :: others) :
    Announces (entries.map EntryPoint.name) chosen.name
      (if others.isEmpty then [] else [EntryPoint.choiceRecord (chosen :: others) chosen]) := by
  have hperm : (chosen :: others).Perm entries := h ▸ List.mergeSort_perm entries _
  have hlength := hperm.length_eq
  have hsorted := List.pairwise_mergeSort precedes_trans precedes_total entries
  rw [← EntryPoint.ranked, h] at hsorted
  cases others with
  | nil => exact .only (by rw [List.length_map, ← hlength]; exact Nat.le_refl 1)
  | cons other others =>
      refine .several _ ?_ (hperm.map EntryPoint.name) ?_
      · rw [List.length_map, ← hlength]
        exact Nat.succ_lt_succ (Nat.succ_pos _)
      · exact hsorted.map _ fun a b hle => byCodePoint_iff.mpr (precedes_iff.mp hle)

theorem ranked_ne_nil (h : entries ≠ []) : EntryPoint.ranked entries ≠ [] := by
  intro hnil
  have hlength := (List.mergeSort_perm entries EntryPoint.precedes).length_eq
  rw [← EntryPoint.ranked, hnil] at hlength
  exact h (List.eq_nil_of_length_eq_zero hlength.symm)

theorem exists_announced (h : entries ≠ []) :
    ∃ n chosen log, First entries n chosen ∧
      Announces (entries.map EntryPoint.name) chosen.name log := by
  obtain ⟨chosen, others, hranked⟩ := List.exists_cons_of_ne_nil (ranked_ne_nil h)
  obtain ⟨n, hfirst⟩ := exists_first hranked
  exact ⟨n, chosen, _, hfirst, announces_of_ranked hranked⟩

end

/-! ## Asking the first one -/

/-- What is handed on once the entry point has been asked, and what has been logged by then. -/
def EntryPoint.report (e : EntryPoint ε m) (log : List Log.Record) :
    Except Fault (Loaded ε) → Except Fault (Loaded ε) × List Log.Record
  | .error f => (.error f, log)
  | .ok loaded => (.ok loaded, log ++ [e.loadedRecord])

theorem loadEngineM_of_first [Monad m] {entries : List (EntryPoint ε m)} {chosen : EntryPoint ε m}
    {n : Nat} {log : List Log.Record} (hfirst : First entries n chosen)
    (hlog : Announces (entries.map EntryPoint.name) chosen.name log) :
    loadEngineM entries = chosen.open? >>= fun loaded => pure (chosen.report log loaded) := by
  have hne : entries ≠ [] := List.ne_nil_of_mem hfirst.mem
  obtain ⟨chosen', others, hranked⟩ := List.exists_cons_of_ne_nil (ranked_ne_nil hne)
  obtain ⟨n', hfirst'⟩ := exists_first hranked
  obtain ⟨-, rfl⟩ := hfirst.unique hfirst'
  obtain rfl := hlog.unique (announces_of_ranked hranked)
  rw [loadEngineM, hranked]
  refine congrArg (chosen.open? >>= ·) (funext fun loaded => ?_)
  cases loaded <;> rfl

/-! ## Requests -/

/-- What an entry point is asked for.  Entry points are numbered as they are registered. -/
inductive Asked where
  | load (n : Nat)
  /-- What has been loaded is asked to make an engine. -/
  | make (n : Nat)
deriving DecidableEq

/-- The same action, with a record kept of its having been asked for. -/
def recorded {α : Type} (asked : Asked) (act : StateM μ α) : StateM (μ × List Asked) α := do
  let (memory, requests) ← get
  let (result, memory') := act.run memory
  set (memory', requests ++ [asked])
  return result

theorem run_recorded {α : Type} (asked : Asked) (act : StateM μ α) (memory : μ)
    (requests : List Asked) :
    (recorded asked act).run (memory, requests) =
      ((act.run memory).1, (act.run memory).2, requests ++ [asked]) := rfl

/-- What is found, keeping a record of being asked to make an engine. -/
def Loadable.traced (n : Nat) : Loadable ε (StateM μ) → Loadable ε (StateM (μ × List Asked))
  | .engine e => .engine e
  | .maker make => .maker (recorded (.make n) make)
  | .inert typeName => .inert typeName

/-- The entry point, keeping a record of what it is asked for. -/
def EntryPoint.traced (n : Nat) (e : EntryPoint ε (StateM μ)) :
    EntryPoint ε (StateM (μ × List Asked)) where
  name := e.name
  value := e.value
  load := do return (← recorded (.load n) e.load).map (Loadable.traced n)

/-! ## Asking an entry point -/

/-- The fault is an interrupt, a wish to end the program, or else no error. -/
def Fault.Stops (f : Fault) : Prop :=
  (∃ message, f = .interrupt message) ∨ (∃ wish, f = .exit wish) ∨
    ∃ kind message, f = .beyond kind message

theorem Fault.stops_iff {f : Fault} : f.Stops ↔ f.isError = false := by
  constructor
  · rintro (⟨_, rfl⟩ | ⟨_, rfl⟩ | ⟨_, _, rfl⟩) <;> rfl
  · intro h
    cases f with
    | interrupt message => exact .inl ⟨message, rfl⟩
    | exit wish => exact .inr (.inl ⟨wish, rfl⟩)
    | beyond kind message => exact .inr (.inr ⟨kind, message, rfl⟩)
    | _ => cases h

/-- The fault `f` says that the entry point cannot be loaded, and because of what. -/
structure Blames (e : EntryPoint ε m) (cause f : Fault) : Prop where
  eq : f = .engineBroken e.name e.value cause
  family : f.family? = some .engineNotFound
  message : f.message = "Cannot load engine " ++ Text.quote e.name ++ " (" ++ e.value ++ "): " ++
    cause.message
  hint : f.hint = some Fault.installHint
  cause : f.causeName? = some cause.kindName

/-- `Opens n e memory outcome memory' requests`: asking the entry point with this number goes this
way. -/
inductive Opens (n : Nat) (e : EntryPoint ε (StateM μ)) (memory : μ) :
    Except Fault (Loaded ε) → μ → List Asked → Prop
  | broken {memory' : μ} (cause f : Fault) : e.load.run memory = (.error cause, memory') →
      ¬ cause.Stops → Blames e cause f → Opens n e memory (.error f) memory' [.load n]
  | stopped {memory' : μ} (f : Fault) : e.load.run memory = (.error f, memory') → f.Stops →
      Opens n e memory (.error f) memory' [.load n]
  | engine {memory' : μ} (engine : ε) : e.load.run memory = (.ok (.engine engine), memory') →
      Opens n e memory (.ok (.engine engine)) memory' [.load n]
  | inert {memory' : μ} (typeName : String) : e.load.run memory = (.ok (.inert typeName), memory') →
      Opens n e memory (.ok (.inert typeName)) memory' [.load n]
  | made {memory' memory'' : μ} {make : StateM μ (Except Fault ε)} (engine : ε) :
      e.load.run memory = (.ok (.maker make), memory') →
      make.run memory' = (.ok engine, memory'') →
      Opens n e memory (.ok (.engine engine)) memory'' [.load n, .make n]
  | unmade {memory' memory'' : μ} {make : StateM μ (Except Fault ε)} (f : Fault) :
      e.load.run memory = (.ok (.maker make), memory') →
      make.run memory' = (.error f, memory'') →
      Opens n e memory (.error f) memory'' [.load n, .make n]

section
variable {e : EntryPoint ε (StateM μ)} {memory memory' memory'' : μ}

theorem run_open_broken {cause : Fault} (h : e.load.run memory = (.error cause, memory'))
    (hstops : ¬ cause.Stops) :
    e.open?.run memory = (.error (.engineBroken e.name e.value cause), memory') := by
  rw [Fault.stops_iff, Bool.not_eq_false] at hstops
  rw [EntryPoint.open?, StateT.run_bind, h]
  exact congrArg (fun f => (Except.error f, memory')) (if_pos hstops)

theorem run_open_stopped {f : Fault} (h : e.load.run memory = (.error f, memory'))
    (hstops : f.Stops) : e.open?.run memory = (.error f, memory') := by
  have herror : ¬ f.isError = true := by
    rw [Fault.stops_iff.mp hstops]
    decide
  rw [EntryPoint.open?, StateT.run_bind, h]
  exact congrArg (fun f => (Except.error f, memory')) (if_neg herror)

theorem run_open_engine {engine : ε} (h : e.load.run memory = (.ok (.engine engine), memory')) :
    e.open?.run memory = (.ok (.engine engine), memory') := by
  rw [EntryPoint.open?, StateT.run_bind, h]
  rfl

theorem run_open_inert {typeName : String}
    (h : e.load.run memory = (.ok (.inert typeName), memory')) :
    e.open?.run memory = (.ok (.inert typeName), memory') := by
  rw [EntryPoint.open?, StateT.run_bind, h]
  rfl

theorem run_open_maker {make : StateM μ (Except Fault ε)} {made : Except Fault ε}
    (h : e.load.run memory = (.ok (.maker make), memory'))
    (hmake : make.run memory' = (made, memory'')) :
    e.open?.run memory = (made.map .engine, memory'') := by
  rw [EntryPoint.open?, StateT.run_bind, h]
  exact congrArg (fun r => (r.1.map Loaded.engine, r.2)) hmake

end

theorem load_traced {n : Nat} {e : EntryPoint ε (StateM μ)} {memory memory' : μ}
    {found : Except Fault (Loadable ε (StateM μ))} (h : e.load.run memory = (found, memory')) :
    (e.traced n).load.run (memory, []) = (found.map (Loadable.traced n), memory', [.load n]) := by
  rw [EntryPoint.traced, StateT.run_bind, run_recorded, h]
  rfl

/-- To keep a record changes nothing, and the record is the one of the way that is gone. -/
theorem opens_traced (n : Nat) (e : EntryPoint ε (StateM μ)) (memory : μ) :
    ∃ outcome memory' requests, Opens n e memory outcome memory' requests ∧
      (e.traced n).open?.run (memory, []) = (outcome, memory', requests) ∧
      e.open?.run memory = (outcome, memory') := by
  obtain ⟨found, memory', hload⟩ : ∃ found memory', e.load.run memory = (found, memory') :=
    ⟨_, _, rfl⟩
  have htraced := load_traced (n := n) hload
  cases found with
  | error f =>
      by_cases hstops : f.Stops
      · exact ⟨_, _, _, .stopped f hload hstops, run_open_stopped htraced hstops,
          run_open_stopped hload hstops⟩
      · exact ⟨_, _, _, .broken f _ hload hstops ⟨rfl, rfl, rfl, rfl, rfl⟩,
          run_open_broken htraced hstops, run_open_broken hload hstops⟩
  | ok loadable =>
      cases loadable with
      | engine engine =>
          exact ⟨_, _, _, .engine engine hload, run_open_engine htraced, run_open_engine hload⟩
      | inert typeName =>
          exact ⟨_, _, _, .inert typeName hload, run_open_inert htraced, run_open_inert hload⟩
      | maker make =>
          obtain ⟨made, memory'', hmake⟩ : ∃ made memory'', make.run memory' = (made, memory'') :=
            ⟨_, _, rfl⟩
          have hrecorded : (recorded (.make n) make).run (memory', [.load n]) =
              (made, memory'', [.load n, .make n]) := by
            rw [run_recorded, hmake]
            rfl
          have hopen := run_open_maker htraced hrecorded
          cases made with
          | error f => exact ⟨_, _, _, .unmade f hload hmake, hopen, run_open_maker hload hmake⟩
          | ok engine =>
              exact ⟨_, _, _, .made engine hload hmake, hopen, run_open_maker hload hmake⟩

/-! ## Registries of the same names -/

section
variable {m' : Type → Type} {entries : List (EntryPoint ε m)} {others : List (EntryPoint ε m')}
  {g : Nat → EntryPoint ε m → EntryPoint ε m'} (hname : ∀ k e, (g k e).name = e.name)
  (hothers : ∀ k, others[k]? = entries[k]?.map (g k))
include hname hothers

theorem names_image : others.map EntryPoint.name = entries.map EntryPoint.name := by
  refine List.ext_getElem? fun k => ?_
  rw [List.getElem?_map, List.getElem?_map, hothers]
  cases entries[k]? with
  | none => rfl
  | some e => exact congrArg some (hname k e)

theorem First.image {n : Nat} {chosen : EntryPoint ε m} (hfirst : First entries n chosen) :
    First others n (g n chosen) := by
  have hback {k : Nat} {other : EntryPoint ε m'} (hk : others[k]? = some other) :
      ∃ e, entries[k]? = some e ∧ e.name = other.name := by
    rw [hothers] at hk
    obtain ⟨e, he, rfl⟩ := Option.map_eq_some_iff.mp hk
    exact ⟨e, he, (hname k e).symm⟩
  refine ⟨by rw [hothers, hfirst.here, Option.map_some], fun other hother => ?_, ?_⟩
  · obtain ⟨k, hk⟩ := List.mem_iff_getElem?.mp hother
    obtain ⟨e, he, heq⟩ := hback hk
    rw [hname, ← heq]
    exact hfirst.least e (List.mem_of_getElem? he)
  · intro k other hk heq
    obtain ⟨e, he, hsame⟩ := hback hk
    exact hfirst.earliest k e he (by rw [hsame, heq, hname])

end

/-! ## Asking a registry -/

/-- How the asking of a registry has gone. -/
structure Asking (ε μ : Type) where
  outcome : Except Fault (Loaded ε)
  log : List Log.Record
  memory : μ
  requests : List Asked

/-- The same without the record of requests. -/
def Asking.untraced (a : Asking ε μ) : (Except Fault (Loaded ε) × List Log.Record) × μ :=
  ((a.outcome, a.log), a.memory)

/-- How asking these entry points goes, each under the number at which it is registered. -/
def ask (entries : List (EntryPoint ε (StateM μ))) (memory : μ) : Asking ε μ :=
  let asked := (loadEngineM (entries.mapIdx EntryPoint.traced)).run (memory, [])
  ⟨asked.1.1, asked.1.2, asked.2.1, asked.2.2⟩

/-- `Loads entries memory a`: the asking of these entry points goes this way. -/
inductive Loads (entries : List (EntryPoint ε (StateM μ))) (memory : μ) : Asking ε μ → Prop
  | nothing (f : Fault) : entries = [] → f.family? = some .engineNotFound →
      f.message = "No Jamplate engine is installed." → f.hint = some Fault.installHint →
      f.causeName? = none → Loads entries memory ⟨.error f, [], memory, []⟩
  | refused {n : Nat} {chosen : EntryPoint ε (StateM μ)} {log : List Log.Record} {f : Fault}
      {memory' : μ} {requests : List Asked} : First entries n chosen →
      Announces (entries.map EntryPoint.name) chosen.name log →
      Opens n chosen memory (.error f) memory' requests →
      Loads entries memory ⟨.error f, log, memory', requests⟩
  | loaded {n : Nat} {chosen : EntryPoint ε (StateM μ)} {log : List Log.Record}
      {loaded : Loaded ε} {memory' : μ} {requests : List Asked} : First entries n chosen →
      Announces (entries.map EntryPoint.name) chosen.name log →
      Opens n chosen memory (.ok loaded) memory' requests →
      Loads entries memory ⟨.ok loaded, log ++ [⟨.debug, EntryPoint.logger,
        "Loaded engine " ++ Text.quote chosen.name ++ " from " ++ chosen.value⟩], memory', requests⟩

theorem loadEngineM_nil [Monad m] :
    loadEngineM ([] : List (EntryPoint ε m)) = pure (.error .noEngine, []) := by
  rw [loadEngineM, EntryPoint.ranked, List.mergeSort_nil]

theorem loads_ask (entries : List (EntryPoint ε (StateM μ))) (memory : μ) :
    Loads entries memory (ask entries memory) ∧
      (ask entries memory).untraced = (loadEngineM entries).run memory := by
  by_cases hnil : entries = []
  · subst hnil
    rw [ask, List.mapIdx_nil, loadEngineM_nil, loadEngineM_nil]
    exact ⟨.nothing .noEngine rfl rfl rfl rfl rfl, rfl⟩
  · obtain ⟨n, chosen, log, hfirst, hlog⟩ := exists_announced hnil
    obtain ⟨outcome, memory', requests, hopens, htraced, hplain⟩ := opens_traced n chosen memory
    have hname (k : Nat) (e : EntryPoint ε (StateM μ)) : (e.traced k).name = e.name := rfl
    have hothers (k : Nat) : (entries.mapIdx EntryPoint.traced)[k]? =
        entries[k]?.map (EntryPoint.traced k) := List.getElem?_mapIdx
    have hlog' := hlog
    rw [← names_image hname hothers] at hlog'
    rw [ask, loadEngineM_of_first (hfirst.image hname hothers) hlog', StateT.run_bind, htraced,
      loadEngineM_of_first hfirst hlog, StateT.run_bind, hplain]
    cases outcome with
    | error f => exact ⟨.refused hfirst hlog hopens, rfl⟩
    | ok loaded => exact ⟨.loaded hfirst hlog hopens, rfl⟩

/-- Where no two names are the same, the order of registration makes no difference. -/
theorem loadEngineM_of_perm [Monad m] {entries others : List (EntryPoint ε m)}
    (hnames : (entries.map EntryPoint.name).Nodup) (hperm : others.Perm entries) :
    loadEngineM others = loadEngineM entries := by
  by_cases hnil : entries = []
  · subst hnil
    rw [List.perm_nil.mp hperm]
  · obtain ⟨n, chosen, log, hfirst, hlog⟩ := exists_announced hnil
    obtain ⟨k, hfirst'⟩ := hfirst.of_perm hperm hnames
    rw [loadEngineM_of_first hfirst hlog,
      loadEngineM_of_first hfirst' (hlog.of_perm (hperm.map EntryPoint.name))]

/-! ## Engines that do nothing else -/

/-- What is found, wherever there is a memory. -/
def Loadable.still : Loadable ε → Loadable ε (StateM μ)
  | .engine e => .engine e
  | .maker make => .maker (pure make.run)
  | .inert typeName => .inert typeName

/-- The entry point, wherever there is a memory.  It is left as it is. -/
def EntryPoint.still (e : EntryPoint ε) : EntryPoint ε (StateM μ) where
  name := e.name
  value := e.value
  load := pure (e.load.run.map Loadable.still)

theorem run_open_still (e : EntryPoint ε) (memory : μ) :
    e.still.open?.run memory = (e.open?.run, memory) := by
  obtain ⟨name, value, f | (engine | make | typeName)⟩ := e <;> rfl

theorem loadEngineM_still (entries : List (EntryPoint ε)) (memory : μ) :
    (loadEngineM (entries.map EntryPoint.still)).run memory = (loadEngine entries, memory) := by
  by_cases hnil : entries = []
  · subst hnil
    rw [loadEngine, List.map_nil, loadEngineM_nil, loadEngineM_nil]
    rfl
  · obtain ⟨n, chosen, log, hfirst, hlog⟩ := exists_announced hnil
    have hname (k : Nat) (e : EntryPoint ε) : (e.still : EntryPoint ε (StateM μ)).name = e.name :=
      rfl
    have hothers (k : Nat) : (entries.map EntryPoint.still : List (EntryPoint ε (StateM μ)))[k]? =
        entries[k]?.map EntryPoint.still := List.getElem?_map
    have hlog' := hlog
    rw [← names_image hname hothers] at hlog'
    rw [loadEngine, loadEngineM_of_first (hfirst.image hname hothers) hlog', StateT.run_bind,
      run_open_still, loadEngineM_of_first hfirst hlog]
    show (chosen.still.report log chosen.open?.run, memory) =
      (chosen.report log chosen.open?.run, memory)
    cases chosen.open?.run <;> rfl

/-! ## Which engine is taken -/

/-- Asking a registry goes one of the ways that there are, and only one of its entry points is asked
for anything.  If no two have the same name, the order in which they are registered makes no
difference.  And where loading and making do nothing else, this is what the program runs. -/
theorem loadEngineM_exact (entries : List (EntryPoint ε (StateM μ))) (memory : μ) :
    (Loads entries memory (ask entries memory) ∧
      (ask entries memory).untraced = (loadEngineM entries).run memory) ∧
    ((entries.map EntryPoint.name).Nodup → ∀ others, others.Perm entries →
      loadEngineM others = loadEngineM entries) ∧
    ∀ still : List (EntryPoint ε),
      (loadEngineM (still.map EntryPoint.still)).run memory = (loadEngine still, memory) :=
  ⟨loads_ask entries memory, fun hnames _ hperm => loadEngineM_of_perm hnames hperm,
    fun still => loadEngineM_still still memory⟩

def counting {α : Type} (result : α) : StateM Nat α := do
  modify (· + 1)
  return result

def sampleEntry : EntryPoint String (StateM Nat) where
  name := "alpha"
  value := "alpha:Engine"
  load := counting (.ok (.maker (counting (.ok "made"))))

/-- It is registered between an engine with another name and one with the same. -/
def sampleEntries : List (EntryPoint String (StateM Nat)) :=
  [⟨"zeta", "zeta:engine", counting (.ok (.engine "zeta"))⟩, sampleEntry,
    ⟨"alpha", "again:engine", counting (.error (.interrupt ""))⟩]

theorem sampleEntry_first : First sampleEntries 1 sampleEntry where
  here := rfl
  least := by
    have hnames : ∀ name ∈ sampleEntries.map EntryPoint.name, "alpha" ≤ name := by decide
    exact fun other hother => byCodePoint_iff.mpr (hnames _ (List.mem_map_of_mem hother))
  earliest := by
    rintro (_ | k) other hk hname
    · obtain rfl := Option.some.inj hk
      exact absurd hname (by decide)
    · exact Nat.succ_le_succ (Nat.zero_le k)

theorem sampleEntries_announce : Announces (sampleEntries.map EntryPoint.name) "alpha"
    [⟨.debug, EntryPoint.logger,
      "Several engines registered (alpha, alpha, zeta); using 'alpha'"⟩] := by
  refine .several ["alpha", "alpha", "zeta"] (by decide) (by decide) ?_
  have hsorted : ["alpha", "alpha", "zeta"].Pairwise (· ≤ ·) := by decide
  exact hsorted.imp byCodePoint_iff.mpr

theorem sampleEntries_taken :
    ask sampleEntries 0 = ⟨.ok (.engine "made"),
      [⟨.debug, EntryPoint.logger,
          "Several engines registered (alpha, alpha, zeta); using 'alpha'"⟩,
        ⟨.debug, EntryPoint.logger, "Loaded engine 'alpha' from alpha:Engine"⟩],
      2, [.load 1, .make 1]⟩ ∧
    loadEngineM (sampleEntries.take 2).reverse = loadEngineM (sampleEntries.take 2) := by
  constructor
  · obtain ⟨⟨hloads, -⟩, -⟩ := loadEngineM_exact sampleEntries 0
    generalize ask sampleEntries 0 = a at hloads ⊢
    cases hloads with
    | nothing f hnil => cases hnil
    | refused hfirst _ hopens =>
        obtain ⟨rfl, rfl⟩ := sampleEntry_first.unique hfirst
        cases hopens with
        | broken _ _ hload | stopped _ hload => cases hload
        | unmade f hload hmake =>
            cases hload
            cases hmake
    | loaded hfirst hlog hopens =>
        obtain ⟨rfl, rfl⟩ := sampleEntry_first.unique hfirst
        obtain rfl := hlog.unique sampleEntries_announce
        cases hopens with
        | engine engine hload => cases hload
        | inert typeName hload => cases hload
        | made engine hload hmake =>
            cases hload
            cases hmake
            rfl
  · exact (loadEngineM_exact (sampleEntries.take 2) 0).2.1 (by decide) _ (List.reverse_perm _)

end TemplateRun
