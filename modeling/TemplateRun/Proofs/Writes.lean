/-
# `Writes` — what a list of writes leaves in an ordered map

`OrderedMap.ofList` writes entries one after the other.  What is left can be said of the list at
once, without the writing: the keys stand in the order in which they first occur (`keys_ofList`),
and the value at a key is the last one that the list has for it (`get?_ofList_eq_some_iff`).  These
two readings fix a map (`eq_of_keys_of_get?`), so nothing else can be asked of it.
-/
import Mathlib.Data.List.Basic
import Mathlib.Data.List.Induction
import TemplateRun.OrderedMap

namespace TemplateRun.OrderedMap

variable {κ ν : Type} [DecidableEq κ]

/-! ## One more write -/

theorem ofList_append_singleton (writes : List (κ × ν)) (e : κ × ν) :
    ofList (writes ++ [e]) = (ofList writes).insert e.1 e.2 := by
  simp only [ofList, List.foldl_append, List.foldl_cons, List.foldl_nil]

theorem eraseDups_append_singleton (keys : List κ) (k : κ) :
    (keys ++ [k]).eraseDups = if k ∈ keys then keys.eraseDups else keys.eraseDups ++ [k] := by
  rw [List.eraseDups_append]
  by_cases h : k ∈ keys
  · simp [List.removeAll, h]
  · simp [List.removeAll, h, List.eraseDups_cons]

/-! ## All writes -/

/-- Each key stands once, where it was written first. -/
theorem keys_ofList (writes : List (κ × ν)) :
    (ofList writes).keys = (writes.map Prod.fst).eraseDups := by
  induction writes using List.reverseRecOn with
  | nil => rfl
  | append_singleton writes e ih =>
      have hmem : e.1 ∈ (ofList writes).keys ↔ e.1 ∈ writes.map Prod.fst := by
        rw [ih, List.mem_eraseDups]
      rw [ofList_append_singleton, keys_insert, List.map_append, List.map_singleton,
        eraseDups_append_singleton, ih]
      simp only [ih] at hmem
      simp only [hmem]

/-- Reading looks through the writes from the last one back. -/
theorem get?_ofList (writes : List (κ × ν)) (k : κ) :
    (ofList writes).get? k = writes.reverse.lookup k := by
  induction writes using List.reverseRecOn with
  | nil => rfl
  | append_singleton writes e ih =>
      obtain ⟨a, v⟩ := e
      rw [ofList_append_singleton, get?_insert, ih, List.reverse_append]
      by_cases h : k = a
      · simp [h]
      · simp [h, List.lookup_cons, beq_false_of_ne h]

theorem get?_ofList_eq_some_iff (writes : List (κ × ν)) (k : κ) (v : ν) :
    (ofList writes).get? k = some v ↔
      ∃ before after, writes = before ++ (k, v) :: after ∧ k ∉ after.map Prod.fst := by
  rw [get?_ofList, List.lookup_eq_some_iff]
  constructor
  · rintro ⟨after, before, h, hk⟩
    refine ⟨before.reverse, after.reverse, ?_, ?_⟩
    · rw [← List.reverse_inj, h]
      simp
    · intro hmem
      obtain ⟨e, he, rfl⟩ := List.mem_map.mp hmem
      simpa using hk e (List.mem_reverse.mp he)
  · rintro ⟨before, after, rfl, hk⟩
    refine ⟨after.reverse, before.reverse, by simp, ?_⟩
    intro e he
    have hne : k ≠ e.1 := fun h =>
      hk (List.mem_map.mpr ⟨e, List.mem_reverse.mp he, h.symm⟩)
    simpa using hne

theorem overwrite_of_not_mem {k : κ} (v : ν) {es : List (κ × ν)} (h : k ∉ es.map Prod.fst) :
    overwrite k v es = es ++ [(k, v)] := by
  induction es with
  | nil => rfl
  | cons e rest ih =>
      rw [List.map_cons, List.mem_cons, not_or] at h
      rw [overwrite, if_neg fun he => h.1 he.symm, ih h.2, List.cons_append]

theorem entries_ofList {writes : List (κ × ν)} (h : (writes.map Prod.fst).Nodup) :
    (ofList writes).entries = writes := by
  induction writes using List.reverseRecOn with
  | nil => rfl
  | append_singleton writes e ih =>
      rw [List.map_append, List.map_singleton, List.nodup_append] at h
      obtain ⟨hwrites, -, hdistinct⟩ := h
      have hnew : e.1 ∉ writes.map Prod.fst := fun hmem =>
        hdistinct e.1 hmem e.1 (List.mem_singleton_self e.1) rfl
      rw [ofList_append_singleton]
      show overwrite e.1 e.2 (ofList writes).entries = writes ++ [e]
      rw [ih hwrites, overwrite_of_not_mem e.2 hnew]

theorem ofList_entries (m : OrderedMap κ ν) : ofList m.entries = m :=
  ext (entries_ofList m.keys_nodup)

/-! ## The two readings fix the map -/

/-- The entries can be had back from the keys and the values at them. -/
theorem entries_eq_filterMap_keys (m : OrderedMap κ ν) :
    m.entries = m.keys.filterMap fun k => (m.get? k).map fun v => (k, v) := by
  have h : ∀ e ∈ m.entries, some e = (m.get? e.1).map fun v => (e.1, v) := by
    intro e he
    rw [(get?_eq_some_iff m e.1 e.2).mpr he]
    rfl
  calc m.entries = m.entries.filterMap some := List.filterMap_some.symm
    _ = m.entries.filterMap fun e => (m.get? e.1).map fun v => (e.1, v) := List.filterMap_congr h
    _ = m.keys.filterMap fun k => (m.get? k).map fun v => (k, v) := by
        rw [keys, List.filterMap_map]
        rfl

theorem eq_of_keys_of_get? {m n : OrderedMap κ ν} (hk : m.keys = n.keys)
    (hv : ∀ k, m.get? k = n.get? k) : m = n := by
  apply ext
  rw [entries_eq_filterMap_keys m, entries_eq_filterMap_keys n, hk]
  simp only [hv]

/-! ## Writes over a map -/

theorem mem_keys_of_get? {m : OrderedMap κ ν} {k : κ} {v : ν} (h : m.get? k = some v) :
    k ∈ m.keys :=
  List.mem_map.mpr ⟨(k, v), (get?_eq_some_iff m k v).mp h, rfl⟩

theorem mem_keys_insert (m : OrderedMap κ ν) (k : κ) (v : ν) : k ∈ (m.insert k v).keys := by
  refine mem_keys_of_get? (v := v) ?_
  rw [get?_insert, if_pos rfl]

theorem insert_eq_self {m : OrderedMap κ ν} {k : κ} {v : ν} (h : m.get? k = some v) :
    m.insert k v = m := by
  refine eq_of_keys_of_get? ?_ fun k' => ?_
  · rw [keys_insert, if_pos (mem_keys_of_get? h)]
  · rw [get?_insert]
    split
    · next hk => rw [hk, h]
    · rfl

theorem insert_insert (m : OrderedMap κ ν) (k : κ) (v w : ν) :
    (m.insert k v).insert k w = m.insert k w := by
  refine eq_of_keys_of_get? ?_ fun k' => ?_
  · rw [keys_insert, if_pos (mem_keys_insert m k v), keys_insert, keys_insert]
  · rw [get?_insert, get?_insert, get?_insert]
    split
    · rfl
    · rfl

/-- Writes to distinct keys leave the keys that are there where they are, and add the others behind
them, in order. -/
theorem keys_foldl_insert {writes : List (κ × ν)} (h : (writes.map Prod.fst).Nodup)
    (m : OrderedMap κ ν) :
    (writes.foldl (fun m e => m.insert e.1 e.2) m).keys =
      m.keys ++ (writes.map Prod.fst).filter (· ∉ m.keys) := by
  induction writes generalizing m with
  | nil => exact (List.append_nil _).symm
  | cons e rest ih =>
      rw [List.map_cons, List.nodup_cons] at h
      obtain ⟨hnew, hrest⟩ := h
      rw [List.foldl_cons, ih hrest, keys_insert, List.map_cons]
      by_cases hk : e.1 ∈ m.keys
      · simp [hk]
      · have hsame : (rest.map Prod.fst).filter (· ∉ m.keys ++ [e.1]) =
            (rest.map Prod.fst).filter (· ∉ m.keys) := by
          refine List.filter_congr fun k hmem => ?_
          have hne : k ≠ e.1 := fun heq => hnew (heq ▸ hmem)
          simp [hne]
        rw [if_neg hk, hsame, List.filter_cons_of_pos (by simpa using hk)]
        simp

end TemplateRun.OrderedMap
