/-
# `OrderedMap` — finite maps that keep the order of first insertion

A map is a list of entries with pairwise distinct keys, the distinctness carried by the type.
Writing to a key that is present replaces the value where it stands; a new key goes to the end.
Two readings of a map are used elsewhere: the entries in order, and the partial function `get?`.
What `insert` does to each of them is said by `keys_insert` and `get?_insert`, and `same_iff`
says that `same` compares the second reading only.
-/

namespace TemplateRun

/-- A finite map whose entries stand in the order in which their keys were first inserted. -/
structure OrderedMap (κ ν : Type) where
  entries : List (κ × ν)
  keys_nodup : (entries.map Prod.fst).Nodup

namespace OrderedMap

variable {κ ν : Type}

/-- The keys, in order. -/
def keys (m : OrderedMap κ ν) : List κ := m.entries.map Prod.fst

def empty : OrderedMap κ ν := ⟨[], List.nodup_nil⟩

instance : EmptyCollection (OrderedMap κ ν) := ⟨empty⟩
instance : Inhabited (OrderedMap κ ν) := ⟨empty⟩

theorem ext {m n : OrderedMap κ ν} (h : m.entries = n.entries) : m = n := by
  cases m; cases n; cases h; rfl

instance [DecidableEq κ] [DecidableEq ν] : DecidableEq (OrderedMap κ ν) := fun m n =>
  if h : m.entries = n.entries then isTrue (ext h) else isFalse fun e => h (e ▸ rfl)

variable [DecidableEq κ]

/-! ## Writing -/

/-- The entries with `k ↦ v`: in place if `k` is there, at the end if not. -/
def overwrite (k : κ) (v : ν) : List (κ × ν) → List (κ × ν)
  | [] => [(k, v)]
  | e :: rest => if e.1 = k then (k, v) :: rest else e :: overwrite k v rest

/-- Only a key that was not there is added, and it is added last. -/
theorem map_fst_overwrite (k : κ) (v : ν) (es : List (κ × ν)) :
    (overwrite k v es).map Prod.fst =
      if k ∈ es.map Prod.fst then es.map Prod.fst else es.map Prod.fst ++ [k] := by
  induction es with
  | nil => rfl
  | cons e rest ih =>
    by_cases h : e.1 = k
    · simp [overwrite, h]
    · have h' : ¬ k = e.1 := fun e' => h e'.symm
      by_cases hk : k ∈ rest.map Prod.fst
      · simp [overwrite, h, ih, hk]
      · simp only [overwrite, h, if_false, List.map_cons, ih, hk, List.mem_cons, h', or_self,
          List.cons_append]

/-- The map with `k ↦ v`. -/
def insert (m : OrderedMap κ ν) (k : κ) (v : ν) : OrderedMap κ ν where
  entries := overwrite k v m.entries
  keys_nodup := by
    rw [map_fst_overwrite]
    split
    · exact m.keys_nodup
    · next h =>
      refine List.nodup_append.2 ⟨m.keys_nodup, by simp, ?_⟩
      intro a ha b hb e
      exact h (by rw [← List.mem_singleton.1 hb, ← e]; exact ha)

/-- The map that a list of writes leaves, the first write first. -/
def ofList (writes : List (κ × ν)) : OrderedMap κ ν :=
  writes.foldl (fun m e => m.insert e.1 e.2) empty

theorem keys_insert (m : OrderedMap κ ν) (k : κ) (v : ν) :
    (m.insert k v).keys = if k ∈ m.keys then m.keys else m.keys ++ [k] :=
  map_fst_overwrite k v m.entries

/-! ## Reading -/

def get? (m : OrderedMap κ ν) (k : κ) : Option ν := m.entries.lookup k

theorem lookup_overwrite (k k' : κ) (v : ν) (es : List (κ × ν)) :
    (overwrite k v es).lookup k' = if k' = k then some v else es.lookup k' := by
  induction es with
  | nil =>
    by_cases h : k' = k
    · simp [overwrite, h]
    · simp [overwrite, List.lookup_cons, h, beq_false_of_ne h]
  | cons e rest ih =>
    obtain ⟨a, w⟩ := e
    by_cases h : a = k
    · subst h
      by_cases hk : k' = a
      · simp [overwrite, hk]
      · simp [overwrite, List.lookup_cons, hk, beq_false_of_ne hk]
    · by_cases hk : k' = a
      · subst hk
        simp [overwrite, h]
      · simp [overwrite, h, List.lookup_cons, beq_false_of_ne hk, ih]

@[simp] theorem get?_empty (k : κ) : (empty : OrderedMap κ ν).get? k = none := rfl

theorem get?_insert (m : OrderedMap κ ν) (k k' : κ) (v : ν) :
    (m.insert k v).get? k' = if k' = k then some v else m.get? k' :=
  lookup_overwrite k k' v m.entries

/-- Whether two maps agree at every key, wherever their entries stand. -/
def same [DecidableEq ν] (m n : OrderedMap κ ν) : Bool :=
  m.entries.all (fun e => n.get? e.1 = some e.2) && n.entries.all (fun e => m.get? e.1 = some e.2)

theorem get?_eq_some_iff (m : OrderedMap κ ν) (k : κ) (v : ν) :
    m.get? k = some v ↔ (k, v) ∈ m.entries := by
  obtain ⟨es, hn⟩ := m
  simp only [get?]
  induction es with
  | nil => simp [List.lookup_nil]
  | cons e rest ih =>
    obtain ⟨a, w⟩ := e
    simp only [List.map_cons, List.nodup_cons] at hn
    by_cases hk : k = a
    · subst hk
      simp only [List.lookup_cons, beq_self_eq_true, Option.some.injEq, List.mem_cons,
        Prod.mk.injEq,
        true_and]
      refine ⟨fun h => .inl h.symm, fun h => ?_⟩
      rcases h with h | h
      · exact h.symm
      · exact absurd (List.mem_map.2 ⟨_, h, rfl⟩) hn.1
    · simp [List.lookup_cons, beq_false_of_ne hk, hk, ih hn.2]

theorem same_iff [DecidableEq ν] (m n : OrderedMap κ ν) :
    m.same n = true ↔ ∀ k, m.get? k = n.get? k := by
  simp only [same, Bool.and_eq_true, List.all_eq_true, decide_eq_true_eq]
  constructor
  · rintro ⟨hm, hn⟩ k
    cases h : m.get? k with
    | some v => exact (hm _ ((get?_eq_some_iff m k v).1 h)).symm
    | none =>
      cases h' : n.get? k with
      | none => rfl
      | some v => exact absurd (hn _ ((get?_eq_some_iff n k v).1 h')) (by simp [h])
  · intro h
    exact ⟨fun e he => by rw [← h, get?_eq_some_iff]; exact he,
      fun e he => by rw [h, get?_eq_some_iff]; exact he⟩

end OrderedMap

end TemplateRun
