/-
# `Entry` — the first `=` cuts a token in one way

A token writes an entry exactly if it holds a `=`, and then there is one way to take it apart into
a key without `=`, the sign, and a value (`entry?_eq_some_iff`, `entry?_eq_none_iff`).  Key and
value may be empty and the value may hold further signs.  Both facts are an induction over the
characters that `cut` scans.

So the tokens that hold a sign and the pairs of a key without it and a value are the same things
written in two ways (`cutting`).
-/
import Mathlib.Logic.Equiv.Defs
import TemplateRun.Invocation.Reader

namespace TemplateRun.Invocation

theorem cut_eq_none_iff {s : List Char} : cut s = none ↔ '=' ∉ s := by
  induction s with
  | nil => simp [cut]
  | cons c rest ih =>
      by_cases h : c = '='
      · simp [cut, h]
      · rw [cut, if_neg h, Option.map_eq_none_iff, ih, List.mem_cons, not_or]
        exact ⟨fun hr => ⟨fun hc => h hc.symm, hr⟩, fun hr => hr.2⟩

theorem cut_append {key : List Char} (value : List Char) (h : '=' ∉ key) :
    cut (key ++ '=' :: value) = some (key, value) := by
  induction key with
  | nil => simp [cut]
  | cons c rest ih =>
      obtain ⟨hc, hr⟩ : ¬c = '=' ∧ '=' ∉ rest := by simpa [eq_comm] using h
      simp [cut, hc, ih hr]

theorem eq_append_of_cut {s key value : List Char} (h : cut s = some (key, value)) :
    s = key ++ '=' :: value ∧ '=' ∉ key := by
  induction s generalizing key with
  | nil => exact nomatch h
  | cons c rest ih =>
      by_cases hc : c = '='
      · simp only [cut, if_pos hc, Option.some.injEq, Prod.mk.injEq] at h
        obtain ⟨rfl, rfl⟩ := h
        exact ⟨by rw [hc]; rfl, List.not_mem_nil⟩
      · simp only [cut, if_neg hc, Option.map_eq_some_iff] at h
        obtain ⟨⟨k, v⟩, hcut, he⟩ := h
        obtain ⟨rfl, rfl⟩ := Prod.mk.inj he
        obtain ⟨hs, hk⟩ := ih hcut
        refine ⟨by rw [hs]; rfl, ?_⟩
        simp [hk, eq_comm, hc]

theorem entry?_eq_some_iff {token key value : String} :
    entry? token = some (key, value) ↔ token = key ++ "=" ++ value ∧ '=' ∉ key.toList := by
  have hchars : token = key ++ "=" ++ value ↔
      token.toList = key.toList ++ '=' :: value.toList := by
    rw [← String.toList_inj]
    simp
  unfold entry?
  rw [hchars, Option.map_eq_some_iff]
  constructor
  · rintro ⟨⟨k, v⟩, hcut, he⟩
    obtain ⟨rfl, rfl⟩ := Prod.mk.inj he
    simpa using eq_append_of_cut hcut
  · rintro ⟨hs, hk⟩
    exact ⟨(key.toList, value.toList), by rw [hs, cut_append _ hk], by simp⟩

theorem entry?_eq_none_iff {token : String} : entry? token = none ↔ '=' ∉ token.toList := by
  unfold entry?
  rw [Option.map_eq_none_iff, cut_eq_none_iff]

/-! ## Cutting and joining -/

/-- `Cuts token parts`: the token is the key, a sign and the value, and there is no sign before
this one. -/
def Cuts (token : String) (parts : String × String) : Prop :=
  token = parts.1 ++ "=" ++ parts.2 ∧ '=' ∉ parts.1.toList

theorem entry?_eq_some_iff_cuts {token : String} {parts : String × String} :
    entry? token = some parts ↔ Cuts token parts :=
  entry?_eq_some_iff

theorem entry?_joined {key : String} (value : String) (h : '=' ∉ key.toList) :
    entry? (key ++ "=" ++ value) = some (key, value) :=
  entry?_eq_some_iff.mpr ⟨rfl, h⟩

theorem entry?_ne_none_iff {token : String} : entry? token ≠ none ↔ '=' ∈ token.toList := by
  rw [ne_eq, entry?_eq_none_iff, not_not]

theorem Cuts.unique {token : String} {parts parts' : String × String} (h : Cuts token parts)
    (h' : Cuts token parts') : parts = parts' := by
  rw [← entry?_eq_some_iff_cuts] at h h'
  exact Option.some.inj (h.symm.trans h')

def partsOf (token : { token : String // '=' ∈ token.toList }) : String × String :=
  Option.get _ (Option.ne_none_iff_isSome.mp (entry?_ne_none_iff.mpr token.2))

theorem entry?_eq_partsOf (token : { token : String // '=' ∈ token.toList }) :
    entry? token.1 = some (partsOf token) :=
  (Option.some_get _).symm

theorem cuts_partsOf (token : { token : String // '=' ∈ token.toList }) :
    Cuts token.1 (partsOf token) :=
  entry?_eq_some_iff_cuts.mp (entry?_eq_partsOf token)

/-- The tokens that hold a sign are the keys without one with their values: they are cut one way
and joined the other. -/
def cutting : { token : String // '=' ∈ token.toList } ≃
    { key : String // '=' ∉ key.toList } × String where
  toFun token := (⟨(partsOf token).1, (cuts_partsOf token).2⟩, (partsOf token).2)
  invFun parts := ⟨parts.1.1 ++ "=" ++ parts.2, by simp⟩
  left_inv token := Subtype.ext (cuts_partsOf token).1.symm
  right_inv := by
    rintro ⟨⟨key, hkey⟩, value⟩
    have hparts : partsOf ⟨key ++ "=" ++ value, by simp⟩ = (key, value) :=
      (cuts_partsOf _).unique ⟨rfl, hkey⟩
    simp only [hparts]

/-- A token that holds a sign is cut at its first into what it is joined from, and in no other way;
a token that holds none is not cut. -/
theorem cutting_exact :
    (∀ token : String, entry? token = none ↔ '=' ∉ token.toList) ∧
    (∀ token : String, '=' ∈ token.toList → ∃! parts : String × String, Cuts token parts) ∧
    (∀ (token : String) (parts : String × String),
      entry? token = some parts ↔ Cuts token parts) ∧
    (∀ key value : String, '=' ∉ key.toList →
      entry? (key ++ "=" ++ value) = some (key, value)) ∧
    (∀ token : { token : String // '=' ∈ token.toList },
      entry? token.1 = some ((cutting token).1.1, (cutting token).2)) ∧
    ∀ parts : { key : String // '=' ∉ key.toList } × String,
      (cutting.symm parts).1 = parts.1.1 ++ "=" ++ parts.2 := by
  refine ⟨fun token => entry?_eq_none_iff, fun token h => ?_, fun token parts =>
    entry?_eq_some_iff_cuts, fun key value h => entry?_joined value h, fun token => ?_,
    fun parts => rfl⟩
  · exact ⟨partsOf ⟨token, h⟩, cuts_partsOf ⟨token, h⟩, fun parts hparts =>
      hparts.unique (cuts_partsOf ⟨token, h⟩)⟩
  · exact entry?_eq_partsOf token

/-- A token that begins with its sign and holds another one. -/
theorem signedValue_cutting :
    '=' ∈ "==v".toList ∧ '=' ∉ "".toList ∧ (∃! parts : String × String, Cuts "==v" parts) ∧
      entry? ("" ++ "=" ++ "=v") = some ("", "=v") := by
  have hsign : '=' ∈ "==v".toList := by decide
  have hkey : '=' ∉ "".toList := by decide
  exact ⟨hsign, hkey, cutting_exact.2.1 "==v" hsign, cutting_exact.2.2.2.1 "" "=v" hkey⟩

end TemplateRun.Invocation
