/-
# `Intercalation` — pieces with a sign between each two

Paths and records are written as pieces with a sign in between.  Such a text is its first piece,
and then each of the others with the sign in front (`intercalate_cons`).  So what is in it is in one
of the pieces or in the sign, which occurs only between two (`mem_intercalate_iff`), and in front of
the last piece there is nothing or something that ends in the sign (`exists_intercalate_eq`).
-/
import Mathlib.Data.List.Basic

namespace TemplateRun

variable {α : Type} {sign : List α}

theorem intercalate_cons (piece : List α) (pieces : List (List α)) :
    sign.intercalate (piece :: pieces) = piece ++ pieces.flatMap (sign ++ ·) := by
  induction pieces generalizing piece with
  | nil => simp
  | cons next pieces ih =>
      rw [List.intercalate_cons_cons, ih, List.flatMap_cons, List.append_assoc, List.append_assoc]

theorem mem_intercalate_iff {a : α} {pieces : List (List α)} :
    a ∈ sign.intercalate pieces ↔
      (∃ piece ∈ pieces, a ∈ piece) ∨ (a ∈ sign ∧ 2 ≤ pieces.length) := by
  match pieces with
  | [] => simp
  | [piece] => simp
  | piece :: next :: pieces =>
      rw [intercalate_cons, List.mem_append, List.mem_flatMap, List.exists_mem_cons_iff]
      simp only [List.mem_append, List.length_cons]
      by_cases hsign : a ∈ sign <;> simp [hsign]

theorem exists_intercalate_eq (init : List (List α)) (last : List α) :
    ∃ front, sign.intercalate (init ++ [last]) = front ++ last ∧
      (front = [] ∨ ∃ before, front = before ++ sign) := by
  cases init with
  | nil => exact ⟨[], by simp, .inl rfl⟩
  | cons piece init =>
      refine ⟨piece ++ init.flatMap (sign ++ ·) ++ sign, ?_, .inr ⟨_, rfl⟩⟩
      rw [List.cons_append, intercalate_cons, List.flatMap_append, List.flatMap_singleton,
        List.append_assoc, List.append_assoc]

end TemplateRun
