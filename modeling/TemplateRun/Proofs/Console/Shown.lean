/-
# `Shown` — texts that are shown as they are

On a styling console four things come between a text that is escaped and what is seen of it, and
none of them is undone:

    a tab                              becomes blanks
    a character that leaves no trace   is taken out
    `\[` where no tag opens            loses its backslash
    a lone `\` at the end              is seen twice

`ShowsAsIs` says that none of the four occurs, and `layout_visible_eq_iff` that the text is then
seen as it is, and only then.
-/
import TemplateRun.Console.Layout
import TemplateRun.Proofs.Markup.Visible

namespace TemplateRun.Console

open Markup

/-! ## Tabs -/

theorem tab_not_mem_layoutEach (m : Text.Measure) (s : List Char) :
    ∀ shown ∈ layoutEach m s, '\t' ∉ shown := by
  induction s generalizing m with
  | nil => exact fun _ h => absurd h List.not_mem_nil
  | cons c rest ih =>
      rw [layoutEach]
      split
      · next hc =>
          rw [List.forall_mem_cons, hc]
          exact ⟨by decide, ih _⟩
      · split
        · refine List.forall_mem_cons.mpr ⟨?_, ih _⟩
          rw [List.mem_cons, List.mem_replicate]
          rintro (h | ⟨-, h⟩)
          · cases h
          · cases h
        · next hc =>
            refine List.forall_mem_cons.mpr ⟨?_, ih _⟩
            rw [List.mem_singleton]
            exact fun h => hc h.symm

theorem tab_not_mem_layout (s : List Char) : '\t' ∉ layout s := by
  rw [layout, List.mem_flatten]
  rintro ⟨shown, hshown, htab⟩
  exact tab_not_mem_layoutEach _ s shown hshown htab

/-! ## Texts that are shown as they are -/

/-- The text is seen as it is on a styling console too. -/
structure ShowsAsIs (text : List Char) : Prop where
  noTab : '\t' ∉ text
  traced : ∀ c ∈ text, Text.isTraceless c = false
  noStray : NoStray text
  endsWell : endsInLoneBackslash text = false

theorem traces_eq_self_iff {s : List Char} :
    Text.traces s = s ↔ ∀ c ∈ s, Text.isTraceless c = false := by
  simp only [Text.traces, List.filter_eq_self, Bool.not_eq_true']

/-- Behind a front that is shown as it is, a text is laid out as it is if and only if nothing comes
between. -/
theorem layout_visible_eq_iff {front : List Char} (hfront : '\t' ∉ front) (s : List Char) :
    layout (front ++ Text.traces (visible s)) = front ++ s ↔ ShowsAsIs s := by
  constructor
  · intro h
    have htab : '\t' ∉ s := fun hs =>
      tab_not_mem_layout _ (h.symm ▸ List.mem_append_right front hs)
    have hvisibleTab : '\t' ∉ front ++ Text.traces (visible s) := by
      rw [List.mem_append]
      rintro (hf | hv)
      · exact hfront hf
      · rcases mem_or_eq_of_mem_visible (List.mem_filter.mp hv).1 with hs | hs
        · exact htab hs
        · cases hs
    rw [layout_eq_self hvisibleTab] at h
    have htraces : Text.traces (visible s) = s := List.append_cancel_left h
    have htraced : ∀ c ∈ s, Text.isTraceless c = false := by
      intro c hc
      rw [← htraces, Text.traces, List.mem_filter, Bool.not_eq_true'] at hc
      exact hc.2
    -- so there was nothing to be taken out of what is visible of the text
    have hnone : Text.traces (visible s) = visible s := by
      rw [traces_eq_self_iff]
      intro c hc
      rcases mem_or_eq_of_mem_visible hc with hs | rfl
      · exact htraced c hs
      · decide
    obtain ⟨hstray, hend⟩ := (visible_eq_self_iff s).mp (hnone.symm.trans htraces)
    exact ⟨htab, htraced, hstray, hend⟩
  · rintro ⟨htab, htraced, hstray, hend⟩
    rw [(visible_eq_self_iff s).mpr ⟨hstray, hend⟩, traces_eq_self_iff.mpr htraced]
    refine layout_eq_self ?_
    rw [List.mem_append]
    rintro (hf | hs)
    · exact hfront hf
    · exact htab hs

end TemplateRun.Console
