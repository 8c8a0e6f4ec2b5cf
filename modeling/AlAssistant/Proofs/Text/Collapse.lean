import AlAssistant.Text.Layout
import Mathlib.Data.List.Chain

/-!
# Collapsed texts

The words of a text with single spaces between them begin and end with a visible character, hold no
blank but the space, and never two of them in a row.
-/
namespace AlAssistant.Text

/-- Visible words with single spaces between them, and no blanks besides. -/
structure IsCollapsed (text : List Char) : Prop where
  first_visible : text.head?.any isBlank = false
  last_visible : text.getLast?.any isBlank = false
  blank_eq : ∀ c ∈ text, isBlank c = true → c = ' '
  blanks_apart : text.IsChain fun a b => isBlank a = true → isBlank b = false

section Words
variable {text run word : List Char} {ws : List (List Char)}

/-- A word is not empty and holds no blank. -/
def IsVisible (word : List Char) : Prop := word ≠ [] ∧ ∀ c ∈ word, isBlank c = false

theorem isVisible_of_mem_wordsFrom (hr : ∀ c ∈ run, isBlank c = false)
    (h : word ∈ wordsFrom run text) : IsVisible word := by
  have hrun : ∀ run : List Char, (∀ c ∈ run, isBlank c = false) → run.isEmpty ≠ true →
      IsVisible run.reverse := fun run hr hn =>
    ⟨by simpa using hn, fun c hc => hr c (List.mem_reverse.1 hc)⟩
  fun_induction wordsFrom run text with
  | case1 => cases h
  | case2 run hn =>
    obtain rfl := List.mem_singleton.1 h
    exact hrun run hr hn
  | case3 run c rest hb he ih => exact ih (fun d hd => by cases hd) h
  | case4 run c rest hb hn ih =>
    rcases List.mem_cons.1 h with rfl | h
    · exact hrun run hr hn
    · exact ih (fun d hd => by cases hd) h
  | case5 run c rest hb ih =>
    refine ih (fun d hd => ?_) h
    rcases List.mem_cons.1 hd with rfl | hd
    · exact Bool.eq_false_iff.2 hb
    · exact hr d hd

theorem IsVisible.isCollapsed (h : IsVisible word) : IsCollapsed word where
  first_visible := by
    obtain ⟨c, rest, rfl⟩ := List.exists_cons_of_ne_nil h.1
    exact h.2 c List.mem_cons_self
  last_visible := by
    rw [List.getLast?_eq_some_getLast h.1]
    exact h.2 _ (List.getLast_mem h.1)
  blank_eq c hc hb := by simp [h.2 c hc] at hb
  blanks_apart := by
    refine List.isChain_iff_forall_rel_of_append_cons_cons.2 fun a b l r he _ => h.2 b ?_
    rw [he]
    simp

/-- A word in front of a collapsed text, with one space between them. -/
theorem IsCollapsed.behind_word {rest : List Char} (hw : IsVisible word) (hr : IsCollapsed rest)
    (hn : rest ≠ []) : IsCollapsed (word ++ ' ' :: rest) where
  first_visible := by
    obtain ⟨c, more, rfl⟩ := List.exists_cons_of_ne_nil hw.1
    exact hw.2 c List.mem_cons_self
  last_visible := by
    have hl : (word ++ ' ' :: rest).getLast? = rest.getLast? := by
      rw [List.getLast?_append, List.getLast?_cons, List.getLast?_eq_some_getLast hn]
      rfl
    rw [hl]
    exact hr.last_visible
  blank_eq c hc hb := by
    rcases List.mem_append.1 hc with hc | hc
    · simp [hw.2 c hc] at hb
    · rcases List.mem_cons.1 hc with rfl | hc
      · rfl
      · exact hr.blank_eq c hc hb
  blanks_apart := by
    refine List.IsChain.append hw.isCollapsed.blanks_apart ?_ fun c hc d _ hb => ?_
    · refine List.isChain_cons.2 ⟨fun d hd _ => ?_, hr.blanks_apart⟩
      have hf := hr.first_visible
      rw [Option.mem_def.1 hd] at hf
      exact hf
    · simp [hw.2 c (List.mem_of_getLast? hc)] at hb

theorem isCollapsed_intercalate (h : ∀ word ∈ ws, IsVisible word) :
    IsCollapsed ([' '].intercalate ws) := by
  induction ws with
  | nil => exact ⟨rfl, rfl, fun c hc => (by cases hc), .nil⟩
  | cons word ws ih =>
    have hw := h word List.mem_cons_self
    have hrest := ih fun other ho => h other (List.mem_cons_of_mem _ ho)
    cases ws with
    | nil => simpa using hw.isCollapsed
    | cons next ws =>
      have hnext := (h next (by simp)).1
      have hn : [' '].intercalate (next :: ws) ≠ [] := by
        cases ws with
        | nil => simpa using hnext
        | cons third ws =>
          rw [List.intercalate_cons_cons]
          simp
      rw [List.intercalate_cons_cons, List.append_assoc, List.singleton_append]
      exact hrest.behind_word hw hn

theorem isCollapsed_collapse (text : List Char) : IsCollapsed (collapse text) :=
  isCollapsed_intercalate fun _ hw => isVisible_of_mem_wordsFrom (fun _ hc => by cases hc) hw

end Words

end AlAssistant.Text
