import AlAssistant.Document.Basic
import AlAssistant.Proofs.Text.Columns

/-!
# Whole lines

Where every line is ended by its line feed, the lines of a text are those of its parts, one after
the other. A position at the start of a line divides a text in this way; it exists for every line
and, behind a final line feed, for the empty rest of the text.
-/
namespace AlAssistant.Text

/-- Nothing, or lines that are all ended by a line feed. -/
def IsWhole (text : List Char) : Prop := text = [] ∨ text.getLast? = some '\n'

instance (text : List Char) : Decidable (IsWhole text) :=
  inferInstanceAs (Decidable (_ ∨ _))

section Whole
variable {a b text : List Char}

theorem isWhole_nil : IsWhole [] := .inl rfl

theorem isWhole_feed (a : List Char) : IsWhole (a ++ ['\n']) := .inr (by simp)

theorem IsWhole.exists_feed (h : IsWhole text) (hn : text ≠ []) : ∃ body, text = body ++ ['\n'] :=
  List.getLast?_eq_some_iff.1 (h.resolve_left hn)

theorem IsWhole.append (ha : IsWhole a) (hb : IsWhole b) : IsWhole (a ++ b) := by
  rcases hb with rfl | hb
  · rwa [List.append_nil]
  · exact .inr (by rw [List.getLast?_append, hb, Option.some_or])

theorem IsWhole.insert (h : IsWhole (a ++ b)) (ht : IsWhole text) : IsWhole (a ++ text ++ b) := by
  by_cases hb : b = []
  · subst hb
    rw [List.append_nil] at h ⊢
    exact h.append ht
  · have hl : ∀ front, (front ++ b).getLast? = some (b.getLast hb) := fun front => by
      rw [List.getLast?_append, List.getLast?_eq_some_getLast hb, Option.some_or]
    have hn := h.resolve_left (List.append_ne_nil_of_right_ne_nil a hb)
    exact .inr (by rw [hl, ← hl a, hn])

/-- A text is whole lines and a rest without a line feed. -/
theorem exists_rest (text : List Char) :
    ∃ above rest, text = above ++ rest ∧ IsWhole above ∧ '\n' ∉ rest := by
  induction text with
  | nil => exact ⟨[], [], rfl, isWhole_nil, List.not_mem_nil⟩
  | cons c text ih =>
    obtain ⟨above, rest, rfl, hw, hr⟩ := ih
    rcases hw with rfl | hw
    · by_cases hc : c = '\n'
      · exact ⟨[c], rest, rfl, .inr (by simp [hc]), hr⟩
      · exact ⟨[], c :: rest, rfl, isWhole_nil, by simp [Ne.symm hc, hr]⟩
    · exact ⟨c :: above, rest, rfl, .inr (by simp [List.getLast?_cons, hw]), hr⟩

end Whole

section Lines
variable {a b text line : List Char}

theorem linesOfParts_cons {part : List Char} {parts : List (List Char)} (h : parts ≠ []) :
    linesOfParts (part :: parts) = dropCarriageReturn part :: linesOfParts parts := by
  obtain ⟨next, parts, rfl⟩ := List.exists_cons_of_ne_nil h
  rfl

theorem linesOfParts_append {parts more : List (List Char)} (h : more ≠ []) :
    linesOfParts (parts ++ more) = parts.map dropCarriageReturn ++ linesOfParts more := by
  induction parts with
  | nil => rfl
  | cons part parts ih =>
    rw [List.cons_append, linesOfParts_cons (by simp [h]), ih]
    rfl

theorem lines_feed_append (a b : List Char) :
    lines (a ++ '\n' :: b) = (splitOnChar '\n' a).map dropCarriageReturn ++ lines b := by
  unfold lines
  rw [splitOnChar_append, linesOfParts_append (splitOnChar_ne_nil '\n' b)]

/-- The lines behind whole lines are those of the text behind them. -/
theorem lines_append (h : IsWhole a) (b : List Char) : lines (a ++ b) = lines a ++ lines b := by
  by_cases hn : a = []
  · subst hn
    rfl
  · obtain ⟨a, rfl⟩ := h.exists_feed hn
    rw [List.append_assoc, List.singleton_append, lines_feed_append, lines_feed_append]
    simp [lines, splitOnChar, linesOfParts]

theorem lines_of_notMem (h : '\n' ∉ line) (hn : line ≠ []) : lines line = [line] := by
  unfold lines
  rw [splitOnChar_of_notMem h, linesOfParts, if_neg (by simpa using hn)]

theorem separator_notMem_part {separator : Char} {part : List Char}
    (h : part ∈ splitOnChar separator text) : separator ∉ part := by
  induction text generalizing part with
  | nil =>
    obtain rfl := List.mem_singleton.1 h
    exact List.not_mem_nil
  | cons c text ih =>
    obtain ⟨first, parts, hs⟩ := exists_splitOnChar separator text
    rw [hs] at ih
    rw [splitOnChar, hs] at h
    split at h
    · rcases List.mem_cons.1 h with rfl | h
      · exact List.not_mem_nil
      · exact ih h
    · next hc =>
      rcases List.mem_cons.1 h with rfl | h
      · simp [Ne.symm hc, ih List.mem_cons_self]
      · exact ih (List.mem_cons_of_mem _ h)

theorem subset_of_mem_linesOfParts {parts : List (List Char)} (h : line ∈ linesOfParts parts) :
    ∃ part ∈ parts, line ⊆ part := by
  induction parts with
  | nil => cases h
  | cons part parts ih =>
    by_cases hp : parts = []
    · subst hp
      rw [linesOfParts] at h
      split at h
      · cases h
      · obtain rfl := List.mem_singleton.1 h
        exact ⟨line, List.mem_singleton_self line, List.Subset.refl line⟩
    · rw [linesOfParts_cons hp, List.mem_cons] at h
      rcases h with rfl | h
      · refine ⟨part, List.mem_cons_self, ?_⟩
        unfold dropCarriageReturn
        split
        · exact List.dropLast_subset part
        · exact List.Subset.refl part
      · obtain ⟨other, ho, hl⟩ := ih h
        exact ⟨other, List.mem_cons_of_mem _ ho, hl⟩

theorem feed_notMem_of_mem_lines (h : line ∈ lines text) : '\n' ∉ line := by
  obtain ⟨part, hp, hl⟩ := subset_of_mem_linesOfParts h
  exact fun hm => separator_notMem_part hp (hl hm)

theorem lineEnding_eq (text : List Char) :
    lineEnding text = ['\n'] ∨ lineEnding text = ['\r', '\n'] := by
  unfold lineEnding
  split
  · exact .inr rfl
  · exact .inl rfl

theorem isWhole_append_lineEnding (a text : List Char) : IsWhole (a ++ lineEnding text) := by
  rcases lineEnding_eq text with he | he <;> rw [he] <;> exact .inr (by simp)

theorem lines_line_lineEnding (h : '\n' ∉ line) (hr : line.getLast? ≠ some '\r')
    (text : List Char) : lines (line ++ lineEnding text) = [line] := by
  have hone : ∀ part, '\n' ∉ part → lines (part ++ ['\n']) = [dropCarriageReturn part] := by
    intro part hp
    rw [lines_feed_append, splitOnChar_of_notMem hp]
    rfl
  rcases lineEnding_eq text with he | he
  · rw [he, hone line h, dropCarriageReturn, if_neg hr]
  · have hs : line ++ ['\r', '\n'] = line ++ ['\r'] ++ ['\n'] := by simp
    rw [he, hs, hone _ (by simp [h]), dropCarriageReturn, if_pos (by simp), List.dropLast_concat]

/-- A last line that ends with a visible character stays the same when it is ended. -/
theorem lines_append_lineEnding {c : Char} (hc : c ≠ '\n') (hr : c ≠ '\r') (a text : List Char) :
    lines (a ++ [c] ++ lineEnding text) = lines (a ++ [c]) := by
  obtain ⟨above, rest, rfl, hw, hn⟩ := exists_rest a
  have hl : '\n' ∉ rest ++ [c] := by simp [hn, Ne.symm hc]
  rw [List.append_assoc above, List.append_assoc above, lines_append hw, lines_append hw,
    lines_line_lineEnding hl (by simpa using hr), lines_of_notMem hl (by simp)]

end Lines

section Positions
variable {text : List Char} {line : Nat}

/-- A line exists if it has a line or the empty rest behind a final line feed. -/
theorem length_splitOnChar_feed (text : List Char) :
    (splitOnChar '\n' text).length = (lines text).length + if IsWhole text then 1 else 0 := by
  obtain ⟨above, rest, rfl, hw, hr⟩ := exists_rest text
  have hparts : (splitOnChar '\n' (above ++ rest)).length = (lines above).length + 1 := by
    by_cases hn : above = []
    · subst hn
      rw [List.nil_append, splitOnChar_of_notMem hr]
      rfl
    · obtain ⟨body, rfl⟩ := hw.exists_feed hn
      rw [List.append_assoc, List.singleton_append, splitOnChar_append, splitOnChar_of_notMem hr,
        lines_feed_append]
      simp [lines, splitOnChar, linesOfParts]
  rw [hparts, lines_append hw, List.length_append]
  by_cases hn : rest = []
  · subst hn
    rw [List.append_nil, if_pos hw]
    rfl
  · have hl : ¬ IsWhole (above ++ rest) := by
      rintro (he | he)
      · exact hn (List.append_eq_nil_iff.1 he).2
      · rw [List.getLast?_append, List.getLast?_eq_some_getLast hn, Option.some_or] at he
        exact hr (Option.some.inj he ▸ List.getLast_mem hn)
    rw [if_neg hl, lines_of_notMem hr hn]
    rfl

theorem positionIndex_start (text : List Char) : positionIndex text ⟨0, 0⟩ = 0 := by
  obtain ⟨part, parts, hs⟩ := exists_splitOnChar '\n' text
  simp [positionIndex, hs]

theorem positionIndex_feed {part : List Char} (h : '\n' ∉ part) (rest : List Char)
    (line column : Nat) :
    positionIndex (part ++ '\n' :: rest) ⟨line + 1, column⟩ =
      part.length + 1 + positionIndex rest ⟨line, column⟩ := by
  unfold positionIndex
  simp only [splitOnChar_part h, List.getElem?_cons_succ, List.take_succ_cons, List.foldr_cons]
  cases (splitOnChar '\n' rest)[line]? with
  | none => simp only [List.length_append, List.length_cons]; omega
  | some found => dsimp only; omega

theorem positionIndex_of_le (h : (splitOnChar '\n' text).length ≤ line) (column : Nat) :
    positionIndex text ⟨line, column⟩ = text.length := by
  simp [positionIndex, List.getElem?_eq_none h]

theorem lines_eq_nil_iff : lines text = [] ↔ text = [] := by
  refine ⟨fun h => ?_, fun h => h ▸ rfl⟩
  have hcount := length_splitOnChar_feed text
  have hpos := List.length_pos_iff.2 (splitOnChar_ne_nil '\n' text)
  have hw : IsWhole text := by
    refine Classical.byContradiction fun hn => ?_
    rw [h, if_neg hn, List.length_nil] at hcount
    omega
  refine Classical.byContradiction fun hn => ?_
  obtain ⟨body, rfl⟩ := hw.exists_feed hn
  rw [lines_feed_append] at h
  simp [splitOnChar_ne_nil] at h

/-- The start of a line that exists divides the text behind whole lines. -/
theorem exists_cut (h : line < (splitOnChar '\n' text).length) :
    ∃ above below, text = above ++ below ∧ IsWhole above ∧ (lines above).length = line ∧
      positionIndex text ⟨line, 0⟩ = above.length := by
  induction line generalizing text with
  | zero => exact ⟨[], text, rfl, isWhole_nil, rfl, positionIndex_start text⟩
  | succ line ih =>
    have hm : '\n' ∈ text := by
      refine Classical.byContradiction fun hn => ?_
      rw [splitOnChar_of_notMem hn] at h
      simp at h
    obtain ⟨part, rest, rfl, hp⟩ := List.eq_append_cons_of_mem hm
    have hl : line < (splitOnChar '\n' rest).length := by
      rw [splitOnChar_part hp] at h
      simpa using h
    obtain ⟨above, below, rfl, hw, hc, hi⟩ := ih hl
    refine ⟨part ++ '\n' :: above, below, by simp, ?_, ?_, ?_⟩
    · have hf := (isWhole_feed part).append hw
      rwa [List.append_assoc] at hf
    · rw [lines_feed_append, splitOnChar_of_notMem hp]
      simp [hc]
    · rw [positionIndex_feed hp, hi]
      simp only [List.length_append, List.length_cons]
      omega

end Positions

end AlAssistant.Text
