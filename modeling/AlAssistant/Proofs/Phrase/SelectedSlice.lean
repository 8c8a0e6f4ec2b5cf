import AlAssistant.Phrase.Choice
import AlAssistant.Proofs.Text.Columns

/-!
# Selections as slices

The lines of a document, joined by single line feeds, are one text, and a position is an offset in
it. A selection takes that text from the offset of its start to the offset of its end. Selections
that follow each other therefore add up to the selection of the whole.
-/
namespace AlAssistant.Phrase

open AlAssistant.Text

/-- The byte offset of a position in the joined lines. The lines above stand before it with their
line feeds; behind the last line it is the end. -/
def joinedOffset (text : List Char) (position : Position) : Nat :=
  match (lines text)[position.line]? with
  | some line =>
    byteLength (((lines text).take position.line).flatMap (· ++ ['\n'])) +
      byteOffset line position.character
  | none => byteLength (joinLines (lines text))

/-- The part of a text from one byte offset to another, both of them between characters. -/
def IsSlice (text : List Char) (first last : Nat) (part : List Char) : Prop :=
  ∃ before behind, text = before ++ (part ++ behind) ∧
    byteLength before = first ∧ byteLength (before ++ part) = last

/-- What stands before a position in joined lines; all of them when its line does not exist. -/
def textBefore (ls : List (List Char)) (position : Position) : List Char :=
  match ls[position.line]? with
  | some line =>
    (ls.take position.line).flatMap (· ++ ['\n']) ++ line.take (charIndex line position.character)
  | none => joinLines ls

theorem byteLength_textBefore (text : List Char) (position : Position) :
    byteLength (textBefore (lines text) position) = joinedOffset text position := by
  unfold textBefore joinedOffset
  cases (lines text)[position.line]? with
  | none => rfl
  | some line => exact byteLength_append _ _

section Before
variable {line : List Char} {ls : List (List Char)} {column n : Nat}

@[simp] theorem joinLines_nil : joinLines [] = [] := by
  simp [joinLines]

@[simp] theorem joinLines_singleton (line : List Char) : joinLines [line] = line := by
  simp [joinLines]

theorem joinLines_cons (h : ls ≠ []) : joinLines (line :: ls) = line ++ '\n' :: joinLines ls := by
  obtain ⟨next, ls, rfl⟩ := List.exists_cons_of_ne_nil h
  rw [joinLines, joinLines, List.intercalate_cons_cons, List.append_assoc, List.singleton_append]

@[simp] theorem textBefore_nil (position : Position) : textBefore [] position = [] := rfl

@[simp] theorem textBefore_cons_zero :
    textBefore (line :: ls) ⟨0, column⟩ = line.take (charIndex line column) := rfl

theorem textBefore_zero (ls : List (List Char)) : textBefore ls ⟨0, 0⟩ = [] := by
  cases ls <;> simp

@[simp] theorem textBefore_singleton_succ : textBefore [line] ⟨n + 1, column⟩ = line := by
  simp [textBefore]

theorem textBefore_cons_succ (h : ls ≠ []) :
    textBefore (line :: ls) ⟨n + 1, column⟩ = line ++ '\n' :: textBefore ls ⟨n, column⟩ := by
  unfold textBefore
  simp only [List.getElem?_cons_succ, List.take_succ_cons, List.flatMap_cons]
  cases ls[n]? with
  | none => exact joinLines_cons h
  | some found => simp

theorem textBefore_isPrefix (ls : List (List Char)) (position : Position) :
    textBefore ls position <+: joinLines ls := by
  obtain ⟨n, column⟩ := position
  induction ls generalizing n with
  | nil => exact List.nil_prefix
  | cons line ls ih =>
    by_cases hn : ls = []
    · subst hn
      rw [joinLines_singleton]
      cases n with
      | zero => exact List.take_prefix _ line
      | succ n => simp
    · rw [joinLines_cons hn]
      cases n with
      | zero => exact (List.take_prefix _ line).trans (List.prefix_append line _)
      | succ n =>
        rw [textBefore_cons_succ hn, List.prefix_append_right_inj, List.cons_prefix_cons]
        exact ⟨rfl, ih n⟩

end Before

/-- What a range takes of each of some lines. -/
def coveredParts (ls : List (List Char)) (range : Range) : List (List Char) :=
  (((ls.take (range.stop.line + 1)).drop range.start.line).zipIdx range.start.line).map
    fun (line, index) => coveredPart range line index

theorem selectedText_eq (text : List Char) (range : Range) :
    selectedText text range = joinLines (coveredParts (lines text) range) := rfl

section Covered
variable {line : List Char} {ls : List (List Char)} {first last m n : Nat}

@[simp] theorem coveredParts_nil (range : Range) : coveredParts [] range = [] := by
  simp [coveredParts]

theorem coveredParts_cons_zero_zero :
    coveredParts (line :: ls) ⟨⟨0, first⟩, ⟨0, last⟩⟩ = [slice line first last] := by
  simp [coveredParts, coveredPart, slice]

/-- Below its first line a range covers what one from the top of the document covers. -/
theorem coveredParts_cons_zero_succ :
    coveredParts (line :: ls) ⟨⟨0, first⟩, ⟨n + 1, last⟩⟩ =
      line.drop (charIndex line first) :: coveredParts ls ⟨⟨0, 0⟩, ⟨n, last⟩⟩ := by
  simp only [coveredParts, List.take_succ_cons, List.drop_zero, List.zipIdx_cons, List.zipIdx_succ,
    List.map_cons, List.map_map]
  congr 1
  refine List.map_congr_left fun found _ => ?_
  simp [coveredPart]

theorem coveredParts_cons_succ_succ :
    coveredParts (line :: ls) ⟨⟨m + 1, first⟩, ⟨n + 1, last⟩⟩ =
      coveredParts ls ⟨⟨m, first⟩, ⟨n, last⟩⟩ := by
  simp only [coveredParts, List.take_succ_cons, List.drop_succ_cons, List.zipIdx_succ,
    List.map_map]
  refine List.map_congr_left fun found _ => ?_
  simp [coveredPart]

theorem coveredParts_ne_nil (h : ls ≠ []) :
    coveredParts ls ⟨⟨0, first⟩, ⟨n, last⟩⟩ ≠ [] := by
  obtain ⟨line, ls, rfl⟩ := List.exists_cons_of_ne_nil h
  simp [coveredParts]

theorem coveredParts_on_line (ls : List (List Char)) (m first last : Nat) :
    coveredParts ls ⟨⟨m, first⟩, ⟨m, last⟩⟩ =
      (ls[m]?.map fun line => slice line first last).toList := by
  induction ls generalizing m with
  | nil => simp
  | cons line ls ih =>
    cases m with
    | zero => exact coveredParts_cons_zero_zero
    | succ m => rw [coveredParts_cons_succ_succ, ih, List.getElem?_cons_succ]

/-- A range covers no line if its first line is behind its last. -/
theorem coveredParts_of_lt (h : n < m) : coveredParts ls ⟨⟨m, first⟩, ⟨n, last⟩⟩ = [] := by
  have hd : (ls.take (n + 1)).drop m = [] :=
    List.drop_eq_nil_of_le (Nat.le_trans (List.length_take_le _ _) h)
  simp [coveredParts, hd]

end Covered

/-- What a range covers leads from its start to its end. -/
theorem textBefore_append_covered (ls : List (List Char)) (range : Range)
    (h : range.start.le range.stop = true) :
    textBefore ls range.start ++ joinLines (coveredParts ls range) =
      textBefore ls range.stop := by
  obtain ⟨⟨m, first⟩, ⟨n, last⟩⟩ := range
  simp only [Position.le, Bool.or_eq_true, Bool.and_eq_true, decide_eq_true_eq, beq_iff_eq] at h
  induction ls generalizing m n first with
  | nil => simp
  | cons line ls ih =>
    cases m with
    | zero =>
      cases n with
      | zero =>
        have hle : first ≤ last := by omega
        rw [coveredParts_cons_zero_zero, joinLines_singleton, textBefore_cons_zero,
          textBefore_cons_zero, take_append_slice (charIndex_mono line hle)]
      | succ n =>
        rw [coveredParts_cons_zero_succ, textBefore_cons_zero]
        by_cases hn : ls = []
        · subst hn
          rw [coveredParts_nil, joinLines_singleton, List.take_append_drop,
            textBefore_singleton_succ]
        · have hrest := ih 0 0 n (by omega)
          rw [textBefore_zero, List.nil_append] at hrest
          rw [joinLines_cons (coveredParts_ne_nil hn), ← List.append_assoc, List.take_append_drop,
            textBefore_cons_succ hn, hrest]
    | succ m =>
      cases n with
      | zero => omega
      | succ n =>
        rw [coveredParts_cons_succ_succ]
        by_cases hn : ls = []
        · subst hn
          simp
        · rw [textBefore_cons_succ hn, textBefore_cons_succ hn, List.append_assoc,
            List.cons_append, ih m first n (by omega)]

section Selecting
variable {text : List Char}

theorem isSlice_selectedText {range : Range} (h : range.start.le range.stop = true) :
    IsSlice (joinLines (lines text)) (joinedOffset text range.start) (joinedOffset text range.stop)
      (selectedText text range) := by
  obtain ⟨behind, hb⟩ := textBefore_isPrefix (lines text) range.stop
  have hs := textBefore_append_covered (lines text) range h
  refine ⟨textBefore (lines text) range.start, behind, ?_, byteLength_textBefore _ _, ?_⟩
  · rw [selectedText_eq, ← List.append_assoc, hs, hb]
  · rw [selectedText_eq, hs, byteLength_textBefore]

theorem selectedText_eq_nil {range : Range} (h : range.start.le range.stop = false) :
    selectedText text range = [] := by
  obtain ⟨⟨m, first⟩, ⟨n, last⟩⟩ := range
  simp only [Position.le, Bool.or_eq_false_iff, Bool.and_eq_false_iff, decide_eq_false_iff_not,
    beq_eq_false_iff_ne] at h
  rw [selectedText_eq]
  rcases Nat.lt_or_ge n m with hl | hl
  · rw [coveredParts_of_lt hl, joinLines_nil]
  · obtain rfl : m = n := by omega
    have hempty : ∀ line, slice line first last = [] := fun line =>
      slice_eq_nil (charIndex_mono line (by omega))
    rw [coveredParts_on_line]
    cases (lines text)[m]? with
    | none => simp
    | some line => simp [hempty]

end Selecting

/-- A selection in reading order is the slice of the joined lines from its start to its end, and any
other is empty. Two selections of which one ends where the other starts are together the selection
from the start of the one to the end of the other. -/
theorem selectedText_is_slice (text : List Char) :
    (∀ range, range.start.le range.stop = true →
      IsSlice (joinLines (lines text)) (joinedOffset text range.start)
        (joinedOffset text range.stop) (selectedText text range)) ∧
    (∀ range, range.start.le range.stop = false → selectedText text range = []) ∧
    ∀ a b c, a.le b = true → b.le c = true →
      selectedText text ⟨a, b⟩ ++ selectedText text ⟨b, c⟩ = selectedText text ⟨a, c⟩ := by
  refine ⟨fun range h => isSlice_selectedText h, fun range h => selectedText_eq_nil h,
    fun a b c hab hbc => ?_⟩
  have hfirst := textBefore_append_covered (lines text) ⟨a, b⟩ hab
  have hsecond := textBefore_append_covered (lines text) ⟨b, c⟩ hbc
  have hwhole := textBefore_append_covered (lines text) ⟨a, c⟩ (Position.le_trans hab hbc)
  simp only [selectedText_eq]
  rw [← List.append_right_inj (textBefore (lines text) a), ← List.append_assoc]
  calc
    _ = textBefore (lines text) b ++ joinLines (coveredParts (lines text) ⟨b, c⟩) := by rw [hfirst]
    _ = textBefore (lines text) c := hsecond
    _ = _ := hwhole.symm

/-- In joined lines with letters of two bytes, the third column of the first line is the fourth
byte. -/
theorem selectedText_is_slice_two_lines :
    let text := "größe\r\nzwei".toList
    Position.le ⟨0, 3⟩ ⟨1, 2⟩ = true ∧ Position.le ⟨1, 2⟩ ⟨7, 0⟩ = true ∧
      IsSlice "größe\nzwei".toList 4 10 (selectedText text ⟨⟨0, 3⟩, ⟨1, 2⟩⟩) ∧
      selectedText text ⟨⟨0, 3⟩, ⟨1, 2⟩⟩ ++ selectedText text ⟨⟨1, 2⟩, ⟨7, 0⟩⟩ =
        selectedText text ⟨⟨0, 3⟩, ⟨7, 0⟩⟩ ∧
      selectedText text ⟨⟨1, 2⟩, ⟨0, 3⟩⟩ = [] := by
  intro text
  have hfirst : Position.le ⟨0, 3⟩ ⟨1, 2⟩ = true := by decide
  have hsecond : Position.le ⟨1, 2⟩ ⟨7, 0⟩ = true := by decide
  obtain ⟨hslice, hempty, hjoin⟩ := selectedText_is_slice text
  have hl : joinLines (lines text) = "größe\nzwei".toList := by decide
  have hs := hslice ⟨⟨0, 3⟩, ⟨1, 2⟩⟩ hfirst
  rw [hl] at hs
  exact ⟨hfirst, hsecond, hs, hjoin _ _ _ hfirst hsecond, hempty _ (by decide)⟩

end AlAssistant.Phrase
