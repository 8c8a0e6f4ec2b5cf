import AlAssistant.Al.Jump
import AlAssistant.Proofs.Text.Lines

/-!
# Jumps in a row

When every jump starts where the one before it ended, the marked lines are visited one after the
other, and then the jumps begin again near the top of the text.
-/
namespace AlAssistant.Al

open AlAssistant.Text

/-- Jumps to one marker, each from the line where the one before it ended. -/
def jumps (text : String) (marker : Marker) (cursor : Nat) : Nat → List Jump
  | 0 => []
  | count + 1 =>
    let jump := Jump.next text cursor marker
    jump :: jumps text marker jump.caret.start.line count

section Next
variable {marker : Marker} {line : List Char}

theorem marks_iff :
    marker.marks line = true ↔ marker.text.toList <+: uppercase (trimStart line) :=
  occursIn_take_iff

/-- The next line is the first marked line below the cursor, or there is none. -/
theorem nextLine_cases (marker : Marker) (ls : List (List Char)) (cursor : Nat) :
    (cursor < marker.nextLine ls cursor ∧ ls[marker.nextLine ls cursor]?.any marker.marks = true ∧
      ∀ i, cursor < i → i < marker.nextLine ls cursor → ls[i]?.any marker.marks = false) ∨
    (marker.nextLine ls cursor = Marker.fallbackLine ∧
      ∀ i, cursor < i → ls[i]?.any marker.marks = false) := by
  have hget : ∀ i, cursor < i → ls[i]? = (ls.drop (cursor + 1))[i - (cursor + 1)]? := by
    intro i hi
    rw [List.getElem?_drop, show cursor + 1 + (i - (cursor + 1)) = i by omega]
  unfold Marker.nextLine
  cases hf : (ls.drop (cursor + 1)).findIdx? marker.marks with
  | none =>
    refine .inr ⟨rfl, fun i hi => (Option.any_eq_false _ _).2 fun line hl => ?_⟩
    rw [hget i hi] at hl
    exact List.findIdx?_eq_none_iff.1 hf line (List.mem_of_getElem? hl)
  | some distance =>
    obtain ⟨hlen, hm, hn⟩ := List.findIdx?_eq_some_iff_getElem.1 hf
    refine .inl ⟨by dsimp only; omega, ?_,
      fun i hi hlt => (Option.any_eq_false _ _).2 fun line hl => ?_⟩
    · dsimp only
      rw [← List.getElem?_drop, List.getElem?_eq_getElem hlen, Option.any_some, hm]
    · rw [hget i hi] at hl
      obtain ⟨hb, rfl⟩ := List.getElem?_eq_some_iff.1 hl
      exact Bool.eq_false_iff.2 (hn _ (by dsimp only at hlt; omega))

end Next

section Visits
variable {text : String} {marker : Marker} {cursor : Nat}

theorem line_next (text : String) (marker : Marker) (cursor : Nat) :
    (Jump.next text cursor marker).caret.start.line =
      min (marker.nextLine (lines text.toList) cursor) ((lines text.toList).length - 1) := rfl

theorem character_next (text : String) (marker : Marker) (cursor : Nat) :
    (Jump.next text cursor marker).caret.start.character =
      units ((lines text.toList)[(Jump.next text cursor marker).caret.start.line]?.getD []) := rfl

/-- The marked lines below the cursor are visited in order, and the jump after them goes to the
fallback line. -/
theorem exists_visits (text : String) (marker : Marker) (cursor : Nat) :
    ∃ marked : List Nat, marked.Pairwise (· < ·) ∧
      (∀ i, i ∈ marked ↔ cursor < i ∧ (lines text.toList)[i]?.any marker.marks = true) ∧
      (jumps text marker cursor (marked.length + 1)).map (·.caret.start.line) =
        marked ++ [min Marker.fallbackLine ((lines text.toList).length - 1)] := by
  -- on the lines left below the cursor, since every jump but the last goes down
  generalize hd : (lines text.toList).length - cursor = distance
  induction distance using Nat.strongRecOn generalizing cursor with
  | ind distance ih =>
    rcases nextLine_cases marker (lines text.toList) cursor with ⟨hlt, hm, hn⟩ | ⟨hf, hn⟩
    · have hline := line_next text marker cursor
      generalize marker.nextLine (lines text.toList) cursor = next at hlt hm hn hline
      obtain ⟨line, hl, -⟩ := (Option.any_eq_true _ _).1 hm
      obtain ⟨hlen, -⟩ := List.getElem?_eq_some_iff.1 hl
      rw [Nat.min_eq_left (by omega)] at hline
      obtain ⟨marked, hsort, hmem, hjumps⟩ := ih (_ - next) (by omega) next rfl
      refine ⟨next :: marked, List.pairwise_cons.2 ⟨fun i hi => ((hmem i).1 hi).1, hsort⟩,
        fun i => ?_, ?_⟩
      · rw [List.mem_cons, hmem]
        constructor
        · rintro (rfl | ⟨hi, hm⟩)
          · exact ⟨hlt, hm⟩
          · exact ⟨by omega, hm⟩
        · rintro ⟨hi, hm⟩
          rcases Nat.lt_trichotomy i next with hb | he | ha
          · rw [hn i hi hb] at hm
            cases hm
          · exact .inl he
          · exact .inr ⟨ha, hm⟩
      · rw [List.length_cons, jumps, List.map_cons, hline, hjumps, List.cons_append]
    · refine ⟨[], .nil, fun i => iff_of_false List.not_mem_nil ?_, ?_⟩
      · rintro ⟨hi, hm⟩
        rw [hn i hi] at hm
        cases hm
      · simp only [List.length_nil, jumps, List.map_cons, List.map_nil,
          List.nil_append, line_next, hf]

/-- A jump goes to the end of a line of the text, or to the start of an empty text, and shows the
lines around it that exist. -/
structure Jump.Lands (text : String) (jump : Jump) : Prop where
  empty : jump.caret.isEmpty = true
  place : (∃ line, (lines text.toList)[jump.caret.start.line]? = some line ∧
      jump.caret.start.character = units line) ∨ text = "" ∧ jump.caret.start = ⟨0, 0⟩
  reveal : jump.reveal = ⟨⟨jump.caret.start.line - revealMargin, 0⟩,
    ⟨min ((lines text.toList).length - 1) (jump.caret.start.line + revealMargin), 0⟩⟩

theorem lands_next (text : String) (marker : Marker) (cursor : Nat) :
    (Jump.next text cursor marker).Lands text where
  empty := by simp [Jump.next, Range.isEmpty, Range.caret]
  place := by
    by_cases hls : lines text.toList = []
    · refine .inr ⟨String.toList_eq_nil_iff.1 (lines_eq_nil_iff.1 hls), ?_⟩
      simp [Jump.next, Range.caret, hls, units]
    · have hpos := List.length_pos_iff.2 hls
      have hlt := line_next text marker cursor
      obtain ⟨line, hl⟩ : ∃ line,
          (lines text.toList)[(Jump.next text cursor marker).caret.start.line]? = some line :=
        ⟨_, List.getElem?_eq_getElem (by omega)⟩
      refine .inl ⟨line, hl, ?_⟩
      rw [character_next, hl, Option.getD_some]
  reveal := by rw [Nat.min_comm]; rfl

theorem lands_of_mem_jumps {count : Nat} {jump : Jump} (h : jump ∈ jumps text marker cursor count) :
    jump.Lands text := by
  induction count generalizing cursor with
  | zero => cases h
  | succ count ih =>
    rcases List.mem_cons.1 h with rfl | h
    · exact lands_next text marker cursor
    · exact ih h

/-- Jumps in a row visit the lines below the cursor whose text begins with the marker, whatever
indentation and case, in order and each once; the jump after them goes to the fallback line. Every
jump lands in the text. -/
theorem jumps_visit_marked_lines (text : String) (marker : Marker) (cursor : Nat) :
    (∃ marked : List Nat, marked.Pairwise (· < ·) ∧
      (∀ i, i ∈ marked ↔ cursor < i ∧ ∃ line, (lines text.toList)[i]? = some line ∧
        marker.text.toList <+: uppercase (trimStart line)) ∧
      (jumps text marker cursor (marked.length + 1)).map (·.caret.start.line) =
        marked ++ [min 1 ((lines text.toList).length - 1)]) ∧
    ∀ count, ∀ jump ∈ jumps text marker cursor count, jump.Lands text := by
  obtain ⟨marked, hsort, hmem, hjumps⟩ := exists_visits text marker cursor
  refine ⟨⟨marked, hsort, fun i => ?_, hjumps⟩, fun count jump => lands_of_mem_jumps⟩
  rw [hmem, Option.any_eq_true]
  simp only [marks_iff]

end Visits

/-- Behind the last marked line the jumps begin again at the fallback line. -/
example : (jumps "keys\n  Keyspace\nkey(a)\n\tkeys" .keys 0 3).map (·.caret.start) =
    [⟨1, 10⟩, ⟨3, 5⟩, ⟨1, 10⟩] := by
  decide +kernel

end AlAssistant.Al
