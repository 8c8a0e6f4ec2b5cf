import AlAssistant.Proofs.Portal.WrittenTerm

/-!
# Written tables are read back

What is written for a term has no `<` in it, so each cell ends at its own end tag and the scan goes
on behind it. The cells of a table are those of its rows, and each direction reads one cell of a
row, by its class. What the other cell holds does not matter to it.
-/
namespace AlAssistant.Portal

open AlAssistant.Text

section Scanning
variable {className content : List Char}

theorem classHere?_written (h : ∀ c ∈ className, isQuote c = false) (rest : List Char) :
    classHere? ("class=\"".toList ++ className ++ '"' :: rest) = some (className, rest) := by
  have hd : dropMatch? (nameTests "class") ("class=\"".toList ++ className ++ '"' :: rest) =
      some ('=' :: '"' :: (className ++ '"' :: rest)) := by
    simp [dropMatch?, nameTests, sameLetter]
  have hn : ∀ c ∈ className, (!isQuote c) = true := by simpa using h
  have hq : isQuote '"' = true := rfl
  unfold classHere?
  rw [hd]
  simp [trimStart, show isBlank '=' = false by decide, show isBlank '"' = false by decide,
    List.takeWhile_append_of_pos hn, List.dropWhile_append_of_pos hn, hq]

theorem cellEndHere?_of_ne {c : Char} (h : c ≠ '<') (text : List Char) :
    cellEndHere? (c :: text) = none := by
  simp [cellEndHere?, dropMatch?, h]

theorem cellEndHere?_written (rest : List Char) :
    cellEndHere? ('<' :: '/' :: 't' :: 'd' :: '>' :: rest) = some rest := by
  simp [cellEndHere?, dropMatch?, nameTests, sameLetter, trimStart,
    show isBlank '>' = false by decide]

/-- A cell whose content has no angle bracket ends at the first end tag. -/
theorem cutAtCellEnd?_written (h : '<' ∉ content) (rest : List Char) :
    cutAtCellEnd? (content ++ ("</td>".toList ++ rest)) = some (content, rest) := by
  induction content with
  | nil =>
    change cutAtCellEnd? ('<' :: '/' :: 't' :: 'd' :: '>' :: rest) = some ([], rest)
    rw [cutAtCellEnd?, cellEndHere?_written]
  | cons c content ih =>
    rw [List.mem_cons, not_or] at h
    rw [List.cons_append, cutAtCellEnd?, cellEndHere?_of_ne (Ne.symm h.1), ih h.2]
    rfl

theorem cellFromClass?_written (hq : ∀ c ∈ className, isQuote c = false) (hc : '<' ∉ content)
    (rest : List Char) :
    cellFromClass? ("class=\"".toList ++ className ++
      '"' :: '>' :: (content ++ ("</td>".toList ++ rest))) = some (⟨className, content⟩, rest) := by
  unfold cellFromClass?
  rw [classHere?_written hq]
  dsimp only [Option.bind_eq_bind, Option.bind_some]
  rw [show cutAt? ['>'] ('>' :: (content ++ ("</td>".toList ++ rest))) = some ([], _) from
    cutAt?_singleton List.not_mem_nil _]
  dsimp only [Option.bind_some]
  rw [cutAtCellEnd?_written hc]
  rfl

/-- The class attribute is looked for behind the blank that follows the name of the tag. -/
theorem cellInTag?_blank {text : List Char} {found : Cell × List Char}
    (h : cellFromClass? ('c' :: text) = some found) :
    cellInTag? 'd' (' ' :: 'c' :: text) = some found := by
  have hd : isWordChar 'd' = true := by decide
  have hb : ¬ isWordChar ' ' = true := by decide
  rw [cellInTag?, if_pos hd]
  dsimp only
  rw [if_neg (by decide), cellInTag?, if_neg hb, h]

theorem cellHere?_written (hq : ∀ c ∈ className, isQuote c = false) (hc : '<' ∉ content)
    (rest : List Char) :
    cellHere? ("<td class=\"".toList ++ className ++
      '"' :: '>' :: (content ++ ("</td>".toList ++ rest))) = some (⟨className, content⟩, rest) := by
  have hf := cellFromClass?_written hq hc rest
  generalize '"' :: '>' :: (content ++ ("</td>".toList ++ rest)) = behind at hf ⊢
  have hd : dropMatch? ((· == '<') :: nameTests "td")
      ("<td class=\"".toList ++ className ++ behind) =
      some (' ' :: 'c' :: ("lass=\"".toList ++ className ++ behind)) := by
    simp [dropMatch?, nameTests, sameLetter]
  have he : endsWord (' ' :: 'c' :: ("lass=\"".toList ++ className ++ behind)) = true := by
    simp [endsWord, show isWordChar ' ' = false by decide]
  unfold cellHere?
  rw [hd]
  dsimp only [Option.bind_eq_bind, Option.bind_some]
  rw [if_pos he]
  exact cellInTag?_blank hf

end Scanning

section Tables
variable {text : List Char}

theorem cells_of_none (h : findCell? text = none) : cells text = [] := by
  rw [cells]
  split
  · rfl
  · next he => rw [h] at he; cases he

theorem cells_of_some {cell : Cell} {rest : List Char} (h : findCell? text = some (cell, rest)) :
    cells text = cell :: cells rest := by
  rw [cells]
  split
  · next he => rw [h] at he; cases he
  · next he => rw [h] at he; cases he; rfl

theorem cells_of_cellHere? {cell : Cell} {rest : List Char}
    (h : cellHere? text = some (cell, rest)) :
    cells text = cell :: cells rest := by
  apply cells_of_some
  cases text with
  | nil => cases h
  | cons c text => rw [findCell?, h]

/-- The scan passes over a character at which no cell begins. -/
theorem cells_cons {c : Char} (h : cellHere? (c :: text) = none) :
    cells (c :: text) = cells text := by
  have hf : findCell? (c :: text) = findCell? text := by rw [findCell?, h]
  cases hn : findCell? text with
  | none => rw [cells_of_none hn, cells_of_none (hf.trans hn)]
  | some found => rw [cells_of_some hn, cells_of_some (hf.trans hn)]

theorem cells_append {a : List Char} (h : '<' ∉ a) (text : List Char) :
    cells (a ++ text) = cells text := by
  induction a with
  | nil => rfl
  | cons c a ih =>
    rw [List.mem_cons, not_or] at h
    have hc : cellHere? (c :: (a ++ text)) = none := by
      simp [cellHere?, dropMatch?, Ne.symm h.1]
    rw [List.cons_append, cells_cons hc, ih h.2]

/-- The scan passes over a tag with another name. -/
theorem cells_tag (a b : Char) (name : List Char)
    (hn : (sameLetter 't' a && sameLetter 'd' b) = false) (h : '<' ∉ a :: b :: name)
    (text : List Char) : cells ('<' :: a :: b :: (name ++ text)) = cells text := by
  have hc : cellHere? ('<' :: a :: b :: (name ++ text)) = none := by
    have hd : dropMatch? ((· == '<') :: nameTests "td")
        ('<' :: a :: b :: (name ++ text)) = none := by
      cases ht : sameLetter 't' a with
      | false => simp [dropMatch?, nameTests, ht]
      | true =>
        rw [ht, Bool.true_and] at hn
        simp [dropMatch?, nameTests, ht, hn]
    unfold cellHere?
    rw [hd]
    rfl
  exact (cells_cons hc).trans (cells_append h text)

end Tables

namespace TermRow
variable {row : TermRow} {rows : List TermRow}

/-- Both terms of the row are written as they may be. -/
def IsSound (row : TermRow) : Prop := row.source.IsSound ∧ row.target.IsSound

instance (row : TermRow) : Decidable row.IsSound := inferInstanceAs (Decidable (_ ∧ _))

theorem IsSound.side (h : row.IsSound) (direction : Direction) : (row.side direction).IsSound := by
  cases direction with
  | forward => exact h.2
  | reverse => exact h.1

/-- The cell that holds one side of the row. -/
def cellOf (row : TermRow) (direction : Direction) : Cell :=
  ⟨direction.cellClass.toList, (row.side direction).flatMap WrittenChar.render⟩

theorem cells_cell (h : row.IsSound) (direction : Direction) (text : List Char) :
    cells (cell direction.cellClass (row.side direction) ++ text) =
      row.cellOf direction :: cells text := by
  have hq : ∀ c ∈ direction.cellClass.toList, isQuote c = false := by
    cases direction with
    | forward => simp [Direction.cellClass, isQuote]
    | reverse => simp [Direction.cellClass, isQuote]
  have hcell : cell direction.cellClass (row.side direction) ++ text =
      "<td class=\"".toList ++ direction.cellClass.toList ++ '"' :: '>' ::
        ((row.side direction).flatMap WrittenChar.render ++ ("</td>".toList ++ text)) := by
    unfold cell
    rw [show "\">".toList = ['"', '>'] from rfl]
    simp only [List.append_assoc, List.cons_append, List.nil_append]
  rw [hcell]
  exact cells_of_cellHere? (cellHere?_written hq (h.side direction).lt text)

theorem cells_render (h : row.IsSound) (text : List Char) :
    cells (row.render ++ text) = row.cellOf .reverse :: row.cellOf .forward :: cells text := by
  have hs := cells_cell h .reverse (cell (Direction.cellClass .forward) row.target ++
    ("</tr>".toList ++ text))
  have ht := cells_cell h .forward ("</tr>".toList ++ text)
  have hopen (text : List Char) : cells ("<tr>".toList ++ text) = cells text := by
    simpa using cells_tag 't' 'r' ['>'] (by decide) (by decide) text
  have hclose : cells ("</tr>".toList ++ text) = cells text := by
    simpa using cells_tag '/' 't' ['r', '>'] (by decide) (by decide) text
  unfold render
  simp only [List.append_assoc]
  rw [hopen, ← hclose, ← ht]
  exact hs

theorem cells_flatMap_render (h : ∀ row ∈ rows, row.IsSound) (text : List Char) :
    cells (rows.flatMap render ++ text) =
      rows.flatMap (fun row => [row.cellOf .reverse, row.cellOf .forward]) ++ cells text := by
  induction rows with
  | nil => rfl
  | cons row rows ih =>
    obtain ⟨hrow, hrows⟩ := List.forall_mem_cons.1 h
    rw [List.flatMap_cons, List.append_assoc, cells_render hrow, ih hrows]
    rfl

theorem hasClass_cellOf (row : TermRow) (side direction : Direction) :
    (row.cellOf side).hasClass direction.cellClass = decide (side = direction) := by
  have hw : (words side.cellClass.toList).contains direction.cellClass.toList =
      decide (side = direction) := by
    cases side <;> cases direction <;> decide
  exact hw

/-- Each direction sees one cell of every row. -/
theorem filter_cells (direction : Direction) (rows : List TermRow) :
    (rows.flatMap fun row => [row.cellOf .reverse, row.cellOf .forward]).filter
      (·.hasClass direction.cellClass) = rows.map (·.cellOf direction) := by
  induction rows with
  | nil => rfl
  | cons row rows ih =>
    rw [List.flatMap_cons, List.filter_append, ih]
    cases direction <;> simp [hasClass_cellOf]

end TermRow

theorem cells_renderTable {rows : List TermRow} (h : ∀ row ∈ rows, row.IsSound) :
    cells (renderTable rows) =
      rows.flatMap fun row => [row.cellOf .reverse, row.cellOf .forward] := by
  have hopen (text : List Char) : cells ("<table>".toList ++ text) = cells text := by
    simpa using cells_tag 't' 'a' ['b', 'l', 'e', '>'] (by decide) (by decide) text
  have hclose : cells "</table>".toList = [] := by
    have hnil : cells [] = [] := cells_of_none rfl
    simpa [hnil] using cells_tag '/' 't' ['a', 'b', 'l', 'e', '>'] (by decide) (by decide) []
  unfold renderTable
  rw [List.append_assoc, hopen, TermRow.cells_flatMap_render h, hclose, List.append_nil]

/-- The candidates of a table are the terms on the side looked for: the first ones in row order
that differ, with blanks collapsed and without the empty ones. -/
theorem candidates_renderTable {rows : List TermRow} (h : ∀ row ∈ rows, row.IsSound)
    (direction : Direction) (limit : Nat) :
    candidates (String.ofList (renderTable rows)) direction limit =
      ((((rows.map fun row => collapse (row.side direction).text).filter
        (!·.isEmpty)).eraseDups).take limit).map String.ofList := by
  have ht : (rows.map (·.cellOf direction)).map (fun cell => cellText cell.content) =
      rows.map fun row => collapse (row.side direction).text := by
    rw [List.map_map]
    apply List.map_congr_left
    intro row hrow
    exact cellText_render ((h row hrow).side direction)
  simp only [candidates, String.toList_ofList]
  rw [cells_renderTable h, TermRow.filter_cells, ht]

/-- Rows whose terms look like a reference and like a tag. The third is the second in another
spelling, and the target of the fourth is blank. -/
def disguisedRows : List TermRow :=
  [⟨[.raw 'A', .named .ampersand, .raw 'b'],
      [.named .ampersand, .raw 'l', .raw 't', .raw ';']⟩,
    ⟨[.raw 'A'], [.named .less, .raw 't', .raw 'd', .decimal 2 '>', .raw ' ', .raw 'ß']⟩,
    ⟨[.raw ' ', .raw 'A'],
      [.hexadecimal 'X' 1 ['3', 'c'] '<', .raw 't', .raw 'd', .hexadecimal 'x' 0 ['3', 'E'] '>',
        .raw '\n', .decimal 0 ' ', .raw 'ß']⟩,
    ⟨[.raw 'B'], [.raw ' ', .decimal 0 '\u00a0']⟩,
    ⟨[.raw 'B'], [.raw 'C']⟩]

theorem candidates_renderTable_disguised :
    (∀ row ∈ disguisedRows, row.IsSound) ∧
      candidates (String.ofList (renderTable disguisedRows)) .forward 3 = ["&lt;", "<td> ß", "C"] ∧
      candidates (String.ofList (renderTable disguisedRows)) .reverse 2 = ["A&b", "A"] := by
  have hs : ∀ row ∈ disguisedRows, row.IsSound := by decide
  refine ⟨hs, ?_, ?_⟩
  · rw [candidates_renderTable hs]
    decide +kernel
  · rw [candidates_renderTable hs]
    decide +kernel

end AlAssistant.Portal
