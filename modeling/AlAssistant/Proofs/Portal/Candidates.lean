import AlAssistant.Portal.ResultPage
import AlAssistant.Proofs.Text.Collapse
import Mathlib.Data.List.Nodup

/-!
# Lists of candidates

Whatever a page holds, its candidates are pairwise distinct and no more than were asked for, and
the limit decides on nothing but where the list ends.
-/
namespace AlAssistant.Portal

theorem nodup_eraseDups {α : Type} [BEq α] [LawfulBEq α] (xs : List α) : xs.eraseDups.Nodup := by
  match xs with
  | [] => exact List.nodup_nil
  | x :: xs =>
    rw [List.eraseDups_cons, List.nodup_cons]
    constructor
    · simp
    · exact nodup_eraseDups _
termination_by xs.length
decreasing_by exact Nat.lt_succ_of_le (List.length_filter_le _ _)

section
variable (page : String) (direction : Direction) (limit : Nat)

theorem length_candidates_le : (candidates page direction limit).length ≤ limit := by
  unfold candidates
  rw [List.length_map]
  exact List.length_take_le limit _

theorem nodup_candidates : (candidates page direction limit).Nodup := by
  apply List.Nodup.map fun _ _ h => String.ofList_injective h
  exact (nodup_eraseDups _).sublist (List.take_sublist limit _)

end

open AlAssistant.Text

/-! ## The limit cuts the list of candidates

The candidates are what one reading of the page keeps: cell by cell, a term that is wanted and new
is added until there are enough. Another limit only ends the reading earlier or later, so of two
lists one begins with the other. Each term is written with single spaces between its words.
-/

/-- The reading of a page goes on to its next cell: while there are not enough terms, the text of
a cell of the wanted class is added unless it is empty or was kept before. -/
def readCell (direction : Direction) (limit : Nat) (kept : List (List Char)) (cell : Cell) :
    List (List Char) :=
  if limit ≤ kept.length then kept
  else if !cell.hasClass direction.cellClass then kept
  else if (cellText cell.content).isEmpty || kept.contains (cellText cell.content) then kept
  else kept ++ [cellText cell.content]

/-- The terms in cells of the wanted class, in order and as often as they stand there. -/
def termsIn (direction : Direction) (cells : List Cell) : List (List Char) :=
  ((cells.filter (·.hasClass direction.cellClass)).map fun cell => cellText cell.content).filter
    (!·.isEmpty)

section Reading
variable (direction : Direction) (limit : Nat)

theorem termsIn_append (a b : List Cell) :
    termsIn direction (a ++ b) = termsIn direction a ++ termsIn direction b := by
  simp only [termsIn, List.filter_append, List.map_append]

theorem termsIn_singleton (cell : Cell) :
    termsIn direction [cell] =
      if cell.hasClass direction.cellClass && !(cellText cell.content).isEmpty then
        [cellText cell.content]
      else [] := by
  unfold termsIn
  cases hc : cell.hasClass direction.cellClass with
  | false => simp [hc]
  | true => cases hn : (cellText cell.content).isEmpty <;> simp [hc, hn]

theorem eraseDups_concat (xs : List (List Char)) (x : List Char) :
    (xs ++ [x]).eraseDups = if x ∈ xs then xs.eraseDups else xs.eraseDups ++ [x] := by
  rw [List.eraseDups_append]
  split
  · next h => simp [List.removeAll, h]
  · next h => simp [List.removeAll, h, List.eraseDups_cons]

/-- What is kept of the cells read so far are the first of their distinct terms. -/
theorem readCell_take (read : List Cell) (cell : Cell) :
    readCell direction limit ((termsIn direction read).eraseDups.take limit) cell =
      (termsIn direction (read ++ [cell])).eraseDups.take limit := by
  rw [termsIn_append, termsIn_singleton]
  generalize termsIn direction read = terms
  generalize hterm : cellText cell.content = term
  unfold readCell
  rw [hterm]
  cases cell.hasClass direction.cellClass with
  | false => simp
  | true =>
    cases hn : term.isEmpty with
    | true => simp
    | false =>
      simp only [Bool.not_true, Bool.false_eq_true, if_false, Bool.not_false, Bool.and_self,
        if_true, Bool.false_or]
      rw [eraseDups_concat]
      by_cases hfull : limit ≤ terms.eraseDups.length
      · -- enough terms: whatever is added lies behind the limit
        have hlen : limit ≤ (terms.eraseDups.take limit).length := by
          rw [List.length_take]
          omega
        rw [if_pos hlen]
        split
        · rfl
        · rw [List.take_append_of_le_length hfull]
      · have hall : terms.eraseDups.take limit = terms.eraseDups :=
          List.take_of_length_le (by omega)
        rw [hall, if_neg hfull]
        by_cases hm : term ∈ terms
        · simp [hm, hall]
        · have hmore : (terms.eraseDups ++ [term]).take limit = terms.eraseDups ++ [term] :=
            List.take_of_length_le (by simp only [List.length_append, List.length_singleton]; omega)
          simp [hm, hmore]

/-- Reading on from any cell keeps the first distinct terms of all the cells. -/
theorem foldl_readCell (read rest : List Cell) :
    rest.foldl (readCell direction limit) ((termsIn direction read).eraseDups.take limit) =
      (termsIn direction (read ++ rest)).eraseDups.take limit := by
  induction rest generalizing read with
  | nil => rw [List.append_nil, List.foldl_nil]
  | cons cell rest ih =>
    rw [List.foldl_cons, readCell_take, ih, List.append_assoc, List.singleton_append]

theorem candidates_eq_foldl (page : String) :
    candidates page direction limit =
      ((cells page.toList).foldl (readCell direction limit) []).map String.ofList := by
  have h := foldl_readCell direction limit [] (cells page.toList)
  rw [List.nil_append, show (termsIn direction []).eraseDups.take limit = [] by simp [termsIn]] at h
  rw [h]
  rfl

theorem mem_termsIn {cells : List Cell} {term : List Char} :
    term ∈ termsIn direction cells ↔
      term ≠ [] ∧ ∃ cell ∈ cells, cell.hasClass direction.cellClass = true ∧
        cellText cell.content = term := by
  simp only [termsIn, List.mem_filter, List.mem_map]
  grind

end Reading

/-- One reading of the page gives its candidates, and a smaller limit gives the first of them. They
are distinct terms of the wanted cells, collapsed and not empty, and no more than asked for; where
there are fewer, no term of a wanted cell is missing. -/
theorem candidates_cut_by_limit (page : String) (direction : Direction) :
    (∀ m n, m ≤ n → candidates page direction m = (candidates page direction n).take m) ∧
    ∀ limit, let found := candidates page direction limit
      found = ((cells page.toList).foldl (readCell direction limit) []).map String.ofList ∧
      found.length ≤ limit ∧ found.Nodup ∧
      (∀ term ∈ found, term ≠ "" ∧ IsCollapsed term.toList ∧
        ∃ cell ∈ cells page.toList, cell.hasClass direction.cellClass = true ∧
          cellText cell.content = term.toList) ∧
      (found.length < limit → ∀ cell ∈ cells page.toList,
        cell.hasClass direction.cellClass = true → cellText cell.content ≠ [] →
          String.ofList (cellText cell.content) ∈ found) := by
  refine ⟨fun m n h => ?_, fun limit => ⟨candidates_eq_foldl direction limit page,
    length_candidates_le page direction limit, nodup_candidates page direction limit,
    fun term ht => ?_, fun hl cell hc hw hn => ?_⟩⟩
  · unfold candidates
    rw [← List.map_take, List.take_take, Nat.min_eq_left h]
  · obtain ⟨chars, hm, rfl⟩ := List.mem_map.1 ht
    have hm := List.mem_eraseDups.1 (List.mem_of_mem_take hm)
    obtain ⟨hn, cell, hc, hw, hterm⟩ := (mem_termsIn direction).1 hm
    rw [String.toList_ofList]
    refine ⟨by simpa using hn, ?_, cell, hc, hw, hterm⟩
    rw [← hterm]
    exact isCollapsed_collapse _
  · have hall : (termsIn direction (cells page.toList)).eraseDups.take limit =
        (termsIn direction (cells page.toList)).eraseDups := by
      apply List.take_of_length_le
      have hlen : (candidates page direction limit).length =
          min limit (termsIn direction (cells page.toList)).eraseDups.length := by
        unfold candidates
        rw [List.length_map, List.length_take]
        rfl
      omega
    refine List.mem_map.2 ⟨cellText cell.content, ?_, rfl⟩
    change _ ∈ (termsIn direction (cells page.toList)).eraseDups.take limit
    rw [hall, List.mem_eraseDups, mem_termsIn]
    exact ⟨hn, cell, hc, hw, rfl⟩

/-- The second cell repeats the first term in another spelling. -/
theorem candidates_cut_by_limit_repeated :
    let page := "<td class=\"trs_target_clm\">Buch&nbsp; <b>blatt</b></td>" ++
      "<td class='x trs_target_clm'>Buch\n blatt </td><td class=\"trs_target_clm\">Posten</td>"
    1 ≤ 5 ∧ candidates page .forward 1 = (candidates page .forward 5).take 1 ∧
      candidates page .forward 5 = ["Buch blatt", "Posten"] ∧
      "Buch blatt" ∈ candidates page .forward 5 ∧ IsCollapsed "Buch blatt".toList := by
  intro page
  have hf : candidates page .forward 5 = ["Buch blatt", "Posten"] := by decide +kernel
  have hm : "Buch blatt" ∈ candidates page .forward 5 := by simp [hf]
  have h := candidates_cut_by_limit page .forward
  exact ⟨by decide, h.1 1 5 (by decide), hf, hm, ((h.2 5).2.2.2.1 _ hm).2.1⟩

end AlAssistant.Portal
