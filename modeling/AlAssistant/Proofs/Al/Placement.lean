import AlAssistant.Proofs.Al.Place
import AlAssistant.Proofs.Text.Lines

/-!
# Declarations stay below the header of their use

The line of an edit is found by two searches, up from the use to a line that opens a section or a
procedure and, from a header, down again to the `begin` of its body. Neither search passes over a
header, so the headers above the edit are those at or above the use.
-/
namespace AlAssistant.Al

open AlAssistant.Text

/-- The line of a use. Behind the end it is the last line. -/
def useLine (ls : List (List Char)) (use : Nat) : Nat := min use (ls.length - 1)

/-- The last of the first `count` lines that has a property. -/
def IsLast (p : List Char → Bool) (ls : List (List Char)) (count line : Nat) : Prop :=
  line < count ∧ ls[line]?.any p = true ∧
    ∀ other, line < other → other < count → ls[other]?.any p = false

/-- The first line that has a property, strictly below `above` and not below `use`. -/
def IsFirst (p : List Char → Bool) (ls : List (List Char)) (above use line : Nat) : Prop :=
  above < line ∧ line ≤ use ∧ ls[line]?.any p = true ∧
    ∀ other, above < other → other < line → ls[other]?.any p = false

/-- The line where a declaration for a use is inserted. -/
inductive PlacedAt (ls : List (List Char)) (use : Nat) : Nat → Prop
  | belowVar {var : Nat} : IsLast isAnchor ls (use + 1) var → ls[var]?.any isVarLine = true →
      PlacedAt ls use (var + 1)
  | atBegin {header body : Nat} : IsLast isAnchor ls (use + 1) header →
      ls[header]?.any isHeader = true → IsFirst isBeginLine ls header use body →
      PlacedAt ls use body

section Searches
variable {ls : List (List Char)} {p : List Char → Bool} {use count line : Nat}

/-- Another bound that cuts the same lines with the property has the same last one. -/
theorem IsLast.of_lt_iff {bound : Nat} (h : IsLast p ls count line)
    (hb : ∀ other, ls[other]?.any p = true → (other < count ↔ other < bound)) :
    IsLast p ls bound line := by
  obtain ⟨hl, hp, hn⟩ := h
  refine ⟨(hb line hp).1 hl, hp, fun other ho hu => Bool.eq_false_iff.2 fun hop => ?_⟩
  rw [hn other ho ((hb other hop).2 hu)] at hop
  cases hop

theorem nearestAnchor?_eq_some_iff_isLast :
    nearestAnchor? ls use = some line ↔ IsLast isAnchor ls (use + 1) line := by
  simp only [nearestAnchor?_eq_some_iff, IsLast, Nat.lt_succ_iff]

theorem bodyStart?_eq_some_iff_isFirst {header : Nat} :
    bodyStart? ls header use = some line ↔ IsFirst isBeginLine ls header use line := by
  -- the lines between the header and the use, counted from the first of them
  have hseg : ∀ n, header + 1 + n ≤ use →
      ((ls.take (use + 1)).drop (header + 1))[n]? = ls[header + 1 + n]? := fun n hn => by
    rw [List.getElem?_drop, List.getElem?_take_of_lt (by omega)]
  have hlen : ((ls.take (use + 1)).drop (header + 1)).length ≤ use - header := by
    rw [List.length_drop, List.length_take]
    omega
  rw [bodyStart?, Option.map_eq_some_iff]
  constructor
  · rintro ⟨n, hf, rfl⟩
    obtain ⟨hn, hs, hb⟩ := List.findIdx?_eq_some_iff_getElem.1 hf
    have hu : header + 1 + n ≤ use := by omega
    refine ⟨by omega, hu, ?_, fun other ho hl => ?_⟩
    · rw [← hseg n hu, List.getElem?_eq_getElem hn]
      exact hs
    · have hj : other - (header + 1) < n := by omega
      have he : header + 1 + (other - (header + 1)) = other := by omega
      have hnot := Bool.eq_false_iff.2 (hb _ hj)
      rw [← he, ← hseg _ (by omega), List.getElem?_eq_getElem (by omega)]
      exact hnot
  · rintro ⟨ha, hu, hs, hb⟩
    have he : header + 1 + (line - (header + 1)) = line := by omega
    rw [← he, ← hseg _ (by omega)] at hs
    obtain ⟨start, hget, hstart⟩ := (Option.any_eq_true _ _).1 hs
    obtain ⟨hn, rfl⟩ := List.getElem?_eq_some_iff.1 hget
    refine ⟨line - (header + 1), List.findIdx?_eq_some_iff_getElem.2 ⟨hn, hstart, ?_⟩, he⟩
    intro j hj hbegin
    have hno := hb (header + 1 + j) (by omega) (by omega)
    rw [← hseg j (by omega), List.getElem?_eq_getElem (by omega)] at hno
    exact absurd hbegin (Bool.eq_false_iff.1 hno)

end Searches

section Lines
variable {ls : List (List Char)} {use line : Nat}

/-- An anchor that is no `var` line is a header. -/
theorem any_isHeader_of_isAnchor (h : ls[line]?.any isAnchor = true)
    (hv : ls[line]?.any isVarLine = false) : ls[line]?.any isHeader = true := by
  cases hl : ls[line]? with
  | none => simp [hl] at h
  | some found =>
    rw [hl, Option.any_some] at h hv
    simpa [isAnchor, hv] using h

/-- The headers above the inserted line are those at or above the use. -/
theorem PlacedAt.header_lt_iff (h : PlacedAt ls use line) {header : Nat}
    (hh : ls[header]?.any isHeader = true) : header < line ↔ header ≤ use := by
  have hanchor : ls[header]?.any isAnchor = true := by
    obtain ⟨found, hl, hf⟩ := (Option.any_eq_true _ _).1 hh
    exact (Option.any_eq_true _ _).2 ⟨found, hl, by simp [isAnchor, hf]⟩
  -- no header lies below the anchor and at or above the use
  have hle : ∀ anchor, IsLast isAnchor ls (use + 1) anchor → header ≤ use → header ≤ anchor :=
    fun anchor ha hu => Nat.not_lt.1 fun hlt => by
      simp [ha.2.2 header hlt (Nat.lt_succ_of_le hu)] at hanchor
  cases h with
  | belowVar ha _ =>
    have hlt := ha.1
    exact ⟨fun h => by omega, fun h => Nat.lt_succ_of_le (hle _ ha h)⟩
  | atBegin ha _ hb =>
    obtain ⟨hbelow, hu, -, -⟩ := hb
    exact ⟨fun h => by omega, fun h => Nat.lt_of_le_of_lt (hle _ ha h) hbelow⟩

/-- What stands above the inserted line and what stands at or above the use end in the same
header. -/
theorem PlacedAt.isLast_header_iff (h : PlacedAt ls use line) (header : Nat) :
    IsLast isHeader ls line header ↔ IsLast isHeader ls (use + 1) header := by
  have hiff : ∀ other, ls[other]?.any isHeader = true → (other < line ↔ other < use + 1) :=
    fun other ho => (h.header_lt_iff ho).trans Nat.lt_succ_iff.symm
  exact ⟨fun hl => hl.of_lt_iff hiff, fun hl => hl.of_lt_iff fun other ho => (hiff other ho).symm⟩

end Lines

section Edit
variable (text name type : String) (use : Nat)

/-- The line of the edit is found by the two searches, from the use or from the last line. -/
theorem range_declarationEdit? :
    (declarationEdit? text use name type).map (·.range) =
      let ls := lines text.toList
      let use := min use (ls.length - 1)
      if ls.isEmpty then none
      else match nearestAnchor? ls use with
        | none => none
        | some anchor =>
          if ls[anchor]?.any isVarLine then some (.caret ⟨anchor + 1, 0⟩)
          else (bodyStart? ls anchor use).map fun body => .caret ⟨body, 0⟩ := by
  have hvar : isVarLine [] = false := by decide
  unfold declarationEdit?
  generalize lines text.toList = ls
  dsimp only
  split
  · rfl
  · cases nearestAnchor? ls (min use (ls.length - 1)) with
    | none => rfl
    | some anchor =>
      have hl : isVarLine (ls[anchor]?.getD []) = ls[anchor]?.any isVarLine := by
        cases ls[anchor]? with
        | none => exact hvar
        | some line => rfl
      dsimp only
      rw [hl]
      split
      · rfl
      · simp only [Option.map_map]
        rfl

theorem declarationEdit?_placedAt_iff (line : Nat) :
    (declarationEdit? text use name type).map (·.range) = some (.caret ⟨line, 0⟩) ↔
      PlacedAt (lines text.toList) (useLine (lines text.toList) use) line := by
  rw [range_declarationEdit?]
  generalize lines text.toList = ls
  dsimp only [useLine]
  generalize min use (ls.length - 1) = use
  have hcaret : ∀ a b : Nat, Range.caret ⟨a, 0⟩ = Range.caret ⟨b, 0⟩ ↔ a = b := fun a b => by
    simp [Range.caret]
  constructor
  · intro h
    split at h
    · cases h
    · split at h
      · cases h
      · next anchor ha =>
        have hlast := nearestAnchor?_eq_some_iff_isLast.1 ha
        split at h
        · next hv =>
          obtain rfl := (hcaret _ _).1 (Option.some.inj h)
          exact .belowVar hlast hv
        · next hv =>
          obtain ⟨body, hb, he⟩ := Option.map_eq_some_iff.1 h
          obtain rfl := (hcaret _ _).1 he
          have hh := any_isHeader_of_isAnchor hlast.2.1 (Bool.eq_false_iff.2 hv)
          exact .atBegin hlast hh (bodyStart?_eq_some_iff_isFirst.1 hb)
  · intro h
    have hne : ∀ {anchor}, IsLast isAnchor ls (use + 1) anchor → ls.isEmpty = false := by
      intro anchor ha
      cases ls with
      | nil => simp [IsLast] at ha
      | cons first rest => rfl
    cases h with
    | @belowVar var ha hv =>
      rw [if_neg (by simp [hne ha]), nearestAnchor?_eq_some_iff_isLast.2 ha]
      dsimp only
      rw [if_pos hv]
    | @atBegin header body ha hh hb =>
      have hv : ls[header]?.any isVarLine = false := by
        obtain ⟨found, hl, hf⟩ := (Option.any_eq_true _ _).1 hh
        rw [hl]
        exact isVarLine_of_isHeader hf
      rw [if_neg (by simp [hne ha]), nearestAnchor?_eq_some_iff_isLast.2 ha]
      dsimp only
      rw [if_neg (by simp [hv]), bodyStart?_eq_some_iff_isFirst.2 hb, Option.map_some]

theorem exists_caret_of_declarationEdit? {edit : TextEdit}
    (h : declarationEdit? text use name type = some edit) :
    ∃ line, edit.range = .caret ⟨line, 0⟩ := by
  have hd := declarationEdit?_eq_some_iff.1 h
  generalize (lines text.toList).take (use + 1) = visible at hd
  cases hd with
  | inSection => exact ⟨_, rfl⟩
  | beforeBody => exact ⟨_, rfl⟩

/-- A declaration goes below the nearest `var` line or, from a header that is nearer, to the first
`begin` up to the use, and nowhere else. The headers above its line are those at or above the use,
so both stand below the same one. -/
theorem declarationEdit?_below_own_header :
    (∀ line, (declarationEdit? text use name type).map (·.range) = some (.caret ⟨line, 0⟩) ↔
      PlacedAt (lines text.toList) (useLine (lines text.toList) use) line) ∧
    (declarationEdit? text use name type = none ↔
      ∀ line, ¬ PlacedAt (lines text.toList) (useLine (lines text.toList) use) line) ∧
    ((text = "" ∨ ∀ line,
        ¬ IsLast isAnchor (lines text.toList) (useLine (lines text.toList) use + 1) line) →
      declarationEdit? text use name type = none) ∧
    ∀ line, PlacedAt (lines text.toList) (useLine (lines text.toList) use) line →
      (∀ header, (lines text.toList)[header]?.any isHeader = true →
        (header < line ↔ header ≤ useLine (lines text.toList) use)) ∧
      ∀ header, IsLast isHeader (lines text.toList) line header ↔
        IsLast isHeader (lines text.toList) (useLine (lines text.toList) use + 1) header := by
  have hplaced := declarationEdit?_placedAt_iff text name type use
  have hnone : declarationEdit? text use name type = none ↔
      ∀ line, ¬ PlacedAt (lines text.toList) (useLine (lines text.toList) use) line := by
    constructor
    · intro hn line hl
      have he := (hplaced line).2 hl
      rw [hn] at he
      cases he
    · intro hn
      refine Option.eq_none_iff_forall_ne_some.2 fun edit he => ?_
      obtain ⟨line, hr⟩ := exists_caret_of_declarationEdit? text name type use he
      exact hn line ((hplaced line).1 (by rw [he, Option.map_some, hr]))
  refine ⟨hplaced, hnone, fun h => ?_, fun line hl => ⟨fun header => hl.header_lt_iff,
    hl.isLast_header_iff⟩⟩
  have hlast : ∀ line,
      ¬ IsLast isAnchor (lines text.toList) (useLine (lines text.toList) use + 1) line := by
    rcases h with rfl | h
    · -- a text without lines has no line with any property
      exact fun line hl => absurd hl.2.1 Bool.false_ne_true
    · exact h
  refine hnone.2 fun line hl => ?_
  cases hl with
  | belowVar ha _ => exact hlast _ ha
  | atBegin ha _ _ => exact hlast _ ha

/-- The `var` line of the procedure above is farther away than the header of the use. -/
theorem declarationEdit?_below_own_header_second :
    let text := "procedure A()\nvar\nbegin\nend;\nlocal procedure B()\nBegin\n  Item.Get();\nend;"
    let ls := lines text.toList
    (declarationEdit? text 6 "Item" "Record Item").map (·.range) = some (.caret ⟨5, 0⟩) ∧
      ls[4]?.any isHeader = true ∧ PlacedAt ls (useLine ls 6) 5 ∧
      (4 < 5 ↔ 4 ≤ useLine ls 6) ∧
      (IsLast isHeader ls 5 4 ↔ IsLast isHeader ls (useLine ls 6 + 1) 4) := by
  intro text ls
  have he : (declarationEdit? text 6 "Item" "Record Item").map (·.range) =
      some (.caret ⟨5, 0⟩) := by decide +kernel
  have hh : ls[4]?.any isHeader = true := by decide +kernel
  obtain ⟨hplaced, -, -, hsame⟩ := declarationEdit?_below_own_header text "Item" "Record Item" 6
  have hl := (hplaced 5).1 he
  exact ⟨he, hh, hl, (hsame 5 hl).1 4 hh, (hsame 5 hl).2 4⟩

end Edit

end AlAssistant.Al
