import AlAssistant.Proofs.Text.Columns
import Mathlib.Order.Bounds.Basic

/-!
# Columns and boundaries

A byte offset is a boundary of a line where it lies between two of its characters or at one of its
ends. A column is resolved to the least boundary that has at least so many code units before it, and
to the end of the line if there is none. Adding up the code units of one character after the other
in 32 bits finds the same offset, unless the line is so long that the sum wraps.
-/
namespace AlAssistant.Text

/-- The characters of a line that a boundary has before it. -/
structure StandsBefore (line : List Char) (offset : Nat) (before : List Char) : Prop where
  isPrefix : before <+: line
  byteLength_eq : byteLength before = offset

/-- The boundaries of a line with at least `column` code units before them. -/
def boundariesFrom (line : List Char) (column : Nat) : Set Nat :=
  {offset | ∃ before, StandsBefore line offset before ∧ column ≤ units before}

/-- The first offset of a line at which the units that are added up reach the column, and its end if
they never do. -/
def countFrom (column passed : UInt32) (offset : Nat) : List Char → Nat
  | [] => offset
  | c :: line =>
    if column ≤ passed then offset
    else countFrom column (passed + UInt32.ofNat (charUnits c)) (offset + c.utf8Size) line

section Boundaries
variable {line before : List Char} {offset column : Nat}

theorem utf8ByteSize_ofList (text : List Char) :
    (String.ofList text).utf8ByteSize = byteLength text := by
  induction text with
  | nil => rfl
  | cons c text ih =>
    rw [String.ofList_cons, String.utf8ByteSize_append, String.utf8ByteSize_singleton, ih,
      byteLength_cons]

/-- Boundaries are the valid positions of a string. -/
theorem isValid_iff_exists_standsBefore :
    String.Pos.Raw.IsValid (String.ofList line) ⟨offset⟩ ↔
      ∃ before, StandsBefore line offset before := by
  rw [String.Pos.Raw.isValid_ofList]
  constructor
  · rintro ⟨i, hi⟩
    rw [utf8ByteSize_ofList] at hi
    exact ⟨line.take i, List.take_prefix i line, hi.symm⟩
  · rintro ⟨before, hp, hb⟩
    refine ⟨before.length, ?_⟩
    rw [utf8ByteSize_ofList, ← List.prefix_iff_eq_take.1 hp]
    exact hb.symm

theorem standsBefore_byteOffset (line : List Char) (column : Nat) :
    StandsBefore line (byteOffset line column) (line.take (charIndex line column)) :=
  ⟨List.take_prefix _ line, rfl⟩

theorem byteLength_le_of_isPrefix (h : before <+: line) : byteLength before ≤ byteLength line :=
  (byteLength_le_iff h List.prefix_rfl).2 h.length_le

theorem units_le_of_isPrefix (h : before <+: line) : units before ≤ units line := by
  obtain ⟨behind, rfl⟩ := h
  rw [units_append]
  exact Nat.le_add_right _ _

end Boundaries

section Resolving
variable {line before behind : List Char} {c : Char} {column : Nat}

theorem monotone_byteOffset (line : List Char) : Monotone (byteOffset line) := by
  intro first last h
  refine (byteOffset_le_byteLength_iff (List.take_prefix _ line)).2 ?_
  rw [length_take_charIndex]
  exact charIndex_mono line h

theorem byteOffset_units (before behind : List Char) :
    byteOffset (before ++ behind) (units before) = byteLength before := by
  rw [byteOffset, charIndex_units, List.take_left]

/-- A column is resolved to a character with as many units up to it, if the line has them. -/
theorem le_units_take_charIndex (h : column ≤ units line) :
    column ≤ units (line.take (charIndex line column)) := by
  induction line generalizing column with
  | nil => rwa [List.take_nil]
  | cons c line ih =>
    rcases Nat.eq_zero_or_pos column with rfl | hc
    · exact Nat.zero_le _
    · rw [units_cons] at h
      have hrest := @ih (column - charUnits c) (by omega)
      rw [charIndex_cons hc, List.take_succ_cons, units_cons]
      omega

theorem charIndex_le_of_le_units (h : before <+: line) (hc : column ≤ units before) :
    charIndex line column ≤ before.length := by
  obtain ⟨behind, rfl⟩ := h
  rw [← charIndex_units before behind]
  exact charIndex_mono _ hc

theorem isLeast_byteOffset (h : column ≤ units line) :
    IsLeast (boundariesFrom line column) (byteOffset line column) := by
  constructor
  · exact ⟨_, standsBefore_byteOffset line column, le_units_take_charIndex h⟩
  · rintro offset ⟨before, ⟨hp, rfl⟩, hc⟩
    exact (byteOffset_le_byteLength_iff hp).2 (charIndex_le_of_le_units hp hc)

theorem boundariesFrom_eq_empty (h : units line < column) : boundariesFrom line column = ∅ := by
  refine Set.eq_empty_of_forall_notMem fun offset hm => ?_
  obtain ⟨before, hb, hc⟩ := hm
  have hu := units_le_of_isPrefix hb.isPrefix
  omega

theorem byteOffset_of_units_le (h : units line ≤ column) :
    byteOffset line column = byteLength line := by
  rw [byteOffset, charIndex_of_units_le h, List.take_length]

/-- A column inside the units of a character is resolved to the end of the character. -/
theorem byteOffset_inside (hl : line = before ++ c :: behind) (hf : units before < column)
    (hc : column ≤ units before + charUnits c) :
    byteOffset line column = byteLength (before ++ [c]) := by
  obtain ⟨more, rfl⟩ := Nat.exists_eq_add_of_lt hf
  have hi : charIndex line (units before + more + 1) = (before ++ [c]).length := by
    rw [hl, Nat.add_assoc, charIndex_append, charIndex_cons (by omega),
      Nat.sub_eq_zero_of_le (by omega), charIndex_zero, List.length_append, List.length_singleton]
  rw [byteOffset, hi, hl, List.append_cons before c behind, List.take_left]

theorem byteOffset_cons (c : Char) (line : List Char) (h : 0 < column) :
    byteOffset (c :: line) column = c.utf8Size + byteOffset line (column - charUnits c) := by
  rw [byteOffset, charIndex_cons h, List.take_succ_cons, byteLength_cons]
  rfl

end Resolving

/-- While the sum does not wrap, what is left of the column is resolved in what is left of the
line. -/
theorem countFrom_eq {column passed : UInt32} {offset : Nat} {line : List Char}
    (h : passed.toNat + units line < UInt32.size) :
    countFrom column passed offset line =
      offset + byteOffset line (column.toNat - passed.toNat) := by
  induction line generalizing passed offset with
  | nil =>
    rw [byteOffset, List.take_nil]
    rfl
  | cons c line ih =>
    rw [units_cons] at h
    rw [countFrom]
    by_cases hc : column ≤ passed
    · have hn : column.toNat - passed.toNat = 0 :=
        Nat.sub_eq_zero_of_le (UInt32.le_iff_toNat_le.1 hc)
      rw [if_pos hc, hn, byteOffset, charIndex_zero]
      rfl
    · have hlt : passed.toNat < column.toNat := by
        rw [UInt32.le_iff_toNat_le] at hc
        omega
      have hu : (passed + UInt32.ofNat (charUnits c)).toNat = passed.toNat + charUnits c := by
        rw [UInt32.toNat_add, UInt32.toNat_ofNat']
        rw [UInt32.size] at h
        omega
      rw [if_neg hc, ih (by omega), hu, byteOffset_cons c line (by omega), Nat.sub_sub,
        Nat.add_assoc]

/-- A column of a line is resolved to a boundary: to the least one with so many code units before
it, or to the end of the line if there is none. So the end of a part is found again, a column inside
a surrogate pair is rounded up, one behind the line goes to its end, and columns in order give
offsets in order. Where the units of a line are fewer than 2 ^ 32, adding them up in 32 bits finds
the same offsets. -/
theorem byteOffset_is_least_boundary (line : List Char) :
    (∀ column, String.Pos.Raw.IsValid (String.ofList line) ⟨byteOffset line column⟩ ∧
      byteOffset line column ≤ byteLength line) ∧
    Monotone (byteOffset line) ∧
    (∀ part, part <+: line → byteOffset line (units part) = byteLength part) ∧
    (∀ column, IsLeast (boundariesFrom line column) (byteOffset line column) ∨
      boundariesFrom line column = ∅ ∧ byteOffset line column = byteLength line) ∧
    (∀ before c behind, line = before ++ c :: behind → charUnits c = 2 →
      byteOffset line (units before + 1) = byteLength (before ++ [c])) ∧
    (∀ column, units line ≤ column → byteOffset line column = byteLength line) ∧
    (units line < UInt32.size → ∀ column : UInt32,
      countFrom column 0 0 line = byteOffset line column.toNat) := by
  refine ⟨fun column => ⟨?_, ?_⟩, monotone_byteOffset line, ?_, fun column => ?_,
    fun before c behind hl hc => ?_, fun column h => byteOffset_of_units_le h, fun h column => ?_⟩
  · exact isValid_iff_exists_standsBefore.2 ⟨_, standsBefore_byteOffset line column⟩
  · exact byteLength_le_of_isPrefix (standsBefore_byteOffset line column).isPrefix
  · rintro part ⟨behind, rfl⟩
    exact byteOffset_units part behind
  · rcases Nat.lt_or_ge (units line) column with h | h
    · exact .inr ⟨boundariesFrom_eq_empty h, byteOffset_of_units_le (Nat.le_of_lt h)⟩
    · exact .inl (isLeast_byteOffset h)
  · exact byteOffset_inside hl (Nat.lt_succ_self _) (by omega)
  · have hcount := @countFrom_eq column 0 0 line (by simpa using h)
    simpa using hcount

/-- Column 2 lies inside the surrogate pair and column 5 behind the line. -/
theorem byteOffset_is_least_boundary_pair :
    let line := "ä😀x".toList
    byteOffset line 1 ≤ byteOffset line 2 ∧ byteOffset line 1 = 2 ∧ byteOffset line 3 = 6 ∧
      IsLeast (boundariesFrom line 2) 6 ∧ byteOffset line 2 = 6 ∧ byteOffset line 5 = 7 ∧
      countFrom 2 0 0 line = 6 := by
  intro line
  obtain ⟨-, hmono, hpart, hleast, hinside, hbehind, hcount⟩ := byteOffset_is_least_boundary line
  have h₂ : byteOffset line 2 = 6 := hinside ['ä'] '😀' ['x'] (by decide) (by decide)
  have hl : IsLeast (boundariesFrom line 2) (byteOffset line 2) := by
    rcases hleast 2 with hl | ⟨-, he⟩
    · exact hl
    · rw [h₂] at he
      exact absurd he (by decide)
  rw [h₂] at hl
  exact ⟨@hmono 1 2 (by decide), hpart ['ä'] (by decide), hpart ['ä', '😀'] (by decide), hl, h₂,
    hbehind 5 (by decide), (hcount (by decide) 2).trans h₂⟩

end AlAssistant.Text
