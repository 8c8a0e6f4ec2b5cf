import AlAssistant.Text.Layout

/-!
# Columns and bytes of a line

Columns and byte offsets are resolved to places between the characters of a line.
-/
namespace AlAssistant.Text

/-! ## Columns of a line

The column that a part of a line ends at resolves to the end of that part. Columns in order
resolve to boundaries in order, none of them behind the end of the line.
-/

theorem charUnits_pos (c : Char) : 0 < charUnits c := by
  unfold charUnits
  split <;> decide

@[simp] theorem units_cons (c : Char) (text : List Char) :
    units (c :: text) = charUnits c + units text := rfl

@[simp] theorem units_append (a b : List Char) : units (a ++ b) = units a + units b := by
  induction a with
  | nil => exact (Nat.zero_add (units b)).symm
  | cons c a ih => rw [List.cons_append, units_cons, units_cons, ih, Nat.add_assoc]

@[simp] theorem charIndex_zero (line : List Char) : charIndex line 0 = 0 := by
  cases line <;> rfl

theorem charIndex_cons {column : Nat} (h : 0 < column) (c : Char) (line : List Char) :
    charIndex (c :: line) column = charIndex line (column - charUnits c) + 1 := by
  obtain ⟨n, rfl⟩ := Nat.exists_eq_add_one_of_ne_zero (Nat.ne_of_gt h)
  rfl

/-- Columns behind a part of a line are resolved in the rest. -/
theorem charIndex_append (a b : List Char) (column : Nat) :
    charIndex (a ++ b) (units a + column) = a.length + charIndex b column := by
  induction a with
  | nil => simp [units]
  | cons c a ih =>
    have hc := charUnits_pos c
    rw [List.cons_append, charIndex_cons (by rw [units_cons]; omega)]
    have hs : units (c :: a) + column - charUnits c = units a + column := by
      rw [units_cons]
      omega
    rw [hs, ih, List.length_cons]
    omega

theorem charIndex_units (a b : List Char) : charIndex (a ++ b) (units a) = a.length := by
  have h := charIndex_append a b 0
  simpa using h

theorem charIndex_of_units_le {line : List Char} {column : Nat} (h : units line ≤ column) :
    charIndex line column = line.length := by
  obtain ⟨more, rfl⟩ := Nat.exists_eq_add_of_le h
  have hi := charIndex_append line [] more
  have hn : charIndex [] more = 0 := by cases more <;> rfl
  rwa [List.append_nil, hn, Nat.add_zero] at hi

theorem charIndex_mono (line : List Char) {first last : Nat} (h : first ≤ last) :
    charIndex line first ≤ charIndex line last := by
  induction line generalizing first last with
  | nil => cases first <;> exact Nat.zero_le _
  | cons c line ih =>
    rcases Nat.eq_zero_or_pos first with rfl | hf
    · simp
    · rw [charIndex_cons hf, charIndex_cons (Nat.lt_of_lt_of_le hf h)]
      exact Nat.succ_le_succ (ih (Nat.sub_le_sub_right h _))

theorem slice_append (before part behind : List Char) :
    slice (before ++ (part ++ behind)) (units before) (units before + units part) = part := by
  have hstart := charIndex_units before (part ++ behind)
  have hstop := charIndex_append before (part ++ behind) (units part)
  rw [charIndex_units] at hstop
  rw [slice, hstart, hstop, List.take_length_add_append, List.take_left, List.drop_left]

/-- The parts of a line up to two columns differ by the slice between them. -/
theorem take_append_slice {line : List Char} {first last : Nat}
    (h : charIndex line first ≤ charIndex line last) :
    line.take (charIndex line first) ++ slice line first last =
      line.take (charIndex line last) := by
  have htake : line.take (charIndex line first) =
      (line.take (charIndex line last)).take (charIndex line first) := by
    rw [List.take_take, Nat.min_eq_left h]
  rw [slice, htake, List.take_append_drop]

theorem slice_eq_nil {line : List Char} {first last : Nat}
    (h : charIndex line last ≤ charIndex line first) : slice line first last = [] :=
  List.drop_eq_nil_of_le (Nat.le_trans (List.length_take_le _ line) h)

/-! ## Byte offsets of a line

A byte offset between two characters of a line is the length in bytes of what stands before it. On
the parts that a line begins with, lengths in bytes are ordered as lengths in characters are, so a
column is resolved to the same boundary whether bytes or characters are counted.
-/

@[simp] theorem byteLength_nil : byteLength [] = 0 := rfl

@[simp] theorem byteLength_cons (c : Char) (text : List Char) :
    byteLength (c :: text) = c.utf8Size + byteLength text := rfl

@[simp] theorem byteLength_append (a b : List Char) :
    byteLength (a ++ b) = byteLength a + byteLength b := by
  induction a with
  | nil => exact (Nat.zero_add (byteLength b)).symm
  | cons c a ih => rw [List.cons_append, byteLength_cons, byteLength_cons, ih, Nat.add_assoc]

theorem byteLength_eq_zero_iff {text : List Char} : byteLength text = 0 ↔ text = [] := by
  cases text with
  | nil => simp
  | cons c text =>
    have hc := c.utf8Size_pos
    simp only [byteLength_cons, reduceCtorEq, iff_false]
    omega

section Starts
variable {line a b : List Char}

theorem byteLength_le_iff (ha : a <+: line) (hb : b <+: line) :
    byteLength a ≤ byteLength b ↔ a.length ≤ b.length := by
  constructor
  · intro h
    rcases Nat.le_total a.length b.length with hl | hl
    · exact hl
    · obtain ⟨more, rfl⟩ := List.prefix_of_prefix_length_le hb ha hl
      have hm : byteLength more = 0 := by
        rw [byteLength_append] at h
        omega
      have hnone := byteLength_eq_zero_iff.1 hm
      subst hnone
      exact Nat.le_of_eq (congrArg List.length (List.append_nil b))
  · intro h
    obtain ⟨more, rfl⟩ := List.prefix_of_prefix_length_le ha hb h
    rw [byteLength_append]
    exact Nat.le_add_right _ _

theorem eq_of_byteLength_eq (ha : a <+: line) (hb : b <+: line)
    (h : byteLength a = byteLength b) : a = b := by
  have hl := (byteLength_le_iff ha hb).1 (Nat.le_of_eq h)
  have hr := (byteLength_le_iff hb ha).1 (Nat.le_of_eq h.symm)
  exact (List.prefix_of_prefix_length_le ha hb hl).eq_of_length (Nat.le_antisymm hl hr)

end Starts

section Resolving
variable {line before : List Char} {column : Nat}

theorem charIndex_le_length (line : List Char) (column : Nat) :
    charIndex line column ≤ line.length := by
  induction line generalizing column with
  | nil => cases column <;> exact Nat.le_refl 0
  | cons c line ih =>
    rcases Nat.eq_zero_or_pos column with rfl | hc
    · simp
    · rw [charIndex_cons hc]
      exact Nat.succ_le_succ (ih _)

theorem length_take_charIndex (line : List Char) (column : Nat) :
    (line.take (charIndex line column)).length = charIndex line column :=
  List.length_take_of_le (charIndex_le_length line column)

theorem byteLength_le_byteOffset_iff (h : before <+: line) :
    byteLength before ≤ byteOffset line column ↔ before.length ≤ charIndex line column := by
  rw [byteOffset, byteLength_le_iff h (List.take_prefix _ line), length_take_charIndex]

theorem byteOffset_le_byteLength_iff (h : before <+: line) :
    byteOffset line column ≤ byteLength before ↔ charIndex line column ≤ before.length := by
  rw [byteOffset, byteLength_le_iff (List.take_prefix _ line) h, length_take_charIndex]

/-- A start of the line as long in bytes as the column is far is what stands before the column. -/
theorem take_charIndex_of_byteLength (h : before <+: line)
    (hb : byteLength before = byteOffset line column) :
    line.take (charIndex line column) = before :=
  (eq_of_byteLength_eq h (List.take_prefix _ line) hb).symm

end Resolving

end AlAssistant.Text
