import AlAssistant.Proofs.Xliff.Scan
import AlAssistant.Xliff.Insertion
import Mathlib.Data.List.TakeWhile

/-!
# An insertion as a list of replacements

The units of a text lie behind one another, each at a place of its own. An insertion is made of
replacements at most one to a unit, in order and apart from each other: what they do not cover
is copied. A replacement puts the value of the unit's own developer note into a new line below
the source, between the tags of an untranslated target, or into a target that closed itself. No
other text is removed, whatever the text looks like.
-/
namespace AlAssistant.Xliff

open AlAssistant.Text

/-- A unit of a text: where it begins, and what it reads. -/
structure UnitSpan where
  start : Nat
  text : List Char
deriving DecidableEq, Repr

def UnitSpan.stop (unit : UnitSpan) : Nat := unit.start + unit.text.length

/-- The unit that was found in a text that itself begins at `start`. -/
def Found.unitSpan (start : Nat) (found : Found) : UnitSpan where
  start := start + found.before.length
  text := found.element.render unitName

/-- The units of a text that itself begins at `start`. -/
def unitSpansFrom (start : Nat) (text : List Char) : List UnitSpan :=
  match _h : find? false unitName text with
  | none => []
  | some found =>
    found.unitSpan start :: unitSpansFrom (found.unitSpan start).stop found.after
termination_by text.length
decreasing_by exact find?_length _h

def unitSpans (text : List Char) : List UnitSpan := unitSpansFrom 0 text

/-- What stands from `start` to `stop` gives way to `inserted`. -/
structure Replacement where
  start : Nat
  stop : Nat
  inserted : List Char
deriving DecidableEq, Repr

/-- The text from `cursor` on, with replacements made one behind another. -/
def Replacement.applyFrom (text : List Char) : Nat → List Replacement → List Char
  | cursor, [] => text.drop cursor
  | cursor, r :: rs =>
    (text.drop cursor).take (r.start - cursor) ++ r.inserted ++ applyFrom text r.stop rs

/-- The change of one unit. -/
structure UnitFill where
  unit : UnitSpan
  splice : Splice
deriving DecidableEq, Repr

def UnitFill.replacement (fill : UnitFill) : Replacement where
  start := fill.unit.start + fill.splice.before.length
  stop := fill.unit.start + fill.splice.before.length + fill.splice.removed.length
  inserted := fill.splice.inserted

/-- The change that a unit of a text undergoes, if it does. -/
def unitFill? (code ending text : List Char) (unit : UnitSpan) : Option UnitFill :=
  (unitSplice? code ending (afterLast '\n' (text.take unit.start)) unit.text).map (⟨unit, ·⟩)

def unitFills (code ending text : List Char) (units : List UnitSpan) : List UnitFill :=
  units.filterMap (unitFill? code ending text)

section Spans
variable {start : Nat} {text : List Char}

theorem start_le_of_mem_unitSpansFrom {unit : UnitSpan} (h : unit ∈ unitSpansFrom start text) :
    start ≤ unit.start := by
  fun_induction unitSpansFrom start text with
  | case1 => cases h
  | case2 start text found hf ih =>
    rcases List.mem_cons.1 h with rfl | h
    · exact Nat.le_add_right ..
    · have hs := ih h
      simp only [UnitSpan.stop, Found.unitSpan] at hs
      omega

/-- Units do not overlap and stand in the order in which they are found. -/
theorem pairwise_unitSpansFrom :
    (unitSpansFrom start text).Pairwise fun a b => a.stop ≤ b.start := by
  fun_induction unitSpansFrom start text with
  | case1 => exact .nil
  | case2 start text found hf ih =>
    exact .cons (fun b hb => start_le_of_mem_unitSpansFrom hb) ih

/-- A unit is the rendering of an element and stands where it was found. -/
theorem at_of_mem_unitSpansFrom {unit : UnitSpan} (done : List Char)
    (hs : start = done.length) (h : unit ∈ unitSpansFrom start text) :
    (∃ element, unit.text = Element.render unitName element) ∧
      ∃ before after, done ++ text = before ++ unit.text ++ after ∧
        before.length = unit.start := by
  fun_induction unitSpansFrom start text generalizing done with
  | case1 => cases h
  | case2 start text found hf ih =>
    have ht := text_of_find? hf
    rcases List.mem_cons.1 h with rfl | h
    · refine ⟨⟨_, rfl⟩, done ++ found.before, found.after, ?_, ?_⟩
      · simp [← ht, Found.text, Found.unitSpan]
      · simp [hs, Found.unitSpan]
    · have hd : (found.unitSpan start).stop =
          (done ++ found.before ++ found.element.render unitName).length := by
        simp only [hs, Found.unitSpan, UnitSpan.stop, List.length_append]
      have hr := ih _ hd h
      rw [← ht]
      simpa only [Found.text, List.append_assoc] using hr

end Spans

section Applying
variable {text : List Char} {cursor next : Nat} {rs : List Replacement}

/-- What lies before the first replacement is copied. -/
theorem Replacement.applyFrom_skip (hc : cursor ≤ next) (hr : ∀ r ∈ rs, next ≤ r.start) :
    applyFrom text cursor rs =
      (text.drop cursor).take (next - cursor) ++ applyFrom text next rs := by
  have hd : text.drop next = (text.drop cursor).drop (next - cursor) := by
    rw [List.drop_drop]
    congr 1
    omega
  cases rs with
  | nil =>
    simp only [applyFrom]
    rw [hd, List.take_append_drop]
  | cons r rs =>
    have hn : next ≤ r.start := hr r List.mem_cons_self
    have hk : r.start - cursor = (next - cursor) + (r.start - next) := by omega
    simp only [applyFrom]
    rw [hk, List.take_add, hd]
    simp only [List.append_assoc]

/-- A unit without a replacement is copied. -/
theorem Replacement.applyFrom_kept {before kept after : List Char}
    (ht : text = before ++ kept ++ after) (hc : cursor ≤ before.length)
    (hr : ∀ r ∈ rs, (before ++ kept).length ≤ r.start) :
    applyFrom text cursor rs =
      before.drop cursor ++ kept ++ applyFrom text (before ++ kept).length rs := by
  rw [applyFrom_skip (by rw [List.length_append]; omega) hr, ← List.drop_take, ht, List.take_left,
    List.drop_append_of_le_length hc]

/-- A replacement leaves the rest of its unit as it is. -/
theorem UnitFill.applyFrom_replacement {fill : UnitFill} {before after : List Char}
    (ht : text = before ++ fill.splice.old ++ after) (hb : before.length = fill.unit.start)
    (hc : cursor ≤ before.length) (hr : ∀ r ∈ rs, (before ++ fill.splice.old).length ≤ r.start) :
    Replacement.applyFrom text cursor (fill.replacement :: rs) =
      before.drop cursor ++ fill.splice.new ++
        Replacement.applyFrom text (before ++ fill.splice.old).length rs := by
  obtain ⟨unit, s⟩ := fill
  change before.length = unit.start at hb
  simp only [Splice.old] at ht hr ⊢
  have hstart : (text.drop cursor).take (unit.start + s.before.length - cursor) =
      before.drop cursor ++ s.before := by
    have hk : text.take (unit.start + s.before.length) = before ++ s.before := by
      rw [ht, List.append_assoc, List.append_assoc, List.append_assoc, ← List.append_assoc]
      exact List.take_left' (by rw [List.length_append, hb])
    rw [← List.drop_take, hk, List.drop_append_of_le_length hc]
  have hstop : text.drop (unit.start + s.before.length + s.removed.length) =
      s.after ++ after := by
    have hk : text = before ++ s.before ++ s.removed ++ (s.after ++ after) := by
      simp only [ht, List.append_assoc]
    rw [hk]
    exact List.drop_left' (by simp only [List.length_append, hb])
  have hskip : Replacement.applyFrom text (unit.start + s.before.length + s.removed.length) rs =
      s.after ++
        Replacement.applyFrom text (before ++ (s.before ++ s.removed ++ s.after)).length rs := by
    rw [Replacement.applyFrom_skip _ hr, hstop]
    · congr 1
      apply List.take_left'
      simp only [List.length_append]
      omega
    · simp only [List.length_append]
      omega
  simp only [UnitFill.replacement, Replacement.applyFrom, Splice.new]
  rw [hstart, hskip]
  simp only [List.append_assoc]

end Applying

theorem afterLast_append_afterLast (separator : Char) (a b : List Char) :
    afterLast separator (afterLast separator a ++ b) = afterLast separator (a ++ b) := by
  unfold afterLast
  rw [List.reverse_append, List.reverse_append, List.reverse_reverse, List.takeWhile_append,
    List.takeWhile_append, List.takeWhile_idem]

section Refinement
variable {code ending full done text : List Char}

theorem unitFills_unitSpansFrom_le {start : Nat} :
    ∀ f ∈ unitFills code ending full (unitSpansFrom start text),
      start ≤ f.replacement.start := by
  intro f hf
  obtain ⟨unit, hu, hs⟩ := List.mem_filterMap.1 hf
  obtain ⟨s, _, rfl⟩ := Option.map_eq_some_iff.1 hs
  have hle := start_le_of_mem_unitSpansFrom hu
  simp only [UnitFill.replacement]
  omega

theorem insertFrom_of_none {lineBefore : List Char} (h : find? false unitName text = none) :
    insertFrom code ending lineBefore text = ⟨text, 0⟩ := by
  rw [insertFrom]
  split
  · rfl
  · next hf => simp [h] at hf

theorem insertFrom_of_some {lineBefore : List Char} {found : Found}
    (h : find? false unitName text = some found) :
    insertFrom code ending lineBefore text =
      let unitText := found.element.render unitName
      let above := afterLast '\n' (lineBefore ++ found.before)
      ((insertFrom code ending (afterLast '\n' (above ++ unitText)) found.after).behindUnit
        unitText (unitSplice? code ending above unitText)).behind found.before := by
  rw [insertFrom]
  split
  · next hf => simp [h] at hf
  · next hf =>
    rw [h] at hf
    cases hf
    rfl

/-- Inserting unit by unit is replacing all at once. -/
theorem insertFrom_eq_applyFrom {start : Nat} (hs : start = done.length) (h : full = done ++ text) :
    insertFrom code ending (afterLast '\n' done) text =
      ⟨Replacement.applyFrom full start
          ((unitFills code ending full (unitSpansFrom start text)).map (·.replacement)),
        (unitFills code ending full (unitSpansFrom start text)).length⟩ := by
  fun_induction unitSpansFrom start text generalizing done with
  | case1 start text hf =>
    rw [insertFrom_of_none hf, h, hs]
    simp [unitFills, Replacement.applyFrom]
  | case2 start text found hf ih =>
    have ht := text_of_find? hf
    generalize hu : found.unitSpan start = unit at ih ⊢
    have htext : found.element.render unitName = unit.text := by rw [← hu, Found.unitSpan]
    have hfull : full = done ++ found.before ++ unit.text ++ found.after := by
      rw [h, ← ht, ← htext]
      simp only [Found.text, List.append_assoc]
    have hfirst : (done ++ found.before).length = unit.start := by
      rw [← hu, Found.unitSpan, List.length_append, hs]
    have hstop : (done ++ found.before ++ unit.text).length = unit.stop := by
      rw [List.length_append, hfirst, UnitSpan.stop]
    have habove : full.take unit.start = done ++ found.before := by
      rw [hfull, List.append_assoc, List.take_left' hfirst]
    have hcopied : (done ++ found.before).drop start = found.before := List.drop_left' hs.symm
    have hle : start ≤ (done ++ found.before).length := by
      rw [hs, List.length_append]
      omega
    have hlater : ∀ r ∈ (unitFills code ending full
        (unitSpansFrom unit.stop found.after)).map (·.replacement),
        (done ++ found.before ++ unit.text).length ≤ r.start := by
      intro r hr
      obtain ⟨f, hf, rfl⟩ := List.mem_map.1 hr
      rw [hstop]
      exact unitFills_unitSpansFrom_le f hf
    rw [insertFrom_of_some hf, htext]
    simp only [afterLast_append_afterLast, ih hstop.symm hfull]
    cases hsplice : unitSplice? code ending (afterLast '\n' (done ++ found.before)) unit.text with
    | none =>
      have hfill : unitFill? code ending full unit = none := by
        rw [unitFill?, habove, hsplice, Option.map_none]
      simp only [unitFills, List.filterMap_cons, hfill] at hlater ⊢
      rw [Replacement.applyFrom_kept hfull hle hlater, hcopied, hstop]
      simp only [Insertion.behindUnit, Insertion.behind, List.append_assoc]
    | some s =>
      have hfill : unitFill? code ending full unit = some ⟨unit, s⟩ := by
        rw [unitFill?, habove, hsplice, Option.map_some]
      rw [← old_of_unitSplice? hsplice] at hfull hlater hstop
      simp only [unitFills, List.filterMap_cons, hfill, List.map_cons] at hlater ⊢
      rw [UnitFill.applyFrom_replacement hfull hfirst hle hlater, hcopied, hstop]
      simp only [Insertion.behindUnit, Insertion.behind, List.append_assoc, List.length_cons]

end Refinement

end AlAssistant.Xliff
