import AlAssistant.Al.QuickFix

/-!
# The place of a declaration

Only the lines down to the use count. The last of them that opens a section or a procedure decides:
below a `var` line the declaration is added, and below a header it opens a section of its own at
the first `begin`, if there is one. Nothing else makes an edit.
-/
namespace AlAssistant.Al

open AlAssistant.Text

/-- A line that opens a section or a procedure. -/
def isAnchor (line : List Char) : Bool := isVarLine line || isHeader line

/-- The edits that declare a name below the lines down to its use. -/
inductive Declares (ending name type : List Char) : List (List Char) → TextEdit → Prop
  | inSection {above between : List (List Char)} {var : List Char} :
      isVarLine var = true → (∀ line ∈ between, isAnchor line = false) →
      Declares ending name type (above ++ var :: between)
        (insertionAt (above.length + 1) (declarationLine (indentation var) name type ending))
  | beforeBody {above head back : List (List Char)} {header start : List Char} :
      isHeader header = true → (∀ line ∈ head ++ start :: back, isAnchor line = false) →
      (∀ line ∈ head, isBeginLine line = false) → isBeginLine start = true →
      Declares ending name type (above ++ header :: (head ++ start :: back))
        (insertionAt (above.length + 1 + head.length)
          (indentation start ++ "var".toList ++ ending ++
            declarationLine (indentation start) name type ending))

section Anchors
variable {ls : List (List Char)} {line : List Char} {use anchor : Nat}

theorem asciiLower_of_isVarLine (h : isVarLine line = true) :
    asciiLower (trim line) = "var".toList := by
  simpa [isVarLine, sameIgnoringCase, asciiLower] using h

theorem isVarLine_of_isHeader (h : isHeader line = true) : isVarLine line = false := by
  have hl : ∀ start ∈ headerStarts, "var".toList.length < start.length := by decide
  obtain ⟨start, hs, hp⟩ := List.any_eq_true.1 h
  refine Bool.eq_false_iff.2 fun hv => ?_
  rw [isSome_dropStart?_iff, asciiLower_of_isVarLine hv] at hp
  exact absurd hp.length_le (Nat.not_le.2 (hl start hs))

/-- The way up ends at the last anchor that is not below the use. -/
theorem nearestAnchor?_eq_some_iff :
    nearestAnchor? ls use = some anchor ↔
      anchor ≤ use ∧ ls[anchor]?.any isAnchor = true ∧
        ∀ i, anchor < i → i ≤ use → ls[i]?.any isAnchor = false := by
  induction use with
  | zero =>
    rw [nearestAnchor?, List.head?_eq_getElem?]
    change (if ls[0]?.any isAnchor = true then some 0 else none) = some anchor ↔ _
    constructor
    · intro h
      split at h
      · next h₀ =>
        obtain rfl := Option.some.inj h
        exact ⟨Nat.le_refl 0, h₀, fun i hi hu => by omega⟩
      · cases h
    · rintro ⟨ha, h₀, -⟩
      obtain rfl := Nat.le_zero.1 ha
      rw [if_pos h₀]
  | succ use ih =>
    rw [nearestAnchor?]
    change (if ls[use + 1]?.any isAnchor = true then some (use + 1)
      else nearestAnchor? ls use) = some anchor ↔ _
    by_cases hu : ls[use + 1]?.any isAnchor = true
    · rw [if_pos hu, Option.some_inj]
      constructor
      · rintro rfl
        exact ⟨Nat.le_refl _, hu, fun i hi hl => by omega⟩
      · rintro ⟨ha, -, hn⟩
        refine Classical.byContradiction fun hne => ?_
        rw [hn (use + 1) (by omega) (Nat.le_refl _)] at hu
        cases hu
    · rw [if_neg hu, ih]
      constructor
      · rintro ⟨ha, hl, hn⟩
        refine ⟨by omega, hl, fun i hi hiu => ?_⟩
        rcases Nat.lt_or_eq_of_le hiu with hlt | rfl
        · exact hn i hi (by omega)
        · exact Bool.eq_false_iff.2 hu
      · rintro ⟨ha, hl, hn⟩
        have hne : anchor ≠ use + 1 := fun he => hu (he ▸ hl)
        exact ⟨by omega, hl, fun i hi hiu => hn i hi (by omega)⟩

/-- The anchor divides the lines down to the use. -/
theorem nearestAnchor?_eq_some_iff_take :
    nearestAnchor? ls use = some anchor ↔
      ∃ above line between, ls.take (use + 1) = above ++ line :: between ∧
        above.length = anchor ∧ isAnchor line = true ∧
        ∀ line ∈ between, isAnchor line = false := by
  rw [nearestAnchor?_eq_some_iff]
  have ht : ∀ i, i ≤ use → (ls.take (use + 1))[i]? = ls[i]? := fun i hi =>
    List.getElem?_take_of_lt (by omega)
  constructor
  · rintro ⟨ha, hl, hn⟩
    obtain ⟨line, hline, hl⟩ := (Option.any_eq_true _ _).1 hl
    rw [← ht anchor ha] at hline
    obtain ⟨hlen, hline⟩ := List.getElem?_eq_some_iff.1 hline
    refine ⟨(ls.take (use + 1)).take anchor, line, (ls.take (use + 1)).drop (anchor + 1), ?_, ?_,
      hl, fun other ho => ?_⟩
    · rw [← hline, ← List.drop_eq_getElem_cons, List.take_append_drop]
    · rw [List.length_take]
      omega
    · obtain ⟨i, ho⟩ := List.mem_iff_getElem?.1 ho
      rw [List.getElem?_drop] at ho
      obtain ⟨hi, -⟩ := List.getElem?_eq_some_iff.1 ho
      have hi : anchor + 1 + i < use + 1 := Nat.lt_of_lt_of_le hi (List.length_take_le _ _)
      rw [ht _ (by omega)] at ho
      exact (Option.any_eq_false _ _).1 (hn _ (by omega) (by omega)) other ho
  · rintro ⟨above, line, between, hs, rfl, hl, hn⟩
    have hle : above.length + 1 + between.length ≤ use + 1 := by
      have hlen := congrArg List.length hs
      simp only [List.length_take, List.length_append, List.length_cons] at hlen
      omega
    refine ⟨by omega, ?_, fun i hi hu => (Option.any_eq_false _ _).2 fun other ho => ?_⟩
    · rw [← ht _ (by omega), hs]
      simpa using hl
    · rw [← ht i hu, hs, List.getElem?_append_right (by omega),
        show i - above.length = i - above.length - 1 + 1 by omega, List.getElem?_cons_succ] at ho
      exact hn other (List.mem_of_getElem? ho)

/-- The first `begin` line divides the lines behind the header. -/
theorem bodyStart?_eq_some_iff {above behind : List (List Char)} {header : List Char} {body : Nat}
    (h : ls.take (use + 1) = above ++ header :: behind) :
    bodyStart? ls above.length use = some body ↔
      ∃ head start back, behind = head ++ start :: back ∧ above.length + 1 + head.length = body ∧
        (∀ line ∈ head, isBeginLine line = false) ∧ isBeginLine start = true := by
  have hd : (ls.take (use + 1)).drop (above.length + 1) = behind := by
    rw [h]
    simp
  rw [bodyStart?, hd, Option.map_eq_some_iff]
  constructor
  · rintro ⟨n, hf, rfl⟩
    obtain ⟨hn, hs, hf⟩ := List.findIdx?_eq_some_iff_getElem.1 hf
    refine ⟨behind.take n, behind[n], behind.drop (n + 1), ?_, ?_, fun line hl => ?_, hs⟩
    · rw [← List.drop_eq_getElem_cons, List.take_append_drop]
    · rw [List.length_take, Nat.min_eq_left (Nat.le_of_lt hn)]
    · obtain ⟨j, hj, rfl⟩ := List.mem_take_iff_getElem.1 hl
      exact Bool.eq_false_iff.2 (hf j (by omega))
  · rintro ⟨head, start, back, rfl, rfl, hf, hs⟩
    have hn : head.findIdx? isBeginLine = none := List.findIdx?_eq_none_iff.2 hf
    refine ⟨head.length, ?_, rfl⟩
    rw [List.findIdx?_append, hn, List.findIdx?_cons, if_pos hs]
    simp

end Anchors

section Edit
variable {ls : List (List Char)} {text name type : String} {use : Nat} {edit : TextEdit}

/-- A use below the last line counts as one on it. -/
theorem take_min_use (h : ls ≠ []) : ls.take (min use (ls.length - 1) + 1) = ls.take (use + 1) := by
  have hpos := List.length_pos_iff.2 h
  by_cases hu : use ≤ ls.length - 1
  · rw [Nat.min_eq_left hu]
  · rw [Nat.min_eq_right (by omega), List.take_of_length_le (by omega),
      List.take_of_length_le (by omega)]

theorem getElem?_of_take {above between : List (List Char)} {line : List Char} {n : Nat}
    (h : ls.take n = above ++ line :: between) : ls[above.length]? = some line := by
  have hs : ls = above ++ line :: (between ++ ls.drop n) := by
    rw [← List.cons_append, ← List.append_assoc, ← h, List.take_append_drop]
  rw [hs]
  simp

theorem getD_of_take {above between : List (List Char)} {line : List Char} {n : Nat}
    (h : ls.take n = above ++ line :: between) : ls[above.length]?.getD [] = line := by
  rw [getElem?_of_take h, Option.getD_some]

theorem getD_of_take_behind {above head back : List (List Char)} {header start : List Char}
    {n : Nat} (h : ls.take n = above ++ header :: (head ++ start :: back)) :
    ls[above.length + 1 + head.length]?.getD [] = start := by
  have ht : ls.take n = (above ++ header :: head) ++ start :: back := by rw [h]; simp
  have hl : (above ++ header :: head).length = above.length + 1 + head.length := by
    simp only [List.length_append, List.length_cons]
    omega
  rw [← hl, getD_of_take ht]

/-- An edit is offered exactly when it declares the name below the lines down to the use. -/
theorem declarationEdit?_eq_some_iff :
    declarationEdit? text use name type = some edit ↔
      Declares (lineEnding text.toList) name.toList type.toList
        ((lines text.toList).take (use + 1)) edit := by
  unfold declarationEdit?
  generalize lines text.toList = ls
  dsimp only
  by_cases hls : ls = []
  · subst hls
    refine iff_of_false (by simp) fun h => ?_
    generalize hv : ([] : List (List Char)).take (use + 1) = visible at h
    cases h <;> simp at hv
  rw [if_neg (by simpa using hls), ← take_min_use hls]
  generalize min use (ls.length - 1) = use
  constructor
  · intro h
    split at h
    · cases h
    · next anchor ha =>
      obtain ⟨above, line, between, ht, rfl, hl, hn⟩ := nearestAnchor?_eq_some_iff_take.1 ha
      rw [getD_of_take ht] at h
      split at h
      · next hv =>
        obtain rfl := Option.some.inj h
        rw [ht]
        exact .inSection hv hn
      · next hv =>
        have hh : isHeader line = true := by simpa [isAnchor, hv] using hl
        obtain ⟨body, hb, rfl⟩ := Option.map_eq_some_iff.1 h
        obtain ⟨head, start, back, rfl, rfl, hhead, hs⟩ := (bodyStart?_eq_some_iff ht).1 hb
        rw [getD_of_take_behind ht, ht]
        exact .beforeBody hh hn hhead hs
  · intro h
    generalize ht : ls.take (use + 1) = visible at h
    cases h with
    | @inSection above between var hv hn =>
      have ha : nearestAnchor? ls use = some above.length :=
        nearestAnchor?_eq_some_iff_take.2 ⟨above, var, between, ht, rfl, by simp [isAnchor, hv], hn⟩
      rw [ha]
      dsimp only
      rw [getD_of_take ht, if_pos hv]
    | @beforeBody above head back header start hh hn hhead hs =>
      have ha : nearestAnchor? ls use = some above.length :=
        nearestAnchor?_eq_some_iff_take.2 ⟨above, header, _, ht, rfl, by simp [isAnchor, hh], hn⟩
      have hb : bodyStart? ls above.length use = some (above.length + 1 + head.length) :=
        (bodyStart?_eq_some_iff ht).2 ⟨head, start, back, rfl, rfl, hhead, hs⟩
      rw [ha]
      dsimp only
      rw [getD_of_take ht, if_neg (by simp [isVarLine_of_isHeader hh]), hb, Option.map_some,
        getD_of_take_behind ht]

end Edit

end AlAssistant.Al
