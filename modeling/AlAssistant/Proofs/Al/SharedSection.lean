import AlAssistant.Proofs.Al.DeclaredLine
import AlAssistant.Proofs.Text.Ascii
import AlAssistant.Proofs.Text.Trim

/-!
# One section for all declarations

A declaration is taken for neither a `var` line nor a header. After the first declaration the use
is therefore served by one `var` line, which was there before or was added with the declaration,
and every further declaration for that use goes directly below this line.
-/
namespace AlAssistant.Al

open AlAssistant.Text

/-- How many lines an edit inserts. -/
def insertedLines (edit : TextEdit) : Nat := (lines edit.newText.toList).length

/-- Names and types that are declared as a single line. -/
structure IsPlain (name type : String) : Prop where
  name_blank : name.toList.any isBlank = false
  type_feed : '\n' ∉ type.toList

/-- One declaration after the other for a use that moves down with every line inserted: the edits
that are made, and the text in the end. -/
def declareAll? (text : String) (use : Nat) :
    List (String × String) → Option (List TextEdit × String)
  | [] => some ([], text)
  | (name, type) :: more => do
    let edit ← declarationEdit? text use name type
    let (edits, final) ← declareAll? (edit.apply text) (use + insertedLines edit) more
    return (edit :: edits, final)

/-- A use is served by a `var` line if that line is the last to open a section or a procedure. -/
def ServedBy (ls : List (List Char)) (use var : Nat) (line : List Char) : Prop :=
  isVarLine line = true ∧ ∃ above between, ls.take (use + 1) = above ++ line :: between ∧
    above.length = var ∧ ∀ other ∈ between, isAnchor other = false

section Lines
variable {indent body : List Char} {name type : String}

theorem IsPlain.isBlank_of_mem {c : Char} (h : IsPlain name type) (hc : c ∈ name.toList) :
    isBlank c = false :=
  Bool.eq_false_iff.2 (List.any_eq_false.1 h.name_blank c hc)

theorem all_indentation (line : List Char) : (indentation line).all isBlank = true :=
  List.all_takeWhile

theorem isVarLine_indented (hi : indent.all isBlank = true) :
    isVarLine (indent ++ "var".toList) = true := by
  rw [isVarLine, trim_indented hi (by decide) (by decide)]
  decide

theorem blank_of_toLower {c : Char} (h : c.toLower = ' ') : isBlank c = true := by
  by_cases hc : c.toNat < 0x80
  · exact forall_toNat_lt (P := fun c => c.toLower = ' ' → isBlank c = true) (by decide) hc h
  · rw [toLower_of_le (Nat.le_of_not_lt hc)] at h
    exact h ▸ rfl

theorem trim_declaredLine (hi : indent.all isBlank = true) (h : IsPlain name type) :
    trim (declaredLine indent name.toList type.toList) =
      name.toList ++ ": ".toList ++ type.toList ++ ";".toList := by
  have hd : declaredLine indent name.toList type.toList =
      (indent ++ "    ".toList) ++ (name.toList ++ ": ".toList ++ type.toList ++ ";".toList) := by
    simp [declaredLine]
  have hb : "    ".toList.all isBlank = true := by decide
  rw [hd]
  refine trim_indented (by rw [List.all_append, hi, hb, Bool.and_self]) ?_ ?_
  · cases hn : name.toList with
    | nil => rfl
    | cons c rest => exact h.isBlank_of_mem (by simp [hn])
  · rw [List.getLast?_append]
    rfl

/-- The semicolon tells a declaration from a `var` line, and the colon from a header: a header
has a blank, and no blank stands before the colon. -/
theorem isAnchor_declaredLine (hi : indent.all isBlank = true) (h : IsPlain name type) :
    isAnchor (declaredLine indent name.toList type.toList) = false := by
  have hlower : asciiLower (trim (declaredLine indent name.toList type.toList)) =
      asciiLower name.toList ++ ':' :: ' ' :: (asciiLower type.toList ++ [';']) := by
    rw [trim_declaredLine hi h]
    simp [asciiLower]
  have hvar : isVarLine (declaredLine indent name.toList type.toList) = false := by
    refine Bool.eq_false_iff.2 fun hv => ?_
    have hm : ';' ∈ "var".toList := by
      rw [← asciiLower_of_isVarLine hv, hlower]
      simp
    exact absurd hm (by decide)
  have hheader : isHeader (declaredLine indent name.toList type.toList) = false := by
    refine Bool.eq_false_iff.2 fun hh => ?_
    have hstarts : ∀ start ∈ headerStarts, ':' ∉ start ∧ ' ' ∈ start := by decide
    obtain ⟨start, hs, hp⟩ := List.any_eq_true.1 hh
    rw [isSome_dropStart?_iff, hlower] at hp
    obtain ⟨hcolon, hblank⟩ := hstarts start hs
    obtain ⟨c, hc, hl⟩ := List.mem_map.1 ((prefix_of_notMem hcolon hp).subset hblank)
    exact absurd (blank_of_toLower hl) (by simp [h.isBlank_of_mem hc])
  rw [isAnchor, hvar, hheader]
  rfl

theorem lines_plain (hi : '\n' ∉ indent) (h : IsPlain name type) :
    lines (declaredLine indent name.toList type.toList) =
      [declaredLine indent name.toList type.toList] :=
  lines_declaredLine hi (fun hm => absurd (h.isBlank_of_mem hm) (by decide)) h.type_feed

end Lines

section Insertion
variable {text : String} {use line : Nat} {added : List Char}

theorem insertedLines_insertionAt (line : Nat) (added : List Char) :
    insertedLines (insertionAt line added) = (lines added).length := by
  simp [insertedLines, insertionAt]

/-- The lines down to the use, after whole lines are inserted among them and the use moves down. -/
theorem take_lines_apply_insertionAt (hw : IsWhole text.toList) (ha : IsWhole added)
    (hl : line ≤ ((lines text.toList).take (use + 1)).length) :
    (lines ((insertionAt line added).apply text).toList).take
        (use + insertedLines (insertionAt line added) + 1) =
      ((lines text.toList).take (use + 1)).take line ++ lines added ++
        ((lines text.toList).take (use + 1)).drop line := by
  have hcount := length_splitOnChar_feed text.toList
  rw [if_pos hw] at hcount
  have hle : line < (splitOnChar '\n' text.toList).length := by
    rw [List.length_take] at hl
    omega
  rw [lines_apply_insertionAt hle ha, insertedLines_insertionAt]
  generalize lines text.toList = ls at hl
  generalize hv : ls.take (use + 1) = visible at hl
  have hs : ls = visible ++ ls.drop (use + 1) := by rw [← hv, List.take_append_drop]
  have hlen : visible.length = min (use + 1) ls.length := by rw [← hv, List.length_take]
  have hrest : (ls.drop (use + 1)).length = ls.length - (use + 1) := List.length_drop
  generalize ls.drop (use + 1) = rest at hs hrest
  rw [hs, List.take_append_of_le_length hl, List.drop_append_of_le_length hl, ← List.append_assoc]
  have hnew : (visible.take line ++ lines added ++ visible.drop line).length =
      visible.length + (lines added).length := by
    simp only [List.length_append, List.length_take, List.length_drop]
    omega
  rw [List.take_append, List.take_of_length_le (by omega), hnew]
  rw [List.append_right_eq_self, List.take_eq_nil_iff]
  -- lines below the use exist only if the use is one of the lines, and then none of them comes in
  by_cases hn : rest = []
  · exact .inr hn
  · have hpos := List.length_pos_iff.2 hn
    exact .inl (by omega)

theorem isWhole_apply_insertionAt (hw : IsWhole text.toList) (ha : IsWhole added) :
    IsWhole ((insertionAt line added).apply text).toList := by
  rw [toList_apply_insertionAt]
  rw [← List.take_append_drop (positionIndex text.toList ⟨line, 0⟩) text.toList] at hw
  exact hw.insert ha

theorem countP_lines_apply_insertionAt (hw : IsWhole text.toList) (ha : IsWhole added)
    (hl : line ≤ (lines text.toList).length) (test : List Char → Bool) :
    (lines ((insertionAt line added).apply text).toList).countP test =
      (lines text.toList).countP test + (lines added).countP test := by
  have hle : line < (splitOnChar '\n' text.toList).length := by
    rw [length_splitOnChar_feed, if_pos hw]
    omega
  have hs := congrArg (List.countP test) (List.take_append_drop line (lines text.toList))
  rw [List.countP_append] at hs
  rw [lines_apply_insertionAt hle ha, List.countP_append, List.countP_append]
  omega

end Insertion

section Served
variable {text name type : String} {use var : Nat} {line : List Char} {edit : TextEdit}

theorem ServedBy.getElem? (h : ServedBy (lines text.toList) use var line) :
    (lines text.toList)[var]? = some line := by
  obtain ⟨-, above, between, ht, rfl, -⟩ := h
  exact getElem?_of_take ht

theorem ServedBy.declarationEdit? (h : ServedBy (lines text.toList) use var line)
    (name type : String) :
    declarationEdit? text use name type = some (insertionAt (var + 1)
      (declarationLine (indentation line) name.toList type.toList (lineEnding text.toList))) := by
  obtain ⟨hv, above, between, ht, rfl, hn⟩ := h
  rw [declarationEdit?_eq_some_iff, ht]
  exact .inSection hv hn

theorem exists_insertion (h : declarationEdit? text use name type = some edit) :
    ∃ line added, edit = insertionAt line added ∧ IsWhole added ∧
      line ≤ (lines text.toList).length := by
  have hd := declarationEdit?_eq_some_iff.1 h
  have hlen := List.length_take_le' (use + 1) (lines text.toList)
  generalize (lines text.toList).take (use + 1) = visible at hd hlen
  cases hd with
  | inSection =>
    refine ⟨_, _, rfl, isWhole_declarationLine _, Nat.le_trans ?_ hlen⟩
    simp
  | beforeBody =>
    refine ⟨_, _, rfl, (isWhole_append_lineEnding _ _).append (isWhole_declarationLine _),
      Nat.le_trans ?_ hlen⟩
    simp only [List.length_append, List.length_cons]
    omega

/-- The `var` line that serves a use serves it after the declaration too. -/
theorem ServedBy.declared (hw : IsWhole text.toList) (hp : IsPlain name type)
    (h : ServedBy (lines text.toList) use var line) :
    let edit := insertionAt (var + 1)
      (declarationLine (indentation line) name.toList type.toList (lineEnding text.toList))
    ServedBy (lines (edit.apply text).toList) (use + insertedLines edit) var line := by
  have hm := feed_notMem_indentation (List.mem_of_getElem? h.getElem?)
  obtain ⟨hv, above, between, ht, rfl, hn⟩ := h
  have hs : above ++ line :: between = (above ++ [line]) ++ between := by simp
  have hlen : above.length + 1 = (above ++ [line]).length := by simp
  refine ⟨hv, above, declaredLine (indentation line) name.toList type.toList :: between, ?_, rfl,
    List.forall_mem_cons.2
      ⟨isAnchor_declaredLine (all_indentation line) hp, hn⟩⟩
  rw [take_lines_apply_insertionAt hw (isWhole_declarationLine _) (by rw [ht]; simp), ht,
    lines_declarationLine, lines_plain hm hp, hs, hlen, List.take_left, List.drop_left]
  simp

theorem exists_servedBy (hw : IsWhole text.toList) (hp : IsPlain name type)
    (h : declarationEdit? text use name type = some edit) :
    ∃ var line,
      (edit.range = .caret ⟨var + 1, 0⟩ ∧ (lines text.toList)[var]? = some line ∨
        edit.range = .caret ⟨var, 0⟩ ∧ (lines edit.newText.toList).head? = some line) ∧
      ServedBy (lines (edit.apply text).toList) (use + insertedLines edit) var line := by
  have hd := declarationEdit?_eq_some_iff.1 h
  generalize ht : (lines text.toList).take (use + 1) = visible at hd
  cases hd with
  | @inSection above between var hv hn =>
    have hs : ServedBy (lines text.toList) use above.length var :=
      ⟨hv, above, between, ht, rfl, hn⟩
    exact ⟨above.length, var, .inl ⟨rfl, hs.getElem?⟩, hs.declared hw hp⟩
  | @beforeBody above head back header start hh hn hhead hstart =>
    have hm : start ∈ (lines text.toList).take (use + 1) := by simp [ht]
    have hi : '\n' ∉ indentation start := feed_notMem_indentation (List.mem_of_mem_take hm)
    have hblank := all_indentation start
    have hs : above ++ header :: (head ++ start :: back) =
        (above ++ header :: head) ++ start :: back := by simp
    have hlen : above.length + 1 + head.length = (above ++ header :: head).length := by
      simp only [List.length_append, List.length_cons]
      omega
    have hadded : lines (indentation start ++ "var".toList ++ lineEnding text.toList ++
        declarationLine (indentation start) name.toList type.toList (lineEnding text.toList)) =
        [indentation start ++ "var".toList,
          declaredLine (indentation start) name.toList type.toList] := by
      rw [lines_section hi, lines_plain hi hp]
    have hbelow : ∀ line ∈
        declaredLine (indentation start) name.toList type.toList :: start :: back,
        isAnchor line = false :=
      List.forall_mem_cons.2 ⟨isAnchor_declaredLine hblank hp, fun line hl =>
        hn line (List.mem_append_right head hl)⟩
    refine ⟨above.length + 1 + head.length, indentation start ++ "var".toList, .inr ⟨rfl, ?_⟩,
      isVarLine_indented hblank, above ++ header :: head, _, ?_, hlen.symm, hbelow⟩
    · rw [insertionAt, String.toList_ofList, hadded, List.head?_cons]
    · rw [take_lines_apply_insertionAt hw
        ((isWhole_append_lineEnding _ _).append (isWhole_declarationLine _))
        (by rw [ht, hs, hlen]; simp), ht, hadded, hs, hlen, List.take_left, List.drop_left]
      simp

/-- Every declaration for a use that has its `var` line goes below this line, and the text gets no
other `var` line. -/
theorem ServedBy.declareAll? (hw : IsWhole text.toList)
    (h : ServedBy (lines text.toList) use var line) {more : List (String × String)}
    (hm : ∀ declaration ∈ more, IsPlain declaration.1 declaration.2) :
    ∃ edits final, declareAll? text use more = some (edits, final) ∧ edits.length = more.length ∧
      (∀ edit ∈ edits, edit.range = .caret ⟨var + 1, 0⟩) ∧
      (lines final.toList)[var]? = some line ∧
      (lines final.toList).countP isVarLine = (lines text.toList).countP isVarLine := by
  -- over all texts and uses, since both have moved on when the next declaration is made
  induction more generalizing text use with
  | nil => exact ⟨[], text, rfl, rfl, by simp, h.getElem?, rfl⟩
  | cons declaration more ih =>
    obtain ⟨name, type⟩ := declaration
    obtain ⟨hp, hm⟩ := List.forall_mem_cons.1 hm
    have hadded : IsWhole (declarationLine (indentation line) name.toList type.toList
        (lineEnding text.toList)) := isWhole_declarationLine _
    have hvar : isVarLine (declaredLine (indentation line) name.toList type.toList) = false :=
      (Bool.or_eq_false_iff.1 (isAnchor_declaredLine (all_indentation line) hp)).1
    have hline := h.getElem?
    have hi := feed_notMem_indentation (List.mem_of_getElem? hline)
    obtain ⟨hl, -⟩ := List.getElem?_eq_some_iff.1 hline
    obtain ⟨edits, final, hr, hlen, he, hf, hc⟩ :=
      ih (isWhole_apply_insertionAt hw hadded) (h.declared hw hp) hm
    refine ⟨insertionAt (var + 1) (declarationLine (indentation line) name.toList type.toList
      (lineEnding text.toList)) :: edits, final, ?_, congrArg (· + 1) hlen,
      List.forall_mem_cons.2 ⟨rfl, he⟩, hf, ?_⟩
    · rw [Al.declareAll?, h.declarationEdit? name type]
      simp only [Option.bind_eq_bind, Option.bind_some, hr]
      rfl
    · rw [hc, countP_lines_apply_insertionAt hw hadded hl, lines_declarationLine, lines_plain hi hp]
      simp [hvar]

/-- After a first declaration one `var` line serves the use: that below which the declaration was
added, or that of the section which was opened for it. Whatever is declared next goes directly below
this line, and a run of declarations never opens a section. -/
theorem declarations_share_section (hw : IsWhole text.toList) (hp : IsPlain name type)
    (h : declarationEdit? text use name type = some edit) :
    ∃ var line, isVarLine line = true ∧
      (edit.range = .caret ⟨var + 1, 0⟩ ∧ (lines text.toList)[var]? = some line ∨
        edit.range = .caret ⟨var, 0⟩ ∧ (lines edit.newText.toList).head? = some line) ∧
      let new := edit.apply text
      let moved := use + insertedLines edit
      (lines new.toList).length = (lines text.toList).length + insertedLines edit ∧
      (lines new.toList)[var]? = some line ∧
      (∀ name type, declarationEdit? new moved name type = some (insertionAt (var + 1)
        (declarationLine (indentation line) name.toList type.toList (lineEnding new.toList)))) ∧
      ∀ more : List (String × String),
        (∀ declaration ∈ more, IsPlain declaration.1 declaration.2) →
        ∃ edits final, declareAll? new moved more = some (edits, final) ∧
          edits.length = more.length ∧ (∀ edit ∈ edits, edit.range = .caret ⟨var + 1, 0⟩) ∧
          (lines final.toList)[var]? = some line ∧
          (lines final.toList).countP isVarLine = (lines new.toList).countP isVarLine := by
  obtain ⟨var, line, hplace, hs⟩ := exists_servedBy hw hp h
  obtain ⟨i, added, rfl, ha, hi⟩ := exists_insertion h
  have hlen := countP_lines_apply_insertionAt hw ha hi fun _ => true
  rw [List.countP_true, ← insertedLines_insertionAt i added] at hlen
  exact ⟨var, line, hs.1, hplace, hlen, hs.getElem?, hs.declarationEdit?, fun more hm =>
    hs.declareAll? (isWhole_apply_insertionAt hw ha) hm⟩

end Served

/-- A use below the text opens a section, and two more declarations join the first one. -/
theorem declarations_share_section_opened :
    let text := "local procedure Sum()\r\n  begin\r\n    Total += Item;\r\n  end;\r\n"
    ∃ edit edits final, declarationEdit? text 9 "Total" "Decimal" = some edit ∧
      edit.range = .caret ⟨1, 0⟩ ∧
      declareAll? (edit.apply text) (9 + insertedLines edit)
        [("Item", "Decimal"), ("Customer", "Record Customer")] = some (edits, final) ∧
      ∀ edit ∈ edits, edit.range = .caret ⟨2, 0⟩ := by
  intro text
  have hedit : declarationEdit? text 9 "Total" "Decimal" =
      some ⟨.caret ⟨1, 0⟩, "  var\r\n      Total: Decimal;\r\n"⟩ := by decide +kernel
  have hw : IsWhole text.toList := by decide +kernel
  have hfirst : (lines text.toList)[0]?.any isVarLine = false := by decide +kernel
  obtain ⟨var, line, hv, hplace, -, -, -, hmore⟩ :=
    declarations_share_section hw ⟨by decide, by decide⟩ hedit
  have hplain : ∀ declaration ∈ [("Item", "Decimal"), ("Customer", "Record Customer")],
      IsPlain declaration.1 declaration.2 :=
    List.forall_mem_cons.2 ⟨⟨by decide, by decide⟩,
      List.forall_mem_singleton.2 ⟨by decide, by decide⟩⟩
  obtain ⟨edits, final, hr, -, he, -⟩ := hmore _ hplain
  obtain rfl : var = 1 := by
    rcases hplace with ⟨hr, hl⟩ | ⟨hr, -⟩
    · obtain rfl : var = 0 := by simpa [Range.caret] using hr
      rw [hl, Option.any_some, hv] at hfirst
      cases hfirst
    · simpa [Range.caret, eq_comm] using hr
  exact ⟨_, edits, final, hedit, rfl, hr, he⟩

end AlAssistant.Al
