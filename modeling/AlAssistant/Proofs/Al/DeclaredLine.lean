import AlAssistant.Proofs.Al.Place
import AlAssistant.Proofs.Text.Lines

/-!
# Lines with a declaration

A declaration comes as whole lines at the start of a line, so the other lines stay as they are:
it stands below a `var` line, or in a section of its own above a `begin`. There is one exception.
Below a `var` line that ends the text without a line feed there is no line to insert at, and the
declaration is glued to it.
-/
namespace AlAssistant.Al

open AlAssistant.Text

/-- A declaration without the ending of its line. -/
def declaredLine (indent name type : List Char) : List Char :=
  indent ++ "    ".toList ++ name ++ ": ".toList ++ type ++ ";".toList

section Inserted
variable {indent name type : List Char}

theorem declarationLine_eq (ending : List Char) :
    declarationLine indent name type ending = declaredLine indent name type ++ ending := rfl

theorem isWhole_declarationLine (text : List Char) :
    IsWhole (declarationLine indent name type (lineEnding text)) :=
  isWhole_append_lineEnding _ text

/-- Whether its line is ended or not, a declaration that follows `front` ends that line. -/
theorem lines_append_declarationLine (front text : List Char) :
    lines (front ++ declarationLine indent name type (lineEnding text)) =
      lines (front ++ declaredLine indent name type) := by
  have hd : front ++ declaredLine indent name type =
      front ++ (indent ++ "    ".toList ++ name ++ ": ".toList ++ type) ++ [';'] :=
    (List.append_assoc _ _ _).symm
  rw [declarationLine_eq, ← List.append_assoc, hd,
    lines_append_lineEnding (by decide) (by decide)]

theorem lines_declarationLine (text : List Char) :
    lines (declarationLine indent name type (lineEnding text)) =
      lines (declaredLine indent name type) :=
  lines_append_declarationLine [] text

theorem lines_declaredLine (hi : '\n' ∉ indent) (hn : '\n' ∉ name) (ht : '\n' ∉ type) :
    lines (declaredLine indent name type) = [declaredLine indent name type] := by
  refine lines_of_notMem ?_ ?_
  · simp [declaredLine, hi, hn, ht]
  · simp [declaredLine]

/-- A new section is its `var` line and the declaration. -/
theorem lines_section (hi : '\n' ∉ indent) (text : List Char) :
    lines (indent ++ "var".toList ++ lineEnding text ++
        declarationLine indent name type (lineEnding text)) =
      (indent ++ "var".toList) :: lines (declaredLine indent name type) := by
  have hv : '\n' ∉ indent ++ "var".toList := by simp [hi]
  have hr : (indent ++ "var".toList).getLast? ≠ some '\r' := by simp
  rw [lines_append (isWhole_append_lineEnding _ text), lines_line_lineEnding hv hr,
    lines_declarationLine]
  rfl

theorem feed_notMem_indentation {text line : List Char} (h : line ∈ lines text) :
    '\n' ∉ indentation line :=
  fun hm => feed_notMem_of_mem_lines h ((List.takeWhile_prefix _).subset hm)

end Inserted

section Insertion
variable {text : String} {line : Nat} {added : List Char}

theorem toList_apply_insertionAt (line : Nat) (added : List Char) (text : String) :
    ((insertionAt line added).apply text).toList =
      text.toList.take (positionIndex text.toList ⟨line, 0⟩) ++ added ++
        text.toList.drop (positionIndex text.toList ⟨line, 0⟩) := by
  simp [TextEdit.apply, insertionAt, Range.caret]

/-- Whole lines that are inserted at a line keep the others as they are. -/
theorem lines_apply_insertionAt (h : line < (splitOnChar '\n' text.toList).length)
    (hw : IsWhole added) :
    lines ((insertionAt line added).apply text).toList =
      (lines text.toList).take line ++ lines added ++ (lines text.toList).drop line := by
  rw [toList_apply_insertionAt]
  obtain ⟨above, below, ht, ha, rfl, hp⟩ := exists_cut h
  rw [hp, ht, List.take_left, List.drop_left, lines_append (ha.append hw), lines_append ha,
    lines_append ha, List.take_left, List.drop_left]

theorem toList_apply_insertionAt_of_le (h : (splitOnChar '\n' text.toList).length ≤ line) :
    ((insertionAt line added).apply text).toList = text.toList ++ added := by
  rw [toList_apply_insertionAt, positionIndex_of_le h]
  simp

end Insertion

/-- Lines before and after a declaration is inserted at a line. -/
inductive Joined (name type : List Char) :
    List (List Char) → Nat → List (List Char) → Prop
  | belowVar {above below : List (List Char)} {var : List Char} : isVarLine var = true →
      Joined name type (above ++ var :: below) (above.length + 1)
        (above ++ var :: (lines (declaredLine (indentation var) name type) ++ below))
  | aboveBegin {above below : List (List Char)} {start : List Char} : isBeginLine start = true →
      Joined name type (above ++ start :: below) above.length
        (above ++ (indentation start ++ "var".toList) ::
          (lines (declaredLine (indentation start) name type) ++ start :: below))

section Edit
variable {text name type : String} {use : Nat} {edit : TextEdit}
  {above below : List (List Char)} {var start : List Char}

theorem joined_belowVar (ho : lines text.toList = above ++ var :: below)
    (hv : isVarLine var = true) (hl : above.length + 1 < (splitOnChar '\n' text.toList).length)
    (name type : List Char) :
    Joined name type (lines text.toList) (above.length + 1)
      (lines ((insertionAt (above.length + 1) (declarationLine (indentation var) name type
        (lineEnding text.toList))).apply text).toList) := by
  have hs : lines text.toList = (above ++ [var]) ++ below := by simp [ho]
  have ha : above.length + 1 = (above ++ [var]).length := by simp
  have hj : Joined name type (above ++ var :: below) (above.length + 1)
      (above ++ var :: (lines (declaredLine (indentation var) name type) ++ below)) := .belowVar hv
  rw [lines_apply_insertionAt hl (isWhole_declarationLine _), lines_declarationLine, hs, ha,
    List.take_left, List.drop_left, ← ha]
  simpa only [List.append_assoc, List.cons_append, List.nil_append] using hj

theorem joined_aboveBegin (ho : lines text.toList = above ++ start :: below)
    (hs : isBeginLine start = true) (hl : above.length < (splitOnChar '\n' text.toList).length)
    (name type : List Char) :
    Joined name type (lines text.toList) above.length
      (lines ((insertionAt above.length (indentation start ++ "var".toList ++
        lineEnding text.toList ++ declarationLine (indentation start) name type
          (lineEnding text.toList))).apply text).toList) := by
  have hm : start ∈ lines text.toList := by simp [ho]
  have hw : IsWhole (indentation start ++ "var".toList ++ lineEnding text.toList ++
      declarationLine (indentation start) name type (lineEnding text.toList)) :=
    (isWhole_append_lineEnding _ _).append (isWhole_declarationLine _)
  rw [lines_apply_insertionAt hl hw, lines_section (feed_notMem_indentation hm), ho, List.take_left,
    List.drop_left, List.append_assoc, List.cons_append]
  exact .aboveBegin hs

/-- Behind a text whose last line is not ended, a declaration continues that line. -/
theorem lines_glued (ho : lines text.toList = above ++ [var]) (hw : ¬ IsWhole text.toList)
    (indent name type : List Char) :
    lines (text.toList ++ declarationLine indent name type (lineEnding text.toList)) =
      above ++ lines (var ++ declaredLine indent name type) := by
  obtain ⟨front, rest, ht, hf, hr⟩ := exists_rest text.toList
  have hn : rest ≠ [] := by
    rintro rfl
    rw [List.append_nil] at ht
    exact hw (ht ▸ hf)
  have hs : lines front ++ [rest] = above ++ [var] := by
    rw [← ho, ht, lines_append hf, lines_of_notMem hr hn]
  obtain ⟨hfront, hrest⟩ := List.append_inj' hs rfl
  obtain rfl := (List.cons.inj hrest).1
  have hl := lines_append hf (rest ++ declarationLine indent name type (lineEnding text.toList))
  rw [lines_append_declarationLine, ← List.append_assoc, ← ht, hfront] at hl
  exact hl

/-- An edit inserts at the start of a line. If that line exists the declaration joins the others,
and otherwise it is glued to a `var` line that ends the text. -/
theorem joined_of_declarationEdit? (h : declarationEdit? text use name type = some edit) :
    ∃ line, edit.range = .caret ⟨line, 0⟩ ∧
      let old := lines text.toList
      let new := lines (edit.apply text).toList
      (line < (splitOnChar '\n' text.toList).length → Joined name.toList type.toList old line new) ∧
      ((splitOnChar '\n' text.toList).length ≤ line →
        ¬ IsWhole text.toList ∧ ∃ above var, old = above ++ [var] ∧ isVarLine var = true ∧
          line = above.length + 1 ∧
          new = above ++
            lines (var ++ declaredLine (indentation var) name.toList type.toList)) := by
  have hcount := length_splitOnChar_feed text.toList
  have hd := declarationEdit?_eq_some_iff.1 h
  generalize hv : (lines text.toList).take (use + 1) = visible at hd
  have ho : lines text.toList = visible ++ (lines text.toList).drop (use + 1) := by
    rw [← hv, List.take_append_drop]
  generalize (lines text.toList).drop (use + 1) = below at ho
  cases hd with
  | @inSection above between var hvar hn =>
    rw [List.append_assoc, List.cons_append] at ho
    refine ⟨above.length + 1, rfl, fun hl => joined_belowVar ho hvar hl _ _, fun hl => ?_⟩
    have hlen : (lines text.toList).length = above.length + 1 + (between ++ below).length := by
      rw [ho]
      simp only [List.length_append, List.length_cons]
      omega
    have hw : ¬ IsWhole text.toList := by
      intro hw
      rw [if_pos hw] at hcount
      omega
    rw [if_neg hw] at hcount
    have hb : between ++ below = [] := List.eq_nil_of_length_eq_zero (by omega)
    rw [hb] at ho
    refine ⟨hw, above, var, ho, hvar, rfl, ?_⟩
    rw [toList_apply_insertionAt_of_le hl, lines_glued ho hw]
  | @beforeBody above head back header start hh hn hhead hs =>
    have hl : above.length + 1 + head.length < (splitOnChar '\n' text.toList).length := by
      rw [hcount, ho]
      simp only [List.length_append, List.length_cons]
      omega
    have ho : lines text.toList = (above ++ header :: head) ++ start :: (back ++ below) := by
      rw [ho]
      simp
    have ha : above.length + 1 + head.length = (above ++ header :: head).length := by
      simp only [List.length_append, List.length_cons]
      omega
    rw [ha] at hl ⊢
    exact ⟨_, rfl, fun hl => joined_aboveBegin ho hs hl _ _, fun hn => by omega⟩

end Edit

section QuickFix
variable {uri : Url} {text : String} {diagnostic : Diagnostic} {table : VariableTable}
  {fix : QuickFix}

theorem declareVariable?_eq_some_iff :
    declareVariable? uri text diagnostic table = some fix ↔
      ∃ name known edit, diagnosedName? text diagnostic = some name ∧
        table.find? name = some known ∧
        declarationEdit? text diagnostic.range.start.line name known.dataType.render = some edit ∧
        ⟨declarationTitle name known, uri, edit, diagnostic⟩ = fix := by
  simp only [declareVariable?, Option.bind_eq_bind, Option.bind_eq_some_iff, Option.pure_def,
    Option.some_inj, exists_and_left]

theorem VariableTable.knows_of_find? {name : String} {known : Variable}
    (h : table.find? name = some known) : table.knows name = true := by
  have hf : ∀ test : Variable → Bool, List.find? test table = some known →
      known ∈ table ∧ test known = true := fun test ht =>
    ⟨List.mem_of_find?_eq_some ht, List.find?_some ht⟩
  unfold VariableTable.knows
  rw [List.any_eq_true]
  rcases Option.or_eq_some_iff.1 h with hl | ⟨-, hs⟩
  · exact ⟨known, (hf _ hl).1, by simp [(hf _ hl).2]⟩
  · exact ⟨known, (hf _ hs).1, by simp [(hf _ hs).2]⟩

/-- A quick fix changes its document only, by one insertion at the start of a line, of a name that
the table knows with its type. If the line exists, the declaration joins the lines there were; it
is one line when name and type are. The line does not exist only below a `var` line that ends the
text without a line feed, and the declaration is then glued to that line. -/
theorem quickFix_inserts_lines (h : declareVariable? uri text diagnostic table = some fix) :
    fix.uri = uri ∧
      (∃ above below, text.toList = above ++ below ∧
        (fix.edit.apply text).toList = above ++ fix.edit.newText.toList ++ below) ∧
      ∃ name known line, diagnosedName? text diagnostic = some name ∧
        table.find? name = some known ∧ table.knows name = true ∧
        fix.edit.range = .caret ⟨line, 0⟩ ∧
        let type := known.dataType.render.toList
        let old := lines text.toList
        let new := lines (fix.edit.apply text).toList
        ('\n' ∉ name.toList → '\n' ∉ type → ∀ neighbour ∈ old,
          lines (declaredLine (indentation neighbour) name.toList type) =
            [declaredLine (indentation neighbour) name.toList type]) ∧
        (line < (splitOnChar '\n' text.toList).length → Joined name.toList type old line new) ∧
        ((splitOnChar '\n' text.toList).length ≤ line →
          ¬ IsWhole text.toList ∧ ∃ above var, old = above ++ [var] ∧ isVarLine var = true ∧
            line = above.length + 1 ∧
            new = above ++ lines (var ++ declaredLine (indentation var) name.toList type)) := by
  obtain ⟨name, known, edit, hn, hk, he, rfl⟩ := declareVariable?_eq_some_iff.1 h
  obtain ⟨line, hr, hj, hg⟩ := joined_of_declarationEdit? he
  refine ⟨rfl, ?_, name, known, line, hn, hk, VariableTable.knows_of_find? hk, hr, ?_, hj, hg⟩
  · refine ⟨text.toList.take (positionIndex text.toList edit.range.start),
      text.toList.drop (positionIndex text.toList edit.range.start),
      (List.take_append_drop _ _).symm, ?_⟩
    simp [TextEdit.apply, hr, Range.caret]
  · intro hname htype neighbour hm
    exact lines_declaredLine (feed_notMem_indentation hm) hname htype

end QuickFix

/-- An open document. -/
def workFile (name : String) : Url :=
  ⟨"file".toList, [], [], some .empty, none, .segments ["work".toList, name.toList], none, none⟩

/-- What the compiler reports about an undeclared name. -/
def undeclared (name : String) (range : Range) : Diagnostic :=
  ⟨range, none, some (.text "AL0118"), none, some "AL",
    "The name '" ++ name ++ "' does not exist in the current context.", none, none, none⟩

/-- A short name is declared in a new section, with the line endings of the text. -/
theorem quickFix_inserts_lines_newSection :
    let text := "trigger OnRun()\r\n  begin\r\n    GLAcc.Get('1');\r\n  end;"
    let diagnostic := undeclared "GLAcc" ⟨⟨2, 4⟩, ⟨2, 9⟩⟩
    ∃ fix, declareVariable? (workFile "Run.al") text diagnostic .builtin = some fix ∧
      fix.uri = workFile "Run.al" ∧
      fix.edit = ⟨.caret ⟨1, 0⟩, "  var\r\n      GLAcc: Record \"G/L Account\";\r\n"⟩ ∧
      Joined "GLAcc".toList "Record \"G/L Account\"".toList (lines text.toList) 1
        (lines (fix.edit.apply text).toList) := by
  intro text diagnostic
  have he : (declareVariable? (workFile "Run.al") text diagnostic .builtin).map (·.edit) =
      some ⟨.caret ⟨1, 0⟩, "  var\r\n      GLAcc: Record \"G/L Account\";\r\n"⟩ := by
    decide +kernel
  have hn : diagnosedName? text diagnostic = some "GLAcc" := by decide +kernel
  have hk : (VariableTable.builtin.find? "GLAcc").map (·.dataType.render) =
      some "Record \"G/L Account\"" := by decide +kernel
  have hl : 1 < (splitOnChar '\n' text.toList).length := by decide +kernel
  obtain ⟨fix, hf, he⟩ := Option.map_eq_some_iff.1 he
  obtain ⟨hu, -, name, known, line, hname, hknown, -, hr, -, hj, -⟩ := quickFix_inserts_lines hf
  obtain rfl := Option.some.inj (hn.symm.trans hname)
  rw [hknown, Option.map_some, Option.some_inj] at hk
  obtain rfl : line = 1 := by
    rw [he] at hr
    injection hr with hs
    injection hs with hs
    exact hs.symm
  rw [hk] at hj
  exact ⟨fix, hf, hu, he, hj hl⟩

/-- Below a `var` line that ends the text there is no line, and the fix that is offered glues the
declaration to it. -/
theorem declaration_glued_to_last_line :
    let text := "trigger OnRun()\nvar"
    let offered := declareVariable? (workFile "Run.al") text
      (undeclared "Customer" ⟨⟨1, 3⟩, ⟨1, 3⟩⟩) .builtin
    offered.map (·.edit.range) = some (.caret ⟨2, 0⟩) ∧
      (splitOnChar '\n' text.toList).length = 2 ∧
      offered.map (·.edit.apply text) =
        some "trigger OnRun()\nvar    Customer: Record Customer;\n" := by
  decide +kernel

end AlAssistant.Al
