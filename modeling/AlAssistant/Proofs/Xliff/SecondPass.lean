import AlAssistant.Proofs.Xliff.Exchange

/-!
# A second pass

An insertion into a lexically proper text leaves nothing to insert. A second pass comes upon the
same units with the same notes, and upon targets that are not to be replaced. The text need not
be well-formed otherwise: tags of sources and targets may be left open.
-/
namespace AlAssistant.Xliff

open AlAssistant.Text

section Unchanged
variable {code ending lineBefore unitText value : List Char}

/-- A target with the value, or with markup, stays as it is. -/
theorem targetSplice?_eq_none {target : Found} {a c : List Char}
    (ht : target.element = .full a c) (hc : c = value ∨ '<' ∈ c) :
    targetSplice? value target = none := by
  have hn : ¬ (placeholders.contains c && c != value) = true := by
    simp only [Bool.and_eq_true, List.contains_iff_mem, bne_iff_ne, not_and, not_not]
    intro hp
    rcases hc with rfl | hl
    · rfl
    · exact absurd hl (notMem_lt_of_mem_placeholders hp)
  unfold targetSplice?
  rw [ht]
  simp only
  rw [if_neg hn]

theorem unitSplice?_eq_none_of_eq_none {ending' lineBefore' : List Char}
    (h : unitSplice? code ending lineBefore unitText = none) :
    unitSplice? code ending' lineBefore' unitText = none := by
  cases hv : unitTranslation? code unitText with
  | none => exact unitSplice?_of_none hv
  | some value =>
    rw [unitSplice?_of_some hv] at h ⊢
    cases ht : find? true targetName unitText with
    | some target =>
      rw [ht] at h
      exact h
    | none =>
      rw [ht, Option.map_eq_none_iff] at h
      rw [h]
      rfl

end Unchanged

section Units
variable {code value unitText lead old mid attributes tail : List Char} {s : Splice}

theorem Exchange.elements_new (x : Exchange value unitText s lead old mid attributes tail)
    (nested : NoNestedTag unitText) (flat : FlatNotes unitText) :
    elements noteName s.new = elements noteName unitText := by
  have ho := x.foreign_old noteName isName_note (by decide) (by decide)
  have hw := x.foreign_new noteName isName_note (by decide) (by decide)
  rw [x.new_eq, ← List.append_assoc mid, x.old_eq]
  rw [x.old_eq] at nested
  refine elements_replace isName_note ho hw nested ?_
  rw [← x.old_eq]
  exact flat

/-- The changed unit has the same value in its note and a target that is not to be replaced. -/
theorem Exchange.unitSplice?_new (x : Exchange value unitText s lead old mid attributes tail)
    (nested : NoNestedTag unitText) (flat : FlatNotes unitText)
    (hv : unitTranslation? code unitText = some value) (ending lineBefore : List Char) :
    unitSplice? code ending lineBefore s.new = none := by
  have hv' : unitTranslation? code s.new = some value := by
    rw [← hv]
    unfold unitTranslation? developerNote?
    rw [x.elements_new nested flat]
  obtain ⟨inner, hi⟩ := (x.foreign_old noteName isName_note (by decide) (by decide)).sealed
  have hx : old ++ tail = '<' :: (inner ++ '>' :: tail) := by simp [hi]
  have hquiet := x.quiet
  rw [x.old_eq] at nested
  rw [hx] at nested hquiet
  obtain ⟨found, a, c, hf, ha, hc⟩ :=
    find?_behind_quiet isName_target (by simp) nested hquiet x.noTag x.opens x.reads
  rw [unitSplice?_of_some hv', x.new_eq]
  unfold targetWith
  rw [hf]
  exact targetSplice?_eq_none ha hc

theorem Exchange.exists_unit (x : Exchange value unitText s lead old mid attributes tail)
    (nested : NoNestedTag unitText) {element : Element}
    (hu : unitText = element.render unitName) (hr : element.Reads false unitName) :
    ∃ element' : Element, s.new = element'.render unitName ∧ element'.Reads false unitName := by
  have ho := x.foreign_old unitName isName_unit (by decide) (by decide)
  have hw := x.foreign_new unitName isName_unit (by decide) (by decide)
  cases element with
  | selfClosing attributes => cases hr.1
  | full attributes content =>
    rw [x.old_eq] at hu nested
    obtain ⟨content', hc, hr'⟩ := exists_render_of_exchange isName_unit ho hw hu.symm hr nested
    rw [x.new_eq, ← List.append_assoc mid]
    exact ⟨_, hc, hr'⟩

end Units

/-- A start tag of a unit in front of a unit would have been read with that unit's end tag. -/
theorem noStart_before_of_find? {name text : List Char} {found : Found} (hn : IsName name)
    (nested : NoNestedTag text) (hf : find? false name text = some found) :
    NoStart name found.before := by
  obtain ⟨before, element, after⟩ := found
  cases element with
  | selfClosing attributes => cases (reads_of_find? hf).1
  | full attributes content =>
    have ht := text_of_find? hf
    simp only [Found.text] at ht
    obtain ⟨y, hy, hg⟩ : ∃ y,
        Element.render name (.full attributes content) ++ after = '<' :: y ∧ '>' ∈ y :=
      ⟨_, rfl, by simp⟩
    intro q hq ho
    have hne : q ≠ [] := by
      rintro rfl
      obtain ⟨r, hr, _⟩ := ho
      cases hr
    have hs : q ++ '<' :: y <:+ text := by
      obtain ⟨t, rfl⟩ := hq
      refine ⟨t, ?_⟩
      rw [← ht, ← hy]
      simp only [List.append_assoc]
    obtain ⟨tag, rest, hq', htag, hw⟩ := ho.exists_tag hn.gt hg (nested.mono hs.isInfix)
    have hstart : startTag? name (q ++ Element.render name (.full attributes content) ++ after) =
        some (tag, rest ++ (Element.render name (.full attributes content) ++ after)) :=
      startTag?_eq_some_iff.2 ⟨by simp [hq'], htag, hw⟩
    have hnone := elementHere?_eq_none_of_find? hf hne hq
    rw [elementHere?_of_open hstart (by simp), Option.map_eq_none_iff, cutAt?_eq_none_iff] at hnone
    apply hnone
    exact ⟨rest ++ '<' :: name ++ attributes ++ ['>'] ++ content, after, by simp [Element.render]⟩

section Text
variable {code ending ending' lineBefore lineBefore' text : List Char}

/-- A unit after a pass is a unit again, and one with nothing to put in. -/
theorem exists_unit_of_pass (he : '<' ∉ ending) {element : Element} {unitText : List Char}
    (hu : unitText = element.render unitName) (hr : element.Reads false unitName)
    (nested : NoNestedTag unitText) (hd : NoDoubleSlash unitText) (flat : FlatNotes unitText) :
    ∃ element' : Element, element'.Reads false unitName ∧
      (∀ rest : Insertion, (rest.behindUnit unitText
        (unitSplice? code ending lineBefore unitText)).text =
          element'.render unitName ++ rest.text) ∧
      ∀ ending' lineBefore',
        unitSplice? code ending' lineBefore' (element'.render unitName) = none := by
  cases hs : unitSplice? code ending lineBefore unitText with
  | none =>
    refine ⟨element, hr, fun rest => ?_, fun ending' lineBefore' => ?_⟩
    · rw [← hu]
      rfl
    · rw [← hu]
      exact unitSplice?_eq_none_of_eq_none hs
  | some s =>
    obtain ⟨value, hv, lead, old, mid, attributes, tail, x⟩ := exists_exchange he nested hd flat hs
    obtain ⟨element', hnew, hr'⟩ := x.exists_unit nested hu hr
    refine ⟨element', hr', fun rest => ?_, fun ending' lineBefore' => ?_⟩
    · rw [← hnew]
      rfl
    · rw [← hnew]
      exact x.unitSplice?_new nested flat hv ending' lineBefore'

theorem insertFrom_insertFrom {start : Nat} (he : '<' ∉ ending) (nested : NoNestedTag text)
    (hd : NoDoubleSlash text) (flat : ∀ unit ∈ unitSpansFrom start text, FlatNotes unit.text) :
    insertFrom code ending' lineBefore' (insertFrom code ending lineBefore text).text =
      ⟨(insertFrom code ending lineBefore text).text, 0⟩ := by
  fun_induction unitSpansFrom start text generalizing lineBefore lineBefore' with
  | case1 start text hf => rw [insertFrom_of_none hf, insertFrom_of_none hf]
  | case2 start text found hf ih =>
    have ht := text_of_find? hf
    have hb := noStart_before_of_find? isName_unit nested hf
    have hunit : found.element.render unitName <:+: text := by
      rw [← ht]
      exact ⟨found.before, found.after, rfl⟩
    have hafter : found.after <:+: text := by
      rw [← ht]
      exact (List.suffix_append ..).isInfix
    obtain ⟨element', hr, htext, hnone⟩ := @exists_unit_of_pass code ending
      (afterLast '\n' (lineBefore ++ found.before)) he found.element _ rfl (reads_of_find? hf)
      (nested.mono hunit) (hd.mono hunit) (flat _ List.mem_cons_self)
    have hrest := fun above above' => @ih above above' (nested.mono hafter) (hd.mono hafter)
      fun unit hm => flat unit (List.mem_cons_of_mem _ hm)
    rw [insertFrom_of_some hf]
    simp only [Insertion.behind, htext]
    rw [insertFrom_of_some (find?_render isName_unit.lt hb hr)]
    simp only [hrest, hnone, Insertion.behindUnit, Insertion.behind]

end Text

/-- An insertion into a lexically proper text leaves nothing to insert. -/
theorem insertNotes_insertNotes {fileName text code : String} (hc : codeOfFile fileName = .ok code)
    (hp : LexicallyProper text.toList) :
    ∃ first, insertNotes fileName text = .ok first ∧
      insertNotes fileName (String.ofList first.text) = .ok ⟨first.text, 0⟩ := by
  have he : '<' ∉ lineEnding text.toList := by
    unfold lineEnding
    split <;> decide
  unfold insertNotes
  rw [hc]
  refine ⟨_, rfl, ?_⟩
  simp only [String.toList_ofList]
  rw [insertFrom_insertFrom he hp.noNestedTag hp.noDoubleSlash hp.flatNotes]

/-- The note may hold a placeholder, and an open target may stand before the source. -/
theorem insertNotes_insertNotes_placeholder :
    codeOfFile "App.de-DE.xlf" = .ok "DEU" ∧
      LexicallyProper ("<trans-unit><target><source>a</source>" ++
        "<note from='Developer'>DEU=[NAB: REVIEW]</note></trans-unit>").toList ∧
      ∃ first, insertNotes "App.de-DE.xlf" ("<trans-unit><target><source>a</source>" ++
          "<note from='Developer'>DEU=[NAB: REVIEW]</note></trans-unit>") = .ok first ∧
        insertNotes "App.de-DE.xlf" (String.ofList first.text) = .ok ⟨first.text, 0⟩ := by
  have hc : codeOfFile "App.de-DE.xlf" = .ok "DEU" := by decide +kernel
  have hp : LexicallyProper ("<trans-unit><target><source>a</source>" ++
      "<note from='Developer'>DEU=[NAB: REVIEW]</note></trans-unit>").toList := by
    decide +kernel
  exact ⟨hc, hp, insertNotes_insertNotes hc hp⟩

end AlAssistant.Xliff
