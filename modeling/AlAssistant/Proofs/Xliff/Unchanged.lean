import AlAssistant.Proofs.Xliff.Exchange

/-!
# An insertion that changes something changes the text

Replacements shift the text behind them, and a text may repeat itself, so it is not plain that
several of them never add up to nothing. They do not, because of the first one alone. A target
that closed itself differs at once. Any other change puts more text in front of the rest of its
unit, and that rest ends in the end tag of the unit, which no value can hold.
-/
namespace AlAssistant.Xliff

open AlAssistant.Text

theorem suffix_of_append_cons_eq {c : Char} {a b x y : List Char} (ha : c ∉ a)
    (h : a ++ c :: b = x ++ c :: y) : y <:+ b := by
  rcases List.append_eq_append_iff.1 h with ⟨p, rfl, hp⟩ | ⟨p, rfl, hp⟩
  · cases p with
    | nil => exact (List.cons.inj hp).2 ▸ List.suffix_rfl
    | cons d p => exact ⟨p ++ [c], by simpa using (List.cons.inj hp).2.symm⟩
  · cases p with
    | nil => exact (List.cons.inj hp).2 ▸ List.suffix_rfl
    | cons d p =>
      obtain ⟨rfl, _⟩ := List.cons.inj hp
      simp at ha

theorem infix_of_mem_elements {name text : List Char} {element : Element}
    (h : element ∈ elements name text) : element.render name <:+: text := by
  fun_induction elements name text with
  | case1 => cases h
  | case2 text found hf ih =>
    have ht := text_of_find? hf
    rcases List.mem_cons.1 h with rfl | h
    · exact ⟨found.before, found.after, ht⟩
    · refine (ih h).trans ⟨found.before ++ found.element.render name, [], ?_⟩
      rw [List.append_nil]
      exact ht

/-- The content of a note is cut out of the content of its unit. -/
theorem suffix_of_note {attributes content a c s t : List Char} (hg : '>' ∉ attributes)
    (h : s ++ Element.render noteName (.full a c) ++ t =
      Element.render unitName (.full attributes content)) :
    c ++ endTag noteName ++ t <:+ content ++ endTag unitName := by
  have hu : '>' ∉ '<' :: unitName ++ attributes := by simp [isName_unit.gt, hg]
  have he : '<' :: unitName ++ attributes ++ '>' :: (content ++ endTag unitName) =
      s ++ '<' :: noteName ++ a ++ '>' :: (c ++ endTag noteName ++ t) := by
    simpa only [Element.render, List.append_assoc, List.cons_append, List.nil_append] using h.symm
  exact suffix_of_append_cons_eq hu he

section Units
variable {code ending lineBefore unitText value : List Char} {element : Element} {s : Splice}

/-- A value is read in front of the end of its unit. -/
theorem not_isInfix_of_unitTranslation? (hr : element.Reads false unitName)
    (h : unitTranslation? code (element.render unitName) = some value) :
    ¬ endTag unitName <:+: value := by
  obtain ⟨hv, _⟩ := unitTranslation?_eq_some_iff.1 h
  obtain ⟨noteText, hd, hn⟩ := Option.bind_eq_some_iff.1 hv
  obtain ⟨note, hf, hc⟩ := Option.bind_eq_some_iff.1 hd
  obtain ⟨before, after, hw⟩ := infix_of_mem_elements (List.mem_of_find?_eq_some hf)
  cases element with
  | selfClosing attributes => cases hr.1
  | full attributes content =>
    cases note with
    | selfClosing a => cases hc
    | full a c =>
      obtain rfl : c = noteText := Option.some.inj hc
      obtain ⟨p, hp⟩ := suffix_of_note hr.1 hw
      intro hi
      obtain ⟨x, y, rfl⟩ := hi.trans (infix_of_noteValue? hn)
      have hall : content ++ endTag unitName =
          p ++ x ++ endTag unitName ++ (y ++ (endTag noteName ++ after)) := by
        simpa only [List.append_assoc] using hp.symm
      have hnil := eq_nil_of_cutAt?_mark hr.2.2.2 hall
      simp [endTag] at hnil

theorem suffix_endTag_of_reads (hr : element.Reads false unitName) :
    endTag unitName <:+ element.render unitName := by
  cases element with
  | selfClosing attributes => cases hr.1
  | full attributes content => exact List.suffix_append _ _

/-- Behind the end tag of another element there is still room for an end tag. -/
theorem suffix_endTag_behind {name other lead after : List Char} (hg : '>' ∉ name)
    (hn : ¬ endTag name <:+ endTag other) (ho : ¬ endTag other <:+ endTag name)
    (h : endTag name <:+ lead ++ endTag other ++ after) : endTag name <:+ after := by
  rcases suffix_append_cases h with h | ⟨q, hq, he⟩
  · exact h
  · have hq' : q <:+ lead ++ '<' :: '/' :: other ++ ['>'] := by simpa [endTag] using hq
    rcases List.suffix_concat_iff.1 hq' with rfl | ⟨p, rfl, _⟩
    · rw [he]
      exact List.suffix_rfl
    · have hp : '<' :: '/' :: name ++ '>' :: [] = p ++ '>' :: after := by
        simpa [endTag] using he
      obtain rfl := List.suffix_nil.1 (suffix_of_append_cons_eq (by simp [hg]) hp)
      rw [← List.append_nil (p ++ ['>']), ← he] at hq
      rcases List.suffix_or_suffix_of_suffix hq (List.suffix_append lead (endTag other)) with h | h
      · exact absurd h hn
      · exact absurd h ho

/-- A tag that is no longer closed by its slash differs from what it was before its end. -/
theorem exists_behind_trimEnd (attributes rest : List Char) :
    ∃ c t, attributes ++ '/' :: rest = trimEnd attributes ++ c :: t ∧ c ≠ '>' := by
  obtain ⟨blanks, hw, hb⟩ := exists_blanks_of_trimEnd attributes
  cases blanks with
  | nil =>
    rw [List.append_nil] at hw
    exact ⟨'/', rest, by rw [hw], by decide⟩
  | cons c blanks =>
    refine ⟨c, blanks ++ '/' :: rest, ?_, ?_⟩
    · rw [← List.cons_append, ← List.append_assoc, hw]
    · rintro rfl
      exact absurd (hb _ List.mem_cons_self) (by decide)

/-- A change in a target cannot be made up for behind its unit. -/
theorem append_ne_of_targetSplice? {target : Found}
    (hf : find? true targetName unitText = some target) (h : targetSplice? value target = some s)
    (hu : endTag unitName <:+ unitText) (hm : ¬ endTag unitName <:+: value) (v w : List Char) :
    s.removed ++ (s.after ++ v) ≠ s.inserted ++ (s.after ++ w) := by
  have ht := text_of_find? hf
  rcases targetSplice?_cases h with ⟨attributes, content, he, hc, hne, rfl⟩ |
    ⟨attributes, he, rfl⟩
  · have hrest : endTag unitName <:+ target.before ++ '<' :: targetName ++ attributes ++ ['>'] ++
        content ++ endTag targetName ++ target.after := by
      simpa only [← ht, Found.text, he, Element.render, List.append_assoc, List.cons_append]
        using hu
    obtain ⟨rest, hrest⟩ := suffix_endTag_behind isName_unit.gt (by decide) (by decide) hrest
    intro heq
    simp only [← hrest] at heq
    rcases List.prefix_or_prefix_of_prefix ⟨_, heq⟩ (List.prefix_append _ _) with hp | hp
    · obtain ⟨z, rfl⟩ := hp
      have hz : z ≠ [] := fun hz => hne (by rw [hz, List.append_nil])
      have hz' : ¬ endTag unitName <:+: z :=
        fun hi => hm (hi.trans (List.suffix_append content z).isInfix)
      have hs : Seam (endTag unitName) z (endTag targetName ++ rest ++ endTag unitName ++ w) :=
        seam_of_head (by decide)
      refine append_ne_of_not_isInfix hz hz' hs (v := v) ?_
      simpa only [List.append_assoc, List.append_cancel_left_eq] using heq
    · obtain ⟨z, rfl⟩ := hp
      simp only [List.append_assoc, List.append_cancel_left_eq] at heq
      cases z with
      | nil => simp at hne
      | cons c z =>
        obtain rfl : c = '<' := (List.cons.inj heq).1
        exact notMem_lt_of_mem_placeholders hc (by simp)
  · obtain ⟨c, t, hct, hgt⟩ := exists_behind_trimEnd attributes ('>' :: (target.after ++ v))
    have hl : "/>".toList = ['/', '>'] := rfl
    intro heq
    simp only [he, targetWith, Element.render, hl, List.append_assoc, List.cons_append,
      List.nil_append, List.cons.injEq, List.append_cancel_left_eq, true_and] at heq
    rw [hct, List.append_cancel_left_eq] at heq
    exact hgt (List.cons.inj heq).1

/-- A new line with a value holds no end tag of a unit if the value holds none. -/
theorem not_isInfix_newLine (he : '/' ∉ ending) (hm : ¬ endTag unitName <:+: value)
    (above : List Char) :
    ¬ endTag unitName <:+: ending ++ lastIndent above ++ targetWith [] value := by
  have hz : ending ++ lastIndent above ++ targetWith [] value =
      ending ++ lastIndent above ++ '<' :: targetName ++ ['>'] ++ value ++ endTag targetName := by
    simp [targetWith, Element.render]
  have hfront : '/' ∉ ending ++ lastIndent above ++ '<' :: targetName ++ ['>'] := by
    have hindent : '/' ∉ lastIndent above := fun h => by simpa using List.mem_takeWhile_imp h
    have hname : '/' ∉ targetName := by decide
    simp [he, hindent, hname]
  have hopen : ¬ endTag unitName <:+: ending ++ lastIndent above ++ '<' :: targetName ++ ['>'] :=
    fun h => hfront (h.subset (by decide))
  rw [hz]
  refine not_isInfix_append (not_isInfix_append hopen hm ?_) (by decide) ?_
  · exact seam_of_last (by decide)
  · exact seam_of_head (by decide)

/-- A new line cannot be made up for behind its unit. -/
theorem append_ne_sourceSplice {source : Found}
    (hf : find? false sourceName unitText = some source) (he : '/' ∉ ending)
    (hu : endTag unitName <:+ unitText) (hm : ¬ endTag unitName <:+: value) (v w : List Char) :
    source.after ++ v ≠
      ending ++ lastIndent (lineBefore ++ source.before) ++ targetWith [] value ++
        (source.after ++ w) := by
  obtain ⟨before, element, after⟩ := source
  cases element with
  | selfClosing attributes => cases (reads_of_find? hf).1
  | full attributes content =>
    have hrest : endTag unitName <:+ before ++ '<' :: sourceName ++ attributes ++ ['>'] ++
        content ++ endTag sourceName ++ after := by
      simpa only [← text_of_find? hf, Found.text, Element.render, List.append_assoc,
        List.cons_append] using hu
    obtain ⟨rest, rfl⟩ := suffix_endTag_behind isName_unit.gt (by decide) (by decide) hrest
    refine append_ne_of_not_isInfix ?_ (not_isInfix_newLine he hm _) ?_
    · simp [targetWith, Element.render]
    · have hlast : ending ++ lastIndent (lineBefore ++ before) ++ targetWith [] value =
          ending ++ lastIndent (lineBefore ++ before) ++ '<' :: targetName ++ ['>'] ++ value ++
            '<' :: '/' :: targetName ++ ['>'] := by
        simp [targetWith, Element.render, endTag]
      rw [hlast]
      exact seam_of_last (by decide)

/-- A changed unit, whatever follows it, is not how the text went on before. -/
theorem append_ne_of_unitSplice? (hr : element.Reads false unitName) (he : '/' ∉ ending)
    (h : unitSplice? code ending lineBefore (element.render unitName) = some s)
    (v w : List Char) : element.render unitName ++ v ≠ s.new ++ w := by
  have hu := suffix_endTag_of_reads hr
  have hcancel (hne : s.removed ++ (s.after ++ v) ≠ s.inserted ++ (s.after ++ w)) :
      element.render unitName ++ v ≠ s.new ++ w := by
    rw [← old_of_unitSplice? h, Splice.old, Splice.new]
    simpa only [List.append_assoc, ne_eq, List.append_cancel_left_eq] using hne
  obtain ⟨value, hv, ⟨target, hf, hs⟩ | ⟨_, source, hf, rfl⟩⟩ := unitSplice?_cases h
  · have hm := not_isInfix_of_unitTranslation? hr hv
    exact hcancel (append_ne_of_targetSplice? hf hs hu hm v w)
  · have hm := not_isInfix_of_unitTranslation? hr hv
    exact hcancel (append_ne_sourceSplice hf he hu hm v w)

end Units

/-- The text is the same exactly when no unit was changed. -/
theorem insertFrom_text_eq_iff {code ending lineBefore text : List Char} (he : '/' ∉ ending) :
    (insertFrom code ending lineBefore text).text = text ↔
      (insertFrom code ending lineBefore text).updated = 0 := by
  fun_induction insertFrom code ending lineBefore text with
  | case1 lineBefore text hf => simp
  | case2 lineBefore text found hf unitText above rest ih =>
    have ht : text = found.before ++ (unitText ++ found.after) := by
      rw [← text_of_find? hf, Found.text, List.append_assoc]
    cases hs : unitSplice? code ending above unitText with
    | none =>
      rw [ht]
      simpa [Insertion.behindUnit, Insertion.behind] using ih
    | some s =>
      have hne := append_ne_of_unitSplice? (reads_of_find? hf) he hs found.after rest.text
      rw [ht]
      simpa [Insertion.behindUnit, Insertion.behind] using hne.symm

/-- An insertion that counts no unit gives the text back, and one that counts a unit gives
another text. -/
theorem insertNotes_isUnchanged_iff {fileName text code : String}
    (hc : codeOfFile fileName = .ok code) :
    ∃ result, insertNotes fileName text = .ok result ∧
      (result.isUnchanged = true ↔ result.updated = 0) ∧
      (result.updated = 0 ↔ String.ofList result.text = text) := by
  have he : '/' ∉ lineEnding text.toList := by
    unfold lineEnding
    split <;> decide
  unfold insertNotes
  rw [hc]
  refine ⟨_, rfl, ?_, ?_⟩
  · exact beq_iff_eq
  · rw [← String.toList_inj, String.toList_ofList, insertFrom_text_eq_iff he]

/-- The value repeats what follows it, and the second unit loses as much as the first gains. -/
theorem insertNotes_isUnchanged_iff_repeating :
    codeOfFile "App.de-DE.xlf" = .ok "DEU" ∧
      ∃ result, insertNotes "App.de-DE.xlf"
          ("<trans-unit><note from='Developer'>DEU=</target></note>" ++
            "<target></target></trans-unit>" ++
            "<trans-unit><note from='Developer'>DEU=abcd</note>" ++
            "<target>[NAB: REVIEW]</target></trans-unit>") = .ok result ∧
        (result.isUnchanged = true ↔ result.updated = 0) ∧
        (result.updated = 0 ↔ String.ofList result.text =
          "<trans-unit><note from='Developer'>DEU=</target></note><target></target></trans-unit>" ++
            "<trans-unit><note from='Developer'>DEU=abcd</note>" ++
            "<target>[NAB: REVIEW]</target></trans-unit>") :=
  have hc : codeOfFile "App.de-DE.xlf" = .ok "DEU" := by decide +kernel
  ⟨hc, insertNotes_isUnchanged_iff hc⟩

end AlAssistant.Xliff
