import AlAssistant.Proofs.Xliff.Replacement

/-!
# What an insertion may remove

A unit changes when its own developer note has a value for the language that is not empty. The
change is one of three: a line for the target behind the source, the value in the place of a
placeholder, or the value in a target that closed itself. The main statement says of any text
that the units changed in one of these ways are all that distinguishes it from the text that an
insertion gives.
-/
namespace AlAssistant.Xliff

open AlAssistant.Text

/-- The translation that the developer note of a unit holds. -/
def unitTranslation? (code unitText : List Char) : Option (List Char) :=
  ((developerNote? unitText).bind (noteValue? · code)).filter (!·.isEmpty)

theorem unitTranslation?_eq_some_iff {code unitText value : List Char} :
    unitTranslation? code unitText = some value ↔
      (developerNote? unitText).bind (noteValue? · code) = some value ∧ value ≠ [] := by
  simp [unitTranslation?, Option.filter_eq_some_iff]

section Cases
variable {code ending lineBefore unitText value : List Char} {s : Splice}

theorem unitSplice?_of_none (h : unitTranslation? code unitText = none) :
    unitSplice? code ending lineBefore unitText = none := by
  unfold unitTranslation? at h
  unfold unitSplice?
  split
  · rfl
  · next hv =>
    rw [hv, Option.filter_some] at h
    split
    · rfl
    · next he => simp [he] at h

theorem unitSplice?_of_some (h : unitTranslation? code unitText = some value) :
    unitSplice? code ending lineBefore unitText =
      match find? true targetName unitText with
      | some target => targetSplice? value target
      | none => (find? false sourceName unitText).map (sourceSplice ending lineBefore value) := by
  obtain ⟨hv, hne⟩ := unitTranslation?_eq_some_iff.1 h
  have he : value.isEmpty = false := by simpa using hne
  unfold unitSplice?
  simp only [hv, he]
  rfl

/-- A unit changes because of a value, and either in its target or, without one, below its
source. -/
theorem unitSplice?_cases (h : unitSplice? code ending lineBefore unitText = some s) :
    ∃ value, unitTranslation? code unitText = some value ∧
      ((∃ target, find? true targetName unitText = some target ∧
          targetSplice? value target = some s) ∨
        find? true targetName unitText = none ∧
          ∃ source, find? false sourceName unitText = some source ∧
            s = sourceSplice ending lineBefore value source) := by
  cases hv : unitTranslation? code unitText with
  | none => simp [unitSplice?_of_none hv] at h
  | some value =>
    refine ⟨value, rfl, ?_⟩
    rw [unitSplice?_of_some hv] at h
    cases ht : find? true targetName unitText with
    | some target =>
      rw [ht] at h
      exact .inl ⟨target, rfl, h⟩
    | none =>
      rw [ht] at h
      obtain ⟨source, hs, he⟩ := Option.map_eq_some_iff.1 h
      exact .inr ⟨rfl, source, hs, he.symm⟩

/-- A target changes when it holds a placeholder other than the value, or closes itself. -/
theorem targetSplice?_cases {target : Found} (h : targetSplice? value target = some s) :
    (∃ attributes content, target.element = .full attributes content ∧
        content ∈ placeholders ∧ content ≠ value ∧
        s = {
          before := target.before ++ '<' :: targetName ++ attributes ++ ['>']
          removed := content
          inserted := value
          after := endTag targetName ++ target.after }) ∨
      ∃ attributes, target.element = .selfClosing attributes ∧
        s = {
          before := target.before
          removed := target.element.render targetName
          inserted := targetWith (trimEnd attributes) value
          after := target.after } := by
  unfold targetSplice? at h
  split at h
  · next attributes content he =>
    split at h
    · next hc =>
      simp only [Bool.and_eq_true, List.contains_iff_mem, bne_iff_ne] at hc
      cases h
      exact .inl ⟨attributes, content, he, hc.1, hc.2, rfl⟩
    · cases h
  · next attributes he =>
    cases h
    exact .inr ⟨attributes, he, rfl⟩

end Cases

/-- The target of a unit waits for the value: it closes itself, holds a placeholder, or is missing
below a source. -/
def Untranslated (value unitText : List Char) : Prop :=
  match find? true targetName unitText with
  | some ⟨_, .selfClosing _, _⟩ => True
  | some ⟨_, .full _ content, _⟩ => content ∈ placeholders ∧ content ≠ value
  | none => (find? false sourceName unitText).isSome = true

theorem exists_unitSplice? {code ending lineBefore unitText value : List Char}
    (hv : unitTranslation? code unitText = some value) (hu : Untranslated value unitText) :
    ∃ s, unitSplice? code ending lineBefore unitText = some s := by
  unfold Untranslated at hu
  rw [unitSplice?_of_some hv]
  split at hu
  · next hf => exact ⟨_, by rw [hf]; rfl⟩
  · next before attributes content after hf =>
    have hb : (placeholders.contains content && content != value) = true := by simpa using hu
    rw [hf]
    simp only [targetSplice?, if_pos hb]
    exact ⟨_, rfl⟩
  · next hf =>
    obtain ⟨source, hs⟩ := Option.isSome_iff_exists.1 hu
    exact ⟨_, by rw [hf, hs]; rfl⟩

/-- A whole start tag. -/
def IsStartTag (name tag : List Char) : Prop :=
  ∃ attributes, tag = '<' :: name ++ attributes ++ ['>'] ∧ '>' ∉ attributes ∧
    endsWord attributes = true

/-- The ways in which a value comes into a unit. `above` is the text in front of the unit, and a
new line is indented like the one that the source begins on. -/
inductive Splice.Inserts (ending above value : List Char) : Splice → Prop where
  | newLine (lead tag content after : List Char) (ht : IsStartTag sourceName tag) :
      Inserts ending above value {
        before := lead ++ tag ++ content ++ "</source>".toList
        removed := []
        inserted := ending ++ lastIndent (above ++ lead) ++
          ("<target>".toList ++ value ++ "</target>".toList)
        after := after }
  | placeholder (lead tag content after : List Char) (ht : IsStartTag targetName tag)
      (hc : content ∈ placeholders) :
      Inserts ending above value {
        before := lead ++ tag
        removed := content
        inserted := value
        after := "</target>".toList ++ after }
  | selfClosing (lead attributes after : List Char) (hg : '>' ∉ attributes)
      (hw : endsWord attributes = true) :
      Inserts ending above value {
        before := lead
        removed := "<target".toList ++ attributes ++ "/>".toList
        inserted := "<target".toList ++ trimEnd attributes ++ ">".toList ++ value ++
          "</target>".toList
        after := after }

/-- What a change of a unit has to respect: it lies in a unit of the text and brings in the
value of that unit's own note. -/
structure UnitFill.Fits (code ending text : List Char) (fill : UnitFill) : Prop where
  unit_at : ∃ before after, text = before ++ fill.unit.text ++ after ∧
    before.length = fill.unit.start
  old_eq : fill.splice.old = fill.unit.text
  inserts : ∃ value, value ≠ [] ∧
    (developerNote? fill.unit.text).bind (noteValue? · code) = some value ∧
    fill.splice.Inserts ending (text.take fill.unit.start) value

section Fitting
variable {code ending above unitText value : List Char} {s : Splice}

theorem lastIndent_afterLast_append (a b : List Char) :
    lastIndent (afterLast '\n' a ++ b) = lastIndent (a ++ b) := by
  unfold lastIndent
  rw [afterLast_append_afterLast]

theorem inserts_of_targetSplice? {target : Found}
    (hf : find? true targetName unitText = some target)
    (h : targetSplice? value target = some s) : s.Inserts ending above value := by
  obtain ⟨before, element, after⟩ := target
  have hr : element.Reads true targetName := reads_of_find? hf
  rcases targetSplice?_cases h with ⟨attributes, content, rfl, hc, _, rfl⟩ |
    ⟨attributes, rfl, rfl⟩
  · have ht : IsStartTag targetName ('<' :: targetName ++ attributes ++ ['>']) :=
      ⟨attributes, rfl, hr.1, hr.2.1⟩
    have hb : before ++ '<' :: targetName ++ attributes ++ ['>'] =
        before ++ ('<' :: targetName ++ attributes ++ ['>']) := by
      simp only [List.append_assoc, List.cons_append]
    rw [hb]
    exact .placeholder before _ content after ht hc
  · exact .selfClosing before attributes after hr.2.1 hr.2.2

theorem inserts_sourceSplice {source : Found}
    (hf : find? false sourceName unitText = some source) :
    (sourceSplice ending (afterLast '\n' above) value source).Inserts ending above value := by
  obtain ⟨before, element, after⟩ := source
  have hr : element.Reads false sourceName := reads_of_find? hf
  cases element with
  | selfClosing attributes => cases hr.1
  | full attributes content =>
    have ht : IsStartTag sourceName ('<' :: sourceName ++ attributes ++ ['>']) :=
      ⟨attributes, rfl, hr.1, hr.2.1⟩
    have hb : before ++ Element.render sourceName (.full attributes content) =
        before ++ ('<' :: sourceName ++ attributes ++ ['>']) ++ content ++ "</source>".toList := by
      have he : endTag sourceName = "</source>".toList := rfl
      simp only [Element.render, he, List.append_assoc, List.cons_append]
    have hi : targetWith [] value = "<target>".toList ++ value ++ "</target>".toList := rfl
    unfold sourceSplice
    rw [lastIndent_afterLast_append, hb, hi]
    exact .newLine before _ content after ht

theorem inserts_of_unitSplice?
    (h : unitSplice? code ending (afterLast '\n' above) unitText = some s) :
    ∃ value, value ≠ [] ∧ (developerNote? unitText).bind (noteValue? · code) = some value ∧
      s.Inserts ending above value := by
  obtain ⟨value, hv, ⟨target, ht, hs⟩ | ⟨_, source, hf, rfl⟩⟩ := unitSplice?_cases h
  · obtain ⟨hn, hne⟩ := unitTranslation?_eq_some_iff.1 hv
    exact ⟨value, hne, hn, inserts_of_targetSplice? ht hs⟩
  · obtain ⟨hn, hne⟩ := unitTranslation?_eq_some_iff.1 hv
    exact ⟨value, hne, hn, inserts_sourceSplice hf⟩

/-- A unit begins with its own tag, so no change is at its very beginning. -/
theorem Splice.Inserts.before_ne_nil {element : Element} (h : s.Inserts ending above value)
    (ho : s.old = element.render unitName) : s.before ≠ [] := by
  intro hb
  cases h with
  | newLine lead tag content after ht => simp at hb
  | placeholder lead tag content after ht hc =>
    obtain ⟨attributes, rfl, _⟩ := ht
    simp at hb
  | selfClosing lead attributes after hg hw =>
    obtain rfl : lead = [] := hb
    obtain ⟨rest, hr⟩ : ∃ rest, element.render unitName = '<' :: 't' :: 'r' :: rest := by
      cases element <;> exact ⟨_, rfl⟩
    have hl : '<' :: 't' :: 'a' :: ("rget".toList ++ attributes ++ "/>".toList ++ after) =
        '<' :: 't' :: 'r' :: rest := ho.trans hr
    simp only [List.cons.injEq] at hl
    exact absurd hl.2.2.1 (by decide)

end Fitting

section Text
variable {code ending text : List Char}

theorem fits_of_mem_unitFills {fill : UnitFill}
    (h : fill ∈ unitFills code ending text (unitSpans text)) : fill.Fits code ending text := by
  obtain ⟨unit, hu, hf⟩ := List.mem_filterMap.1 h
  obtain ⟨s, hs, rfl⟩ := Option.map_eq_some_iff.1 hf
  obtain ⟨_, hat⟩ := at_of_mem_unitSpansFrom [] rfl hu
  exact ⟨hat, old_of_unitSplice? hs, inserts_of_unitSplice? hs⟩

theorem map_unit_unitFills_sublist (units : List UnitSpan) :
    ((unitFills code ending text units).map (·.unit)).Sublist units := by
  induction units with
  | nil => exact .slnil
  | cons unit units ih =>
    unfold unitFills at ih ⊢
    rw [List.filterMap_cons]
    cases hf : unitFill? code ending text unit with
    | none => exact ih.cons unit
    | some fill =>
      obtain ⟨s, _, rfl⟩ := Option.map_eq_some_iff.1 hf
      exact ih.cons_cons unit

/-- Every unit that waits for its value is among those that change. -/
theorem mem_unit_unitFills {unit : UnitSpan} {units : List UnitSpan} {value : List Char}
    (hu : unit ∈ units) (hv : unitTranslation? code unit.text = some value)
    (hw : Untranslated value unit.text) :
    unit ∈ (unitFills code ending text units).map (·.unit) := by
  obtain ⟨s, hs⟩ :=
    @exists_unitSplice? code ending (afterLast '\n' (text.take unit.start)) _ _ hv hw
  refine List.mem_map.2 ⟨⟨unit, s⟩, List.mem_filterMap.2 ⟨unit, hu, ?_⟩, rfl⟩
  rw [unitFill?, hs, Option.map_some]

/-- Changes of different units are apart. -/
theorem pairwise_replacement_unitFills :
    ((unitFills code ending text (unitSpans text)).map (·.replacement)).Pairwise
      fun a b => a.stop < b.start := by
  have hp : ((unitFills code ending text (unitSpans text)).map (·.unit)).Pairwise
      fun a b => a.stop ≤ b.start :=
    pairwise_unitSpansFrom.sublist (map_unit_unitFills_sublist _)
  rw [List.pairwise_map] at hp ⊢
  refine hp.imp_of_mem fun {f g} hf hg hle => ?_
  obtain ⟨value, _, _, hi⟩ := (fits_of_mem_unitFills hg).inserts
  obtain ⟨unit, hu, hs⟩ := List.mem_filterMap.1 hg
  obtain ⟨t, _, rfl⟩ := Option.map_eq_some_iff.1 hs
  obtain ⟨⟨element, he⟩, _⟩ := at_of_mem_unitSpansFrom [] rfl hu
  have hpos := List.length_pos_iff.2
    (hi.before_ne_nil ((fits_of_mem_unitFills hg).old_eq.trans he))
  have hold := congrArg List.length (fits_of_mem_unitFills hf).old_eq
  simp only [Splice.old, List.length_append] at hold
  simp only [UnitFill.replacement, UnitSpan.stop] at hle hpos ⊢
  omega

end Text

/-- The replacements that make a text out of another. They lie apart from each other, each in a
unit of its own, and no unit that waits for its value is passed over. -/
structure Insertion.Made (code ending text : List Char) (fills : List UnitFill)
    (result : Insertion) : Prop where
  updated_eq : result.updated = fills.length
  text_eq : result.text = Replacement.applyFrom text 0 (fills.map (·.replacement))
  replacements_apart : (fills.map (·.replacement)).Pairwise fun a b => a.stop < b.start
  own_units : (fills.map (·.unit)).Sublist (unitSpans text)
  units_apart : (unitSpans text).Pairwise fun a b => a.stop ≤ b.start
  fits : ∀ fill ∈ fills, fill.Fits code ending text
  complete : ∀ unit ∈ unitSpans text, ∀ value, unitTranslation? code unit.text = some value →
    Untranslated value unit.text → unit ∈ fills.map (·.unit)

/-- An insertion replaces empty intervals behind a source, placeholders between the tags of a
target and targets that close themselves, and nothing else. -/
theorem insertNotes_replaces_untranslated {fileName text code : String}
    (hc : codeOfFile fileName = .ok code) :
    ∃ (result : Insertion) (fills : List UnitFill), insertNotes fileName text = .ok result ∧
      result.Made code.toList (lineEnding text.toList) text.toList fills := by
  have hi := @insertFrom_eq_applyFrom code.toList (lineEnding text.toList) text.toList []
    text.toList 0 rfl rfl
  have hn : insertNotes fileName text =
      .ok (insertFrom code.toList (lineEnding text.toList) [] text.toList) := by
    unfold insertNotes
    rw [hc]
  refine ⟨_, unitFills code.toList (lineEnding text.toList) text.toList (unitSpans text.toList),
    hn.trans (congrArg Except.ok hi), rfl, rfl, pairwise_replacement_unitFills,
    map_unit_unitFills_sublist _, pairwise_unitSpansFrom, fun fill => fits_of_mem_unitFills,
    fun unit hu value => mem_unit_unitFills hu⟩

theorem insertNotes_replaces_selfClosing :
    codeOfFile "App.de-DE.xlf" = .ok "DEU" ∧
      ∃ (result : Insertion) (fills : List UnitFill),
        insertNotes "App.de-DE.xlf"
          "<trans-unit><target/><note from='Developer'>DEU=a</note></trans-unit>" = .ok result ∧
        result.Made "DEU".toList ['\n']
          "<trans-unit><target/><note from='Developer'>DEU=a</note></trans-unit>".toList fills :=
  ⟨by decide +kernel, insertNotes_replaces_untranslated (by decide +kernel)⟩

end AlAssistant.Xliff
