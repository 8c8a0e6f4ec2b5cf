import AlAssistant.Proofs.Xliff.WrittenUnit

/-!
# Filling a document by its text

For a document as a tool writes it, an insertion into its text gives the text of the filled
document, and counts the units that filling changes. The header and what stands between units are
any text without the beginning of a unit.
-/
namespace AlAssistant.Xliff

open AlAssistant.Text

/-- Lines end in `ending` throughout: where that is a line feed alone, no carriage return stands
before one. -/
def UsesEnding (ending text : List Char) : Prop :=
  ending = ['\n'] ∧ ¬ ['\r', '\n'] <:+: text ∨ ending = ['\r', '\n']

structure Document.WellFormed (document : Document) : Prop where
  header : ¬ "<trans-unit".toList <:+: document.header
  units : ∀ unit ∈ document.units, unit.1.WellFormed
  separators : ∀ unit ∈ document.units, ¬ "<trans-unit".toList <:+: unit.2

section Endings
variable {ending text : List Char}

theorem UsesEnding.lt (h : UsesEnding ending text) : '<' ∉ ending := by
  rcases h with ⟨rfl, _⟩ | rfl <;> decide

theorem UsesEnding.exists_append (h : UsesEnding ending text) :
    ∃ start, ending = start ++ ['\n'] := by
  rcases h with ⟨rfl, _⟩ | rfl
  · exact ⟨[], rfl⟩
  · exact ⟨['\r'], rfl⟩

theorem UsesEnding.lineEnding_eq (h : UsesEnding ending text) (hi : ending <:+: text) :
    lineEnding text = ending := by
  unfold lineEnding
  rcases h with ⟨rfl, hn⟩ | rfl
  · rw [← occursIn_iff] at hn
    rw [if_neg hn]
  · rw [if_pos (occursIn_iff.2 hi)]

theorem afterLast_append_cons {c : Char} {a b : List Char} (h : c ∉ b) :
    afterLast c (a ++ c :: b) = b := by
  have hb : ∀ d ∈ b.reverse, decide (d ≠ c) = true := by
    intro d hd
    have hne : d ≠ c := by
      rintro rfl
      exact h (List.mem_reverse.1 hd)
    simpa using hne
  have hr : (a ++ c :: b).reverse = b.reverse ++ c :: a.reverse := by simp
  unfold afterLast
  rw [hr, List.takeWhile_append_of_pos hb]
  simp

/-- A line is indented by the blanks behind the ending of the line above it. -/
theorem lastIndent_append {above indent : List Char} (he : ∃ start, ending = start ++ ['\n'])
    (hi : indent.all (fun c => c == ' ' || c == '\t') = true) :
    lastIndent (above ++ (ending ++ indent)) = indent := by
  obtain ⟨start, rfl⟩ := he
  have hn : '\n' ∉ indent :=
    fun hm => absurd (List.all_eq_true.1 hi '\n' hm) (by decide)
  have ht : above ++ (start ++ ['\n'] ++ indent) = above ++ start ++ '\n' :: indent := by simp
  unfold lastIndent
  rw [ht, afterLast_append_cons hn, List.takeWhile_eq_self_iff]
  exact List.all_eq_true.1 hi

end Endings

namespace TransUnit

section Filling
variable {code ending above value : List Char} {unit : TransUnit}

theorem fill?_of_none (h : unit.translation? code = none) : unit.fill? code = none := by
  unfold fill?
  rw [h]
  rfl

theorem fill?_of_some (h : unit.translation? code = some value) :
    unit.fill? code =
      (unit.filledTarget? value).map fun target => { unit with target := some target } := by
  unfold fill?
  rw [h]
  rfl

/-- The unit with a target that holds the value. -/
theorem render_withTarget (indent attributes value : List Char) :
    ({ unit with target := some ⟨indent, .full attributes value⟩ } : TransUnit).render ending =
      unit.startTag ++ unit.sourceLine.render ending sourceName ++ (ending ++ indent) ++
        (targetWith attributes value ++ unit.behindTarget ending) :=
  @render_of_target ending { unit with target := some ⟨indent, .full attributes value⟩ } _ rfl

/-- A unit that is filled is another one than before. -/
theorem ne_of_fill? {filled : TransUnit} (h : unit.fill? code = some filled) : filled ≠ unit := by
  rintro rfl
  cases hv : filled.translation? code with
  | none => simp [fill?_of_none hv] at h
  | some value =>
    rw [fill?_of_some hv] at h
    obtain ⟨target, hf, he⟩ := Option.map_eq_some_iff.1 h
    have ht : some target = filled.target := congrArg TransUnit.target he
    unfold filledTarget? at hf
    split at hf
    · next hn => simp [hn] at ht
    · next hs =>
      cases hf
      simp [hs] at ht
    · next hs =>
      split at hf
      · next hc =>
        cases hf
        rw [hs] at ht
        simp only [Option.some.injEq, ElementLine.mk.injEq, Element.full.injEq, true_and] at ht
        exact hc.2 ht.symm
      · cases hf

/-- The replacement in the text of a unit gives the text of the filled unit. -/
theorem WellFormed.splice_render (hu : unit.WellFormed) (he : '<' ∉ ending)
    (hn : ∃ start, ending = start ++ ['\n']) :
    (unitSplice? code ending above (unit.render ending)).map (·.new) =
      (unit.fill? code).map (·.render ending) := by
  cases hv : unit.translation? code with
  | none =>
    have hs : unitSplice? code ending above (unit.render ending) = none :=
      unitSplice?_of_none ((hu.unitTranslation?_render he).trans hv)
    rw [hs, fill?_of_none hv]
    rfl
  | some value =>
    rw [unitSplice?_of_some ((hu.unitTranslation?_render he).trans hv), fill?_of_some hv]
    cases ht : unit.target with
    | none =>
      have hi : lastIndent (above ++ (unit.startTag ++ (ending ++ unit.sourceIndent))) =
          unit.sourceIndent := by
        rw [← List.append_assoc]
        exact lastIndent_append hn hu.sourceIndent
      rw [hu.find?_target_of_none he ht]
      simp only [hu.find?_source he, filledTarget?, ht, Option.map_some, render_withTarget,
        sourceSplice, Splice.new, hi]
      simp [sourceLine, ElementLine.render]
    | some line =>
      obtain ⟨indent, element⟩ := line
      rw [hu.find?_target_of_some he ht]
      cases element with
      | selfClosing attributes =>
        simp only [targetSplice?, filledTarget?, ht, Option.map_some, render_withTarget,
          Splice.new]
        simp
      | full attributes content =>
        by_cases hc : content ∈ placeholders ∧ content ≠ value
        · have hb : (placeholders.contains content && content != value) = true := by simpa using hc
          simp only [targetSplice?, filledTarget?, ht, if_pos hc, if_pos hb, Option.map_some,
            render_withTarget, Splice.new]
          simp [targetWith, Element.render]
        · have hb : ¬ (placeholders.contains content && content != value) = true := by
            simpa using hc
          simp only [targetSplice?, filledTarget?, ht, if_neg hc, if_neg hb, Option.map_none]

end Filling

end TransUnit

namespace Document

section Text
variable {code ending lineBefore : List Char}

/-- The pass over units that follow a text in which no unit begins. -/
theorem insertFrom_units {units : List (TransUnit × List Char)} {separator : List Char}
    (hu : ∀ unit ∈ units, unit.1.WellFormed)
    (hs : ∀ unit ∈ units, ¬ "<trans-unit".toList <:+: unit.2)
    (hb : ¬ "<trans-unit".toList <:+: separator) (he : '<' ∉ ending)
    (hn : ∃ start, ending = start ++ ['\n']) :
    insertFrom code ending lineBefore
        (separator ++ units.flatMap fun (unit, after) => unit.render ending ++ after) =
      ⟨separator ++ units.flatMap fun (unit, after) =>
          ((unit.fill? code).getD unit).render ending ++ after,
        units.countP fun (unit, _) => (unit.fill? code).isSome⟩ := by
  induction units generalizing separator lineBefore with
  | nil =>
    have hf : find? false unitName separator = none :=
      find?_eq_none_of_noStart (noStart_of_not_isInfix hb)
    simp [insertFrom_of_none hf]
  | cons head units ih =>
    obtain ⟨unit, after⟩ := head
    have hw := hu (unit, after) List.mem_cons_self
    have hrest := fun above => @ih above after
      (fun u hm => hu u (List.mem_cons_of_mem _ hm))
      (fun u hm => hs u (List.mem_cons_of_mem _ hm)) (hs (unit, after) List.mem_cons_self)
    have hf := @find?_render false unitName separator
      (after ++ units.flatMap fun (unit, after) => unit.render ending ++ after)
      (.full unit.attributes (unit.body ending)) isName_unit.lt (noStart_of_not_isInfix hb)
      (hw.reads he)
    have ht : separator ++ ((unit, after) :: units).flatMap (fun (unit, after) =>
          unit.render ending ++ after) =
        separator ++ (Element.render unitName (.full unit.attributes (unit.body ending)) ++
          (after ++ units.flatMap fun (unit, after) => unit.render ending ++ after)) := by
      simp [TransUnit.render]
    have hu' : Element.render unitName (.full unit.attributes (unit.body ending)) =
        unit.render ending := rfl
    rw [ht, insertFrom_of_some hf]
    simp only [hu', hrest]
    generalize afterLast '\n' (lineBefore ++ separator) = above
    have hsplice := @TransUnit.WellFormed.splice_render code ending above unit hw he hn
    cases hfill : unit.fill? code with
    | none =>
      rw [hfill, Option.map_none, Option.map_eq_none_iff] at hsplice
      rw [hsplice]
      simp [Insertion.behindUnit, Insertion.behind, hfill]
    | some filled =>
      rw [hfill, Option.map_some] at hsplice
      obtain ⟨s, hs, hnew⟩ := Option.map_eq_some_iff.1 hsplice
      rw [hs]
      simp [Insertion.behindUnit, Insertion.behind, hfill, hnew]

theorem render_fill (document : Document) :
    (document.fill code).render ending =
      document.header ++ document.units.flatMap fun (unit, after) =>
        ((unit.fill? code).getD unit).render ending ++ after := by
  simp [fill, render, List.flatMap_map]

/-- Filling counts the units that it changes. -/
theorem fillCount_eq (document : Document) :
    document.fillCount code = document.units.countP fun (unit, _) =>
      (unit.fill? code).getD unit ≠ unit := by
  have hchanged (unit : TransUnit) :
      (unit.fill? code).isSome = decide ((unit.fill? code).getD unit ≠ unit) := by
    cases h : unit.fill? code with
    | none => simp
    | some filled => simp [TransUnit.ne_of_fill? h]
  unfold fillCount
  simp only [hchanged]

/-- A unit has an ending of a line in it. -/
theorem lineEnding_render {document : Document} (he : UsesEnding ending (document.render ending))
    (hne : document.units ≠ []) : lineEnding (document.render ending) = ending := by
  apply he.lineEnding_eq
  obtain ⟨⟨unit, after⟩, units, hu⟩ := List.exists_cons_of_ne_nil hne
  simp only [render, hu, List.flatMap_cons, TransUnit.render_eq, ElementLine.render]
  exact ⟨document.header ++ unit.startTag, _, by simp only [List.append_assoc]; rfl⟩

end Text

/-- An insertion into the text of a document gives the text of the filled document. -/
theorem insertNotes_render {fileName code : String} {ending : List Char} {document : Document}
    (hc : codeOfFile fileName = .ok code) (hd : document.WellFormed)
    (he : UsesEnding ending (document.render ending)) :
    insertNotes fileName (String.ofList (document.render ending)) =
        .ok ⟨(document.fill code.toList).render ending, document.fillCount code.toList⟩ ∧
      document.fillCount code.toList = document.units.countP fun (unit, _) =>
        (unit.fill? code.toList).getD unit ≠ unit := by
  refine ⟨?_, document.fillCount_eq⟩
  have hi : insertFrom code.toList (lineEnding (document.render ending)) []
      (document.render ending) =
        ⟨(document.fill code.toList).render ending, document.fillCount code.toList⟩ := by
    rw [render_fill]
    cases hu : document.units with
    | nil =>
      have hf : find? false unitName document.header = none :=
        find?_eq_none_of_noStart (noStart_of_not_isInfix hd.header)
      simp [render, fillCount, hu, insertFrom_of_none hf]
    | cons unit units =>
      rw [lineEnding_render he (by simp [hu]), ← hu]
      exact insertFrom_units hd.units hd.separators hd.header he.lt he.exists_append
  unfold insertNotes
  rw [hc]
  simp only [String.toList_ofList]
  rw [hi]

/-- A document of one unit, with a target that closes itself and a note. -/
def oneUnit : Document where
  header := "<xliff>".toList
  units := [({
    attributes := " id=\"1\"".toList
    sourceIndent := "  ".toList
    source := "One".toList
    target := some ⟨"  ".toList, .selfClosing []⟩
    notes := [⟨"  ".toList, .full " from=\"Developer\"".toList "DEU=Eins".toList⟩]
    endIndent := [] }, "</xliff>".toList)]

theorem wellFormed_oneUnit : oneUnit.WellFormed := by
  refine ⟨by decide +kernel, ?_, by decide +kernel⟩
  intro unit hu
  obtain rfl := List.mem_singleton.1 hu
  refine ⟨⟨[⟨"id".toList, "1".toList⟩], ?_, rfl⟩, by decide, by decide, ?_, ?_, by decide⟩
  · intro a ha
    obtain rfl := List.mem_singleton.1 ha
    exact ⟨by decide, by decide⟩
  · intro line hl
    obtain rfl := Option.mem_some_iff.1 hl
    exact ⟨by decide, ⟨[], by simp, rfl⟩, by decide⟩
  · intro line hl
    obtain rfl := List.mem_singleton.1 hl
    refine ⟨by decide, ⟨[⟨"from".toList, "Developer".toList⟩], ?_,
      by decide +kernel⟩, by decide⟩
    intro a ha
    obtain rfl := List.mem_singleton.1 ha
    exact ⟨by decide +kernel, by decide +kernel⟩

theorem insertNotes_render_oneUnit :
    codeOfFile "App.de-DE.xlf" = .ok "DEU" ∧ oneUnit.WellFormed ∧
      UsesEnding ['\n'] (oneUnit.render ['\n']) ∧
      insertNotes "App.de-DE.xlf" (String.ofList (oneUnit.render ['\n'])) =
        .ok ⟨(oneUnit.fill "DEU".toList).render ['\n'], oneUnit.fillCount "DEU".toList⟩ ∧
      oneUnit.fillCount "DEU".toList = oneUnit.units.countP fun (unit, _) =>
        (unit.fill? "DEU".toList).getD unit ≠ unit := by
  have hc : codeOfFile "App.de-DE.xlf" = .ok "DEU" := by decide +kernel
  have he : UsesEnding ['\n'] (oneUnit.render ['\n']) := .inl ⟨rfl, by decide +kernel⟩
  exact ⟨hc, wellFormed_oneUnit, he, insertNotes_render hc wellFormed_oneUnit he⟩

end Document

end AlAssistant.Xliff
