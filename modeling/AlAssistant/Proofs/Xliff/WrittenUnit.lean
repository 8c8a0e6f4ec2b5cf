import AlAssistant.Proofs.Xliff.Foreign
import AlAssistant.Xliff.Document

/-!
# Units as a tool writes them

A tool writes attributes in double quotes and every element of a unit on a line of its own. Each
line reads as the element on it and holds no tag of another name, so the scan of the rendered
unit finds its notes, its target and its source where they were written.
-/
namespace AlAssistant.Xliff

open AlAssistant.Text

/-- An attribute of a tag. -/
structure Attribute where
  name : List Char
  value : List Char
deriving DecidableEq, Repr

def Attribute.render (a : Attribute) : List Char :=
  ' ' :: a.name ++ "=\"".toList ++ a.value ++ ['"']

structure Attribute.WellFormed (a : Attribute) : Prop where
  name : a.name.all (fun c => isAlphanumeric c || c == '-' || c == ':') = true
  value : '"' ∉ a.value ∧ '<' ∉ a.value ∧ '>' ∉ a.value

/-- What may stand behind the name in a tag. -/
def IsAttributes (text : List Char) : Prop :=
  ∃ as : List Attribute, (∀ a ∈ as, a.WellFormed) ∧ text = as.flatMap (·.render)

structure Element.WellFormed (element : Element) : Prop where
  attributes : IsAttributes element.attributes
  content : ∀ content ∈ element.content?, '<' ∉ content

structure ElementLine.WellFormed (line : ElementLine) : Prop where
  indent : '<' ∉ line.indent
  element : line.element.WellFormed

structure TransUnit.WellFormed (unit : TransUnit) : Prop where
  attributes : IsAttributes unit.attributes
  sourceIndent : unit.sourceIndent.all (fun c => c == ' ' || c == '\t') = true
  source : '<' ∉ unit.source
  target : ∀ line ∈ unit.target, line.WellFormed
  notes : ∀ line ∈ unit.notes, line.WellFormed
  endIndent : '<' ∉ unit.endIndent

section Attributes
variable {text : List Char}

theorem Attribute.WellFormed.notMem {a : Attribute} (h : a.WellFormed) :
    '<' ∉ a.render ∧ '>' ∉ a.render := by
  have hlt : '<' ∉ a.name := fun hm => absurd (List.all_eq_true.1 h.name '<' hm) (by decide)
  have hgt : '>' ∉ a.name := fun hm => absurd (List.all_eq_true.1 h.name '>' hm) (by decide)
  obtain ⟨_, hlv, hgv⟩ := h.value
  constructor
  · simp [Attribute.render, hlt, hlv]
  · simp [Attribute.render, hgt, hgv]

theorem IsAttributes.lt (h : IsAttributes text) : '<' ∉ text := by
  obtain ⟨as, ha, rfl⟩ := h
  intro hm
  obtain ⟨a, hin, hc⟩ := List.mem_flatMap.1 hm
  exact (ha a hin).notMem.1 hc

theorem IsAttributes.gt (h : IsAttributes text) : '>' ∉ text := by
  obtain ⟨as, ha, rfl⟩ := h
  intro hm
  obtain ⟨a, hin, hc⟩ := List.mem_flatMap.1 hm
  exact (ha a hin).notMem.2 hc

theorem IsAttributes.endsWord (h : IsAttributes text) : endsWord text = true := by
  obtain ⟨as, _, rfl⟩ := h
  cases as with
  | nil => rfl
  | cons a as => rfl

theorem IsAttributes.getLast?_ne (h : IsAttributes text) : text.getLast? ≠ some '/' := by
  obtain ⟨as, _, rfl⟩ := h
  rcases List.eq_nil_or_concat as with rfl | ⟨as, a, rfl⟩
  · simp
  · rw [List.concat_eq_append, List.flatMap_append, List.flatMap_singleton, Attribute.render,
      ← List.append_assoc, List.getLast?_concat]
    simp

end Attributes

section Lines
variable {name other ending rest : List Char} {element : Element} {line : ElementLine}
  {lines : List ElementLine}

theorem Element.WellFormed.reads (h : element.WellFormed) : element.Reads true name := by
  obtain ⟨ha, hc⟩ := h
  cases element with
  | selfClosing attributes => exact ⟨rfl, ha.gt, ha.endsWord⟩
  | full attributes content => exact reads_full ha.gt ha.endsWord ha.getLast?_ne (hc content rfl)

theorem Element.WellFormed.foreign (h : element.WellFormed) (hn : IsName name) (ho : IsName other)
    (ha : Apart name other) : Foreign name (element.render other) := by
  obtain ⟨hattributes, hc⟩ := h
  cases element with
  | selfClosing attributes => exact foreign_selfClosing ho ha hattributes.lt
  | full attributes content => exact foreign_full hn ho ha hattributes.lt (hc content rfl)

/-- A line has no tags of another name than that of its element. -/
theorem ElementLine.WellFormed.noTag_append (h : line.WellFormed) (he : '<' ∉ ending)
    (hn : IsName name) (ho : IsName other) (ha : Apart name other) (hr : NoTag name rest) :
    NoTag name (line.render ending other ++ rest) := by
  have hp : '<' ∉ ending ++ line.indent := by simp [he, h.indent]
  have hl := ((h.element.foreign hn ho ha).noTag_append hn.gt hr).behind_plain hp
  simpa [ElementLine.render] using hl

theorem Foreign.append_line {piece : List Char} (hp : Foreign name piece) (h : line.WellFormed)
    (he : '<' ∉ ending) (hn : IsName name) (ho : IsName other) (ha : Apart name other) :
    Foreign name (piece ++ line.render ending other) := by
  obtain ⟨i, hi⟩ := hp.sealed
  obtain ⟨j, hj⟩ := (h.element.foreign hn ho ha).sealed
  refine ⟨⟨i ++ ['>'] ++ ending ++ line.indent ++ '<' :: j, ?_⟩, ?_⟩
  · simp [ElementLine.render, hi, hj]
  · have hl := h.noTag_append he hn ho ha (noTag_of_notMem (by simp : '<' ∉ []))
    rw [List.append_nil] at hl
    exact hp.noTag_append hn.gt hl

theorem noTag_flatMap_append (h : ∀ line ∈ lines, line.WellFormed) (he : '<' ∉ ending)
    (hn : IsName name) (ho : IsName other) (ha : Apart name other) (hr : NoTag name rest) :
    NoTag name (lines.flatMap (·.render ending other) ++ rest) := by
  induction lines with
  | nil => exact hr
  | cons line lines ih =>
    rw [List.flatMap_cons, List.append_assoc]
    apply (h line List.mem_cons_self).noTag_append he hn ho ha
    exact ih fun l hl => h l (List.mem_cons_of_mem line hl)

/-- Lines read as the elements on them. -/
theorem elements_flatMap_append (h : ∀ line ∈ lines, line.WellFormed) (he : '<' ∉ ending)
    (hn : IsName name) :
    elements name (lines.flatMap (·.render ending name) ++ rest) =
      lines.map (·.element) ++ elements name rest := by
  induction lines with
  | nil => rfl
  | cons line lines ih =>
    have hl := h line List.mem_cons_self
    have hp : '<' ∉ ending ++ line.indent := by simp [he, hl.indent]
    have hf : find? true name (ending ++ line.indent ++ (line.element.render name ++
          (lines.flatMap (·.render ending name) ++ rest))) =
        some ⟨ending ++ line.indent, line.element, lines.flatMap (·.render ending name) ++ rest⟩ :=
      find?_render hn.lt (noStart_of_notMem hp) hl.element.reads
    have ht : (line :: lines).flatMap (·.render ending name) ++ rest =
        ending ++ line.indent ++ (line.element.render name ++
          (lines.flatMap (·.render ending name) ++ rest)) := by
      simp [ElementLine.render]
    rw [ht, elements_of_find? hf, ih fun l hl => h l (List.mem_cons_of_mem line hl)]
    rfl

end Lines

namespace TransUnit

def startTag (unit : TransUnit) : List Char := '<' :: unitName ++ unit.attributes ++ ['>']

/-- What follows the target. -/
def behindTarget (ending : List Char) (unit : TransUnit) : List Char :=
  unit.notes.flatMap (·.render ending noteName) ++ (ending ++ unit.endIndent ++ endTag unitName)

section Scans
variable {name ending code after : List Char} {unit : TransUnit}

theorem render_eq : unit.render ending =
    unit.startTag ++ (unit.sourceLine.render ending sourceName ++
      (unit.target.toList.flatMap (·.render ending targetName) ++ unit.behindTarget ending)) := by
  simp [TransUnit.render, body, startTag, behindTarget, Element.render]

theorem WellFormed.wellFormed_sourceLine (hu : unit.WellFormed) : unit.sourceLine.WellFormed := by
  have hi : '<' ∉ unit.sourceIndent :=
    fun hm => absurd (List.all_eq_true.1 hu.sourceIndent '<' hm) (by decide)
  refine ⟨hi, ⟨[], by simp, rfl⟩, fun content hc => ?_⟩
  obtain rfl := Option.some.inj hc
  exact hu.source

theorem render_of_target {line : ElementLine} (ht : unit.target = some line) :
    unit.render ending = unit.startTag ++ unit.sourceLine.render ending sourceName ++
      (ending ++ line.indent) ++ (line.element.render targetName ++ unit.behindTarget ending) := by
  simp [render_eq, ht, ElementLine.render]

/-- What stands above the target. -/
theorem WellFormed.foreign_above (hu : unit.WellFormed) (he : '<' ∉ ending) (hn : IsName name)
    (ha : Apart name unitName) (hs : Apart name sourceName) :
    Foreign name (unit.startTag ++ unit.sourceLine.render ending sourceName) :=
  (foreign_startTag isName_unit ha hu.attributes.lt).append_line hu.wellFormed_sourceLine he hn
    isName_source hs

theorem WellFormed.noTag_end (hu : unit.WellFormed) (he : '<' ∉ ending) (hn : IsName name)
    (ha : Apart name unitName) : NoTag name (ending ++ unit.endIndent ++ endTag unitName) := by
  have hp : '<' ∉ ending ++ unit.endIndent := by simp [he, hu.endIndent]
  exact (foreign_endTag hn isName_unit ha).noTag.behind_plain hp

/-- A name that is not that of a note does not occur behind the target. -/
theorem WellFormed.noTag_behindTarget (hu : unit.WellFormed) (he : '<' ∉ ending)
    (hn : IsName name) (ha : Apart name unitName) (hnote : Apart name noteName) :
    NoTag name (unit.behindTarget ending) :=
  noTag_flatMap_append hu.notes he hn isName_note hnote (hu.noTag_end he hn ha)

/-- The unit reads as one element up to its own end tag. -/
theorem WellFormed.reads (hu : unit.WellFormed) (he : '<' ∉ ending) :
    (Element.full unit.attributes (unit.body ending)).Reads false unitName := by
  have hend : NoTag unitName (ending ++ unit.endIndent) :=
    noTag_of_notMem (by simp [he, hu.endIndent])
  have hnotes := noTag_flatMap_append hu.notes he isName_unit isName_note (by decide) hend
  have htarget : ∀ line ∈ unit.target.toList, line.WellFormed :=
    fun line hl => hu.target line (Option.mem_toList.1 hl)
  have hbody := hu.wellFormed_sourceLine.noTag_append he isName_unit isName_source (by decide)
    (noTag_flatMap_append htarget he isName_unit isName_target (by decide) hnotes)
  have hb : ¬ endTag unitName <:+: unit.body ending := by
    have hn := hbody.noEnd
    simpa [body] using hn
  exact ⟨hu.attributes.gt, hu.attributes.endsWord, by simp,
    cutAt?_append_self hb (seam_of_head (by decide))⟩

/-- The notes of the unit are found as they were written. -/
theorem WellFormed.elements_note (hu : unit.WellFormed) (he : '<' ∉ ending) :
    elements noteName (unit.render ending) = unit.notes.map (·.element) := by
  have habove : Foreign noteName (unit.startTag ++ unit.sourceLine.render ending sourceName) :=
    hu.foreign_above he isName_note (by decide) (by decide)
  have hhead : Foreign noteName (unit.startTag ++ unit.sourceLine.render ending sourceName ++
      unit.target.toList.flatMap (·.render ending targetName)) := by
    cases ht : unit.target with
    | none => simpa using habove
    | some line =>
      simpa using habove.append_line (hu.target line ht) he isName_note isName_target (by decide)
  have hend : elements noteName (ending ++ unit.endIndent ++ endTag unitName) = [] :=
    elements_of_find?_eq_none (find?_eq_none_of_noStart
      (hu.noTag_end he isName_note (by decide)).noStart)
  rw [render_eq, ← List.append_assoc, ← List.append_assoc, hhead.elements_append isName_note.gt,
    behindTarget, elements_flatMap_append hu.notes he isName_note, hend, List.append_nil]

/-- The translation in the text of a unit is that of the unit. -/
theorem WellFormed.unitTranslation?_render (hu : unit.WellFormed) (he : '<' ∉ ending) :
    unitTranslation? code (unit.render ending) = unit.translation? code := by
  unfold unitTranslation? developerNote? translation?
  rw [hu.elements_note he, List.find?_map, Option.bind_map]
  rfl

theorem WellFormed.find?_source (hu : unit.WellFormed) (he : '<' ∉ ending) :
    find? false sourceName (unit.render ending) =
      some ⟨unit.startTag ++ (ending ++ unit.sourceIndent), .full [] unit.source,
        unit.target.toList.flatMap (·.render ending targetName) ++ unit.behindTarget ending⟩ := by
  have hi : '<' ∉ unit.sourceIndent := hu.wellFormed_sourceLine.indent
  have hp : '<' ∉ ending ++ unit.sourceIndent := by simp [he, hi]
  have hb : NoTag sourceName (unit.startTag ++ (ending ++ unit.sourceIndent)) :=
    (foreign_startTag isName_unit (by decide) hu.attributes.lt).noTag_append isName_source.gt
      (noTag_of_notMem hp)
  have ht : unit.render ending = unit.startTag ++ (ending ++ unit.sourceIndent) ++
      (Element.render sourceName (.full [] unit.source) ++
        (unit.target.toList.flatMap (·.render ending targetName) ++ unit.behindTarget ending)) := by
    simp [render_eq, sourceLine, ElementLine.render]
  rw [ht]
  exact find?_render isName_source.lt hb.noStart (reads_full (by simp) rfl (by simp) hu.source)

theorem WellFormed.find?_target_of_some {line : ElementLine} (hu : unit.WellFormed)
    (he : '<' ∉ ending) (ht : unit.target = some line) :
    find? true targetName (unit.render ending) =
      some ⟨unit.startTag ++ unit.sourceLine.render ending sourceName ++ (ending ++ line.indent),
        line.element, unit.behindTarget ending⟩ := by
  have hl := hu.target line ht
  have hp : '<' ∉ ending ++ line.indent := by simp [he, hl.indent]
  have hb := (hu.foreign_above he isName_target (by decide) (by decide)).noTag_append
    isName_target.gt (noTag_of_notMem hp)
  rw [render_of_target ht]
  exact find?_render isName_target.lt hb.noStart hl.element.reads

theorem WellFormed.find?_target_of_none (hu : unit.WellFormed) (he : '<' ∉ ending)
    (ht : unit.target = none) : find? true targetName (unit.render ending) = none := by
  have hb := (hu.foreign_above he isName_target (by decide) (by decide)).noTag_append
    isName_target.gt (hu.noTag_behindTarget he isName_target (by decide) (by decide))
  have hr : unit.render ending = unit.startTag ++ unit.sourceLine.render ending sourceName ++
      unit.behindTarget ending := by
    simp [render_eq, ht]
  rw [hr]
  exact find?_eq_none_of_noStart hb.noStart

end Scans

end TransUnit

end AlAssistant.Xliff
