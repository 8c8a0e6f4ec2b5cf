import AlAssistant.Proofs.Xliff.Foreign
import AlAssistant.Proofs.Xliff.NoteValue

/-!
# Changes as exchanges

Each change of a unit puts markup in the place of other markup, none of which has tags of notes
or units. What comes in ends in a target with the value. Seen so, the three kinds of change leave
a unit of the same start tag, and the first target in it is the one that was written or one that
was open before and now holds the written one.
-/
namespace AlAssistant.Xliff

open AlAssistant.Text

section Target
variable {name lead mid attributes value tail x : List Char}

/-- The end tag of a written element is not in front of it. -/
theorem not_isPrefix_endTag (hn : IsName name) (hm : NoTag name mid) :
    ¬ endTag name <+: mid ++ '<' :: name ++ tail := by
  intro hp
  cases mid with
  | nil =>
    have hs : '/' :: (name ++ ['>']) <+: name ++ tail := (List.cons_prefix_cons.1 hp).2
    exact hn.not_slash_isPrefix hs
  | cons c mid =>
    have hp' : '<' :: '/' :: (name ++ ['>']) <+: c :: (mid ++ '<' :: (name ++ tail)) := by
      simpa [endTag] using hp
    obtain ⟨rfl, hs⟩ := List.cons_prefix_cons.1 hp'
    have hl : '/' :: (name ++ ['>']) <+: mid :=
      prefix_of_notMem (by simp [hn.lt]) hs
    exact (hm mid List.suffix_rfl).2 ((List.prefix_append ('/' :: name) ['>']).trans hl)

/-- Behind a text without an end tag, what is cut at the next one reaches into the written
element. -/
theorem exists_cut_into_render (hn : IsName name) (hm : NoTag name mid) {rest written : List Char}
    (hw : mid ++ (Element.render name (.full attributes value) ++ tail) = written)
    (hlt : ∃ y, written = '<' :: y) (hc : cutAt? (endTag name) rest = none) :
    ∃ inner after, cutAt? (endTag name) (rest ++ written) = some (rest ++ inner, after) ∧
      '<' ∈ inner := by
  obtain ⟨y, hy⟩ := hlt
  have hin : endTag name <:+: written := by
    refine ⟨mid ++ '<' :: name ++ attributes ++ ['>'] ++ value, tail, ?_⟩
    rw [← hw]
    simp [Element.render]
  obtain ⟨⟨inner, after⟩, hcut⟩ : ∃ cut, cutAt? (endTag name) written = some cut :=
    Option.ne_none_iff_exists'.1 fun hcut => cutAt?_eq_none_iff.1 hcut hin
  have hwhole := eq_append_of_cutAt? hcut
  have hseam : Seam (endTag name) rest written := by
    rw [hy]
    exact seam_of_head (by simp [endTag, hn.lt])
  refine ⟨inner, after, by rw [cutAt?_append_of_none hc hseam, hcut]; rfl, ?_⟩
  cases inner with
  | nil =>
    -- the written element does not begin with an end tag
    refine absurd ?_ (not_isPrefix_endTag hn hm :
      ¬ _ <+: mid ++ '<' :: name ++ (attributes ++ ['>'] ++ value ++ endTag name ++ tail))
    refine ⟨after, ?_⟩
    rw [List.nil_append] at hwhole
    rw [← hwhole, ← hw]
    simp [Element.render]
  | cons d inner =>
    rw [hy] at hwhole
    obtain ⟨rfl, _⟩ := List.cons.inj hwhole
    exact List.mem_cons_self

/-- Behind a text in which no element could be read the first element is the written one, or one
that encloses markup. -/
theorem find?_behind_quiet (hn : IsName name) (hx : '>' ∈ x)
    (nested : NoNestedTag (lead ++ '<' :: x))
    (quiet : ∀ q, q ≠ [] → q <:+ lead → elementHere? true name (q ++ '<' :: x) = none)
    (hm : NoTag name mid) (hlt : ∃ rest, mid ++ '<' :: name = '<' :: rest)
    (hr : (Element.full attributes value).Reads true name) :
    ∃ found a c, find? true name
        (lead ++ (mid ++ (Element.render name (.full attributes value) ++ tail))) = some found ∧
      found.element = .full a c ∧ (c = value ∨ '<' ∈ c) := by
  obtain ⟨r, hlt⟩ := hlt
  generalize hw : mid ++ (Element.render name (.full attributes value) ++ tail) = written
  have hwlt : ∃ y, written = '<' :: y := by
    refine ⟨r ++ (attributes ++ ['>'] ++ value ++ endTag name ++ tail), ?_⟩
    rw [← hw, ← List.cons_append, ← hlt]
    simp [Element.render]
  induction lead with
  | nil =>
    refine ⟨⟨mid, .full attributes value, tail⟩, attributes, value, ?_, rfl, .inl rfl⟩
    rw [List.nil_append, ← hw]
    exact find?_render hn.lt hm.noStart hr
  | cons c lead ih =>
    rcases elementHere?_lead hn (by simp) hx nested with hnone | ⟨e, rest, he, hr'⟩ |
      ⟨tag, rest, hrest, hc, hread⟩
    · obtain ⟨found, a, content, hf, he, hcontent⟩ :=
        ih (nested.mono (List.suffix_cons c _).isInfix)
          fun q hq hs => quiet q hq (hs.trans (List.suffix_cons c lead))
      have hskip : elementHere? true name (c :: (lead ++ written)) = none := by
        obtain ⟨y, rfl⟩ := hwlt
        exact hnone y
      refine ⟨found.behind [c], a, content, ?_, he, hcontent⟩
      rw [List.cons_append, find?_cons_of_none hskip, hf, Option.map_some]
    · have hq := quiet (c :: lead) (by simp) List.suffix_rfl
      rw [he, List.append_assoc, elementHere?_render hr'] at hq
      cases hq
    · obtain ⟨inner, after, hcut, hi⟩ := exists_cut_into_render hn hm hw hwlt hc
      have hhere : elementHere? true name (c :: lead ++ written) =
          some (.full tag (rest ++ inner), after) := by
        rw [hread, hcut]
        rfl
      exact ⟨_, tag, rest ++ inner, find?_of_elementHere? hhere, rfl,
        .inr (List.mem_append_right rest hi)⟩

end Target

/-- A unit stays a unit when foreign markup gives way to other foreign markup in it. -/
theorem exists_render_of_exchange {name lead old new tail attributes content : List Char}
    (hn : IsName name) (ho : Foreign name old) (hw : Foreign name new)
    (hu : Element.render name (.full attributes content) = lead ++ (old ++ tail))
    (hr : (Element.full attributes content).Reads false name)
    (nested : NoNestedTag (lead ++ (old ++ tail))) :
    ∃ content', lead ++ (new ++ tail) = Element.render name (.full attributes content') ∧
      (Element.full attributes content').Reads false name := by
  obtain ⟨hg, hword, _, hcut⟩ := hr
  obtain ⟨inner, hi⟩ := ho.sealed
  have hx : old ++ tail = '<' :: (inner ++ '>' :: tail) := by simp [hi]
  have hopen : Opens name (lead ++ (old ++ tail)) := by
    refine ⟨attributes ++ '>' :: (content ++ endTag name), ?_, ?_⟩
    · rw [← hu]
      simp [Element.render]
    · rwa [endsWord_append_cons isWordChar_gt]
  have hne : lead ≠ [] := by
    rintro rfl
    rw [List.nil_append, hi] at hopen
    have hold : Opens name old := hi ▸ opens_append_of_gt hn.gt hopen
    exact ho.noTag.noStart old List.suffix_rfl hold
  rw [hx] at hopen nested
  rw [opens_append_iff hn.lt hne] at hopen
  obtain ⟨tag, rest, hl, ht, htw⟩ := hopen.exists_tag hn.gt (by simp) nested
  have hparts : startTag? name (lead ++ (old ++ tail)) = some (tag, rest ++ (old ++ tail)) :=
    startTag?_eq_some_iff.2 ⟨by simp [hl], ht, htw⟩
  have hparts' : startTag? name (lead ++ (old ++ tail)) =
      some (attributes, content ++ endTag name) :=
    startTag?_eq_some_iff.2 ⟨by simp [← hu, Element.render], hg, hword⟩
  obtain ⟨rfl, hbody⟩ := Prod.mk.inj (Option.some.inj (hparts.symm.trans hparts'))
  rw [← hbody] at hcut
  have hrest : cutAt? (endTag name) rest = none := by
    cases hc : cutAt? (endTag name) rest with
    | none => rfl
    | some found =>
      rw [cutAt?_append_of_some hc, hx] at hcut
      simp at hcut
  rw [ho.cutAt?_over hn hrest] at hcut
  obtain ⟨⟨a, b⟩, htail, he⟩ := Option.map_eq_some_iff.1 hcut
  obtain ⟨-, rfl⟩ := Prod.mk.inj he
  have hend := eq_append_of_cutAt? htail
  refine ⟨rest ++ (new ++ a), ?_, hg, hword, by simp, ?_⟩
  · rw [hl, hend]
    simp [Element.render]
  · have hnew := @Foreign.cutAt?_over name rest new tail hw hn hrest
    rw [htail] at hnew
    simpa [hend] using hnew

/-- A change of a unit seen as an exchange: markup gives way to markup that ends in a target with
the value, and no target could be read before it. -/
structure Exchange (value unitText : List Char) (s : Splice)
    (lead old mid attributes tail : List Char) : Prop where
  old_eq : unitText = lead ++ (old ++ tail)
  new_eq : s.new = lead ++ (mid ++ (targetWith attributes value ++ tail))
  foreign_old : ∀ name, IsName name → Apart name targetName → Apart name sourceName →
    Foreign name old
  foreign_new : ∀ name, IsName name → Apart name targetName → Apart name sourceName →
    Foreign name (mid ++ targetWith attributes value)
  quiet : ∀ q, q ≠ [] → q <:+ lead → elementHere? true targetName (q ++ (old ++ tail)) = none
  noTag : NoTag targetName mid
  opens : ∃ rest, mid ++ '<' :: targetName = '<' :: rest
  reads : (Element.full attributes value).Reads true targetName

section Exchanges
variable {code ending lineBefore unitText value attributes content before after : List Char}
  {s : Splice}

theorem notMem_lt_of_startTag {name tag a b : List Char} (hg : '>' ∉ name) (ht : '>' ∉ tag)
    (nested : NoNestedTag (a ++ '<' :: (name ++ tag ++ '>' :: b))) : '<' ∉ tag := by
  have hm : name ++ tag ∈ tagTexts (a ++ '<' :: (name ++ tag ++ '>' :: b)) :=
    mem_tagTexts_iff.2 ⟨a, b, by simp, by simp [hg, ht]⟩
  have hl := nested _ hm
  simp only [List.mem_append, not_or] at hl
  exact hl.2

theorem notMem_lt_of_unitTranslation? (flat : FlatNotes unitText)
    (h : unitTranslation? code unitText = some value) : '<' ∉ value := by
  obtain ⟨hv, _⟩ := unitTranslation?_eq_some_iff.1 h
  obtain ⟨content, hd, hn⟩ := Option.bind_eq_some_iff.1 hv
  obtain ⟨note, hf, hc⟩ := Option.bind_eq_some_iff.1 hd
  have hm := flat note (List.mem_of_find?_eq_some hf) content hc
  exact fun hl => hm ((infix_of_noteValue? hn).subset hl)

theorem notMem_lt_of_mem_placeholders (h : content ∈ placeholders) : '<' ∉ content :=
  (by decide : ∀ p ∈ placeholders, '<' ∉ p) content h

theorem endsWord_of_isPrefix {a b : List Char} (hp : a <+: b) (h : endsWord b = true) :
    endsWord a = true := by
  obtain ⟨t, rfl⟩ := hp
  cases a with
  | nil => rfl
  | cons c a => exact h

theorem getLast?_trimEnd_append {a b : List Char} {c : Char} (h : (trimEnd b).getLast? = some c) :
    (trimEnd (a ++ b)).getLast? = some c := by
  unfold trimEnd at h ⊢
  rw [List.getLast?_reverse] at h ⊢
  rw [List.reverse_append, List.dropWhile_append]
  cases hd : b.reverse.dropWhile isBlank with
  | nil => simp [hd] at h
  | cons d rest =>
    rw [hd] at h
    exact h

theorem exchange_placeholder (nested : NoNestedTag unitText) (hv : '<' ∉ value)
    (hc : content ∈ placeholders)
    (hf : find? true targetName unitText = some ⟨before, .full attributes content, after⟩) :
    Exchange value unitText {
        before := before ++ '<' :: targetName ++ attributes ++ ['>']
        removed := content
        inserted := value
        after := endTag targetName ++ after }
      before (Element.render targetName (.full attributes content)) [] attributes after := by
  obtain ⟨hg, hw, hs, _⟩ := reads_of_find? hf
  have hu := text_of_find? hf
  simp only [Found.text] at hu
  have ha : '<' ∉ attributes := by
    apply notMem_lt_of_startTag isName_target.gt hg
      (a := before) (b := content ++ endTag targetName ++ after)
    rw [← hu] at nested
    simpa [Element.render] using nested
  have hp : '<' ∉ content := notMem_lt_of_mem_placeholders hc
  exact {
    old_eq := by rw [← hu, List.append_assoc]
    new_eq := by simp [Splice.new, targetWith, Element.render]
    foreign_old := fun name hn ht _ => foreign_full hn isName_target ht ha hp
    foreign_new := fun name hn ht _ => foreign_full hn isName_target ht ha hv
    quiet := fun q hq hs => by
      rw [← List.append_assoc]
      exact elementHere?_eq_none_of_find? hf hq hs
    noTag := noTag_of_notMem (by simp)
    opens := ⟨targetName, rfl⟩
    reads := reads_full hg hw (hs rfl) hv }

theorem exchange_selfClosing (nested : NoNestedTag unitText) (hd : NoDoubleSlash unitText)
    (hv : '<' ∉ value)
    (hf : find? true targetName unitText = some ⟨before, .selfClosing attributes, after⟩) :
    Exchange value unitText {
        before := before
        removed := Element.render targetName (.selfClosing attributes)
        inserted := targetWith (trimEnd attributes) value
        after := after }
      before (Element.render targetName (.selfClosing attributes)) [] (trimEnd attributes)
      after := by
  obtain ⟨_, hg, hw⟩ := reads_of_find? hf
  have hu := text_of_find? hf
  simp only [Found.text] at hu
  have htrim := trimEnd_isPrefix attributes
  have hslash : '>' ∉ attributes ++ ['/'] := by simp [hg]
  have ha : '<' ∉ attributes ++ ['/'] := by
    apply notMem_lt_of_startTag isName_target.gt hslash (a := before) (b := after)
    rw [← hu] at nested
    simpa [Element.render] using nested
  have ha' : '<' ∉ attributes := fun h => ha (List.mem_append_left _ h)
  have hlast : (trimEnd attributes).getLast? ≠ some '/' := by
    intro h
    have hm : targetName ++ attributes ++ ['/'] ∈ tagTexts unitText := by
      rw [mem_tagTexts_iff, ← hu]
      exact ⟨before, after, by simp [Element.render], by simp [isName_target.gt, hg]⟩
    exact hd _ hm _ (dropFinalSlash?_eq_some_iff.2 rfl) (getLast?_trimEnd_append h)
  exact {
    old_eq := by rw [← hu, List.append_assoc]
    new_eq := by simp [Splice.new]
    foreign_old := fun name hn ht _ => foreign_selfClosing isName_target ht ha'
    foreign_new := fun name hn ht _ =>
      foreign_full hn isName_target ht (fun h => ha' (htrim.subset h)) hv
    quiet := fun q hq hs => by
      rw [← List.append_assoc]
      exact elementHere?_eq_none_of_find? hf hq hs
    noTag := noTag_of_notMem (by simp)
    opens := ⟨targetName, rfl⟩
    reads := reads_full (fun h => hg (htrim.subset h)) (endsWord_of_isPrefix htrim hw) hlast hv }

theorem notMem_lt_lastIndent (text : List Char) : '<' ∉ lastIndent text := by
  intro h
  have hb := List.mem_takeWhile_imp h
  simp at hb

theorem exchange_source (he : '<' ∉ ending) (hv : '<' ∉ value)
    (ht : find? true targetName unitText = none)
    (hf : find? false sourceName unitText = some ⟨before, .full attributes content, after⟩) :
    Exchange value unitText
      (sourceSplice ending lineBefore value ⟨before, .full attributes content, after⟩)
      (before ++ '<' :: sourceName ++ attributes ++ ['>'] ++ content) (endTag sourceName)
      (endTag sourceName ++ ending ++ lastIndent (lineBefore ++ before)) [] after := by
  have hu := text_of_find? hf
  simp only [Found.text] at hu
  have hold : unitText = before ++ '<' :: sourceName ++ attributes ++ ['>'] ++ content ++
      (endTag sourceName ++ after) := by
    simp [← hu, Element.render]
  have hi : '<' ∉ ['>'] ++ ending ++ lastIndent (lineBefore ++ before) := by
    simp [he, notMem_lt_lastIndent]
  exact {
    old_eq := hold
    new_eq := by simp [Splice.new, sourceSplice, targetWith, Element.render]
    foreign_old := fun name hn _ hs => foreign_endTag hn isName_source hs
    foreign_new := fun name hn ht hs => by
      have htarget := foreign_full hn isName_target ht (by simp : '<' ∉ []) hv
      obtain ⟨inner, hinner⟩ := htarget.sealed
      refine ⟨⟨'/' :: sourceName ++ ['>'] ++ ending ++ lastIndent (lineBefore ++ before) ++
        '<' :: inner, by simp [targetWith, hinner, endTag]⟩, ?_⟩
      have hend : NoTag name ('<' :: (inner ++ ['>'])) := by
        simpa [hinner] using htarget.noTag
      have hclose := (noTag_close hn isName_source hs hi).append hn.lt hend
      simpa [targetWith, hinner, endTag] using hclose
    quiet := fun q hq hs => by
      apply elementHere?_eq_none_of_find?_eq_none ht (by simp [hq])
      obtain ⟨t, ht⟩ := hs
      exact ⟨t, by rw [hold, ← ht, List.append_assoc]⟩
    noTag := by
      simpa [endTag] using noTag_close isName_target isName_source (by decide) hi
    opens := ⟨_, rfl⟩
    reads := reads_full (by simp) rfl (by simp) hv }

theorem exists_exchange (he : '<' ∉ ending) (nested : NoNestedTag unitText)
    (hd : NoDoubleSlash unitText) (flat : FlatNotes unitText)
    (h : unitSplice? code ending lineBefore unitText = some s) :
    ∃ value, unitTranslation? code unitText = some value ∧
      ∃ lead old mid attributes tail, Exchange value unitText s lead old mid attributes tail := by
  obtain ⟨value, hv, hcases⟩ := unitSplice?_cases h
  have hl := notMem_lt_of_unitTranslation? flat hv
  refine ⟨value, hv, ?_⟩
  rcases hcases with ⟨⟨before, element, after⟩, hf, hs⟩ |
    ⟨ht, ⟨before, element, after⟩, hf, rfl⟩
  · rcases targetSplice?_cases hs with ⟨attributes, content, rfl, hc, _, rfl⟩ |
      ⟨attributes, rfl, rfl⟩
    · exact ⟨_, _, _, _, _, exchange_placeholder nested hl hc hf⟩
    · exact ⟨_, _, _, _, _, exchange_selfClosing nested hd hl hf⟩
  · cases element with
    | selfClosing attributes => cases (reads_of_find? hf).1
    | full attributes content => exact ⟨_, _, _, _, _, exchange_source he hl ht hf⟩

end Exchanges

end AlAssistant.Xliff
