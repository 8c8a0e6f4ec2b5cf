import AlAssistant.Proofs.Text.Seam
import AlAssistant.Xliff.Element

/-!
# What the scan for an element finds

An element is read at a place exactly when the text there is its rendering and the rendering
reads unambiguously: the attributes hold no `>`, the name ends before them, a start tag that is
not closed by a slash does not end in one, and the content holds no end tag. The scan gives the
first place where this is so. Text in which no start tag of the name begins is passed over, and
whether one begins before a `<` does not depend on what that `<` introduces.
-/
namespace AlAssistant.Xliff

open AlAssistant.Text

theorem isWordChar_lt : isWordChar '<' = false := by decide
theorem isWordChar_gt : isWordChar '>' = false := by decide
theorem isWordChar_slash : isWordChar '/' = false := by decide

/-- A character that ends a word decides like the end of the text. -/
theorem endsWord_append_cons {a b : List Char} {c : Char} (hc : isWordChar c = false) :
    endsWord (a ++ c :: b) = endsWord a := by
  cases a with
  | nil => simp [endsWord, hc]
  | cons d a => rfl

theorem startTag?_eq_some_iff {name text tag rest : List Char} :
    startTag? name text = some (tag, rest) ↔
      text = '<' :: name ++ tag ++ '>' :: rest ∧ '>' ∉ tag ∧ endsWord tag = true := by
  constructor
  · intro h
    have ht := eq_of_startTag? h
    unfold startTag? at h
    rw [ht, List.append_assoc, dropStart?_append, Option.bind_eq_bind, Option.bind_some,
      endsWord_append_cons isWordChar_gt] at h
    split at h
    · next hw => exact ⟨ht, notMem_of_cutAt?_singleton h, hw⟩
    · cases h
  · rintro ⟨rfl, hm, hw⟩
    unfold startTag?
    rw [List.append_assoc, dropStart?_append, Option.bind_eq_bind, Option.bind_some,
      endsWord_append_cons isWordChar_gt, if_pos hw, cutAt?_singleton hm]

theorem dropFinalSlash?_eq_some_iff {tag attributes : List Char} :
    dropFinalSlash? tag = some attributes ↔ tag = attributes ++ ['/'] := by
  refine ⟨eq_of_dropFinalSlash?, ?_⟩
  rintro rfl
  simp [dropFinalSlash?]

theorem dropFinalSlash?_eq_none_iff {tag : List Char} :
    dropFinalSlash? tag = none ↔ tag.getLast? ≠ some '/' := by
  simp [dropFinalSlash?]

/-- What it takes for the rendering of an element to be read as that element. -/
def Element.Reads (mayClose : Bool) (name : List Char) : Element → Prop
  | .selfClosing attributes =>
    mayClose = true ∧ '>' ∉ attributes ∧ endsWord attributes = true
  | .full attributes content =>
    '>' ∉ attributes ∧ endsWord attributes = true ∧
      (mayClose = true → attributes.getLast? ≠ some '/') ∧
      cutAt? (endTag name) (content ++ endTag name) = some (content, [])

section Reading
variable {mayClose : Bool} {name text after : List Char} {element : Element}

/-- A start tag whose final slash has no meaning, or that has none. -/
theorem elementHere?_of_open {tag rest : List Char} (ht : startTag? name text = some (tag, rest))
    (hs : mayClose = true → tag.getLast? ≠ some '/') :
    elementHere? mayClose name text =
      (cutAt? (endTag name) rest).map fun (content, after) => (.full tag content, after) := by
  have hn : (if mayClose then dropFinalSlash? tag else none) = none := by
    split
    · next hc => exact dropFinalSlash?_eq_none_iff.2 (hs hc)
    · rfl
  unfold elementHere?
  rw [ht]
  simp only [Option.bind_eq_bind, Option.bind_some, hn]
  cases cutAt? (endTag name) rest <;> rfl

theorem elementHere?_of_slash {attributes rest : List Char}
    (ht : startTag? name text = some (attributes ++ ['/'], rest)) :
    elementHere? true name text = some (.selfClosing attributes, rest) := by
  unfold elementHere?
  rw [ht]
  simp [dropFinalSlash?_eq_some_iff.2]

theorem elementHere?_eq_none_of_startTag? (ht : startTag? name text = none) :
    elementHere? mayClose name text = none := by
  unfold elementHere?
  rw [ht]
  rfl

theorem reads_of_elementHere? (h : elementHere? mayClose name text = some (element, after)) :
    element.Reads mayClose name := by
  cases ht : startTag? name text with
  | none => simp [elementHere?_eq_none_of_startTag? ht] at h
  | some found =>
    obtain ⟨tag, rest⟩ := found
    obtain ⟨_, hg, hw⟩ := startTag?_eq_some_iff.1 ht
    by_cases hs : mayClose = true → tag.getLast? ≠ some '/'
    · rw [elementHere?_of_open ht hs] at h
      obtain ⟨⟨content, _⟩, hc, he⟩ := Option.map_eq_some_iff.1 h
      cases he
      exact ⟨hg, hw, hs, cutAt?_mark_of_cutAt? hc⟩
    · obtain ⟨rfl, hl⟩ := Classical.not_imp.1 hs
      obtain ⟨attributes, rfl⟩ := List.getLast?_eq_some_iff.1 (Decidable.not_not.1 hl)
      rw [elementHere?_of_slash ht] at h
      cases h
      rw [endsWord_append_cons isWordChar_slash] at hw
      exact ⟨rfl, fun hm => hg (List.mem_append_left _ hm), hw⟩

/-- An element that reads unambiguously is found where it is rendered. -/
theorem elementHere?_render (h : element.Reads mayClose name) :
    elementHere? mayClose name (element.render name ++ after) = some (element, after) := by
  cases element with
  | selfClosing attributes =>
    obtain ⟨rfl, hg, hw⟩ := h
    apply elementHere?_of_slash
    rw [startTag?_eq_some_iff, endsWord_append_cons isWordChar_slash]
    exact ⟨by simp [Element.render], by simpa using hg, hw⟩
  | full attributes content =>
    obtain ⟨hg, hw, hs, hc⟩ := h
    have ht : startTag? name (Element.render name (.full attributes content) ++ after) =
        some (attributes, content ++ endTag name ++ after) :=
      startTag?_eq_some_iff.2 ⟨by simp [Element.render], hg, hw⟩
    rw [elementHere?_of_open ht hs, cutAt?_append_mark hc]
    rfl

theorem cutAt?_endTag_of_notMem {content : List Char} (h : '<' ∉ content) :
    cutAt? (endTag name) (content ++ endTag name) = some (content, []) :=
  cutAt?_append_self (fun hi => h (hi.subset List.mem_cons_self)) (seam_of_notMem h)

theorem reads_full {attributes content : List Char} (hg : '>' ∉ attributes)
    (hw : endsWord attributes = true) (hs : attributes.getLast? ≠ some '/') (hc : '<' ∉ content) :
    (Element.full attributes content).Reads mayClose name :=
  ⟨hg, hw, fun _ => hs, cutAt?_endTag_of_notMem hc⟩

end Reading

/-- A found element with more text in front. -/
def Found.behind (kept : List Char) (found : Found) : Found :=
  { found with before := kept ++ found.before }

section Finding
variable {mayClose : Bool} {name before rest : List Char}

theorem find?_of_elementHere? {text after : List Char} {element : Element}
    (h : elementHere? mayClose name text = some (element, after)) :
    find? mayClose name text = some ⟨[], element, after⟩ := by
  cases text with
  | nil => exact absurd (elementHere?_length h) (Nat.not_lt_zero _)
  | cons c text =>
    unfold find?
    rw [h]

theorem find?_cons_of_none {c : Char} {text : List Char}
    (h : elementHere? mayClose name (c :: text) = none) :
    find? mayClose name (c :: text) = (find? mayClose name text).map (·.behind [c]) := by
  rw [find?, h]
  rfl

/-- Places where nothing is read are passed over. -/
theorem find?_append
    (h : ∀ q, q ≠ [] → q <:+ before → elementHere? mayClose name (q ++ rest) = none) :
    find? mayClose name (before ++ rest) = (find? mayClose name rest).map (·.behind before) := by
  induction before with
  | nil =>
    have hid : Found.behind [] = id := rfl
    simp [hid]
  | cons c before ih =>
    have hc : elementHere? mayClose name (c :: (before ++ rest)) = none :=
      h (c :: before) (by simp) List.suffix_rfl
    rw [List.cons_append, find?_cons_of_none hc,
      ih fun q hq hs => h q hq (hs.trans (List.suffix_cons c before)), Option.map_map]
    rfl

theorem elementHere?_of_find? {text : List Char} {found : Found}
    (h : find? mayClose name text = some found) :
    elementHere? mayClose name (found.element.render name ++ found.after) =
      some (found.element, found.after) := by
  induction text generalizing found with
  | nil => cases h
  | cons c text ih =>
    cases hh : elementHere? mayClose name (c :: text) with
    | some read =>
      rw [find?_of_elementHere? hh] at h
      cases h
      exact elementHere?_render (reads_of_elementHere? hh)
    | none =>
      rw [find?_cons_of_none hh] at h
      obtain ⟨inner, hi, rfl⟩ := Option.map_eq_some_iff.1 h
      exact @ih inner hi

theorem reads_of_find? {text : List Char} {found : Found}
    (h : find? mayClose name text = some found) : found.element.Reads mayClose name :=
  reads_of_elementHere? (elementHere?_of_find? h)

/-- Nothing is read before the place where the first element stands. -/
theorem elementHere?_eq_none_of_find? {text q : List Char} {found : Found}
    (h : find? mayClose name text = some found) (hq : q ≠ []) (hs : q <:+ found.before) :
    elementHere? mayClose name (q ++ found.element.render name ++ found.after) = none := by
  induction text generalizing found with
  | nil => cases h
  | cons c text ih =>
    cases hh : elementHere? mayClose name (c :: text) with
    | some read =>
      rw [find?_of_elementHere? hh] at h
      cases h
      exact absurd (List.suffix_nil.1 hs) hq
    | none =>
      rw [find?_cons_of_none hh] at h
      obtain ⟨inner, hi, rfl⟩ := Option.map_eq_some_iff.1 h
      rcases List.suffix_cons_iff.1 hs with rfl | hs
      · rw [← text_of_find? hi] at hh
        simpa [Found.text, Found.behind] using hh
      · exact @ih inner hi hs

/-- Where nothing is found, nothing is read anywhere. -/
theorem elementHere?_eq_none_of_find?_eq_none {text q : List Char}
    (h : find? mayClose name text = none) (hq : q ≠ []) (hs : q <:+ text) :
    elementHere? mayClose name q = none := by
  induction text with
  | nil => exact absurd (List.suffix_nil.1 hs) hq
  | cons c text ih =>
    cases hh : elementHere? mayClose name (c :: text) with
    | some read => simp [find?_of_elementHere? hh] at h
    | none =>
      rw [find?_cons_of_none hh, Option.map_eq_none_iff] at h
      rcases List.suffix_cons_iff.1 hs with rfl | hs
      · exact hh
      · exact ih h hs

end Finding

/-- A start tag of the name begins here. Whether it ends is left open. -/
def Opens (name text : List Char) : Prop :=
  ∃ rest, text = '<' :: name ++ rest ∧ endsWord rest = true

/-- No start tag of the name begins anywhere in the text. -/
def NoStart (name text : List Char) : Prop := ∀ q, q <:+ text → ¬ Opens name q

section Starts
variable {mayClose : Bool} {name before text rest after : List Char} {element : Element}

theorem elementHere?_eq_none_of_not_opens (h : ¬ Opens name text) :
    elementHere? mayClose name text = none := by
  apply elementHere?_eq_none_of_startTag?
  cases ht : startTag? name text with
  | none => rfl
  | some found =>
    obtain ⟨htext, _, hw⟩ := startTag?_eq_some_iff.1 ht
    refine absurd ⟨found.1 ++ '>' :: found.2, ?_, ?_⟩ h
    · rw [htext, List.append_assoc]
    · rwa [endsWord_append_cons isWordChar_gt]

/-- What a `<` introduces has no part in a tag that begins before it. -/
theorem opens_append_iff {q : List Char} (hn : '<' ∉ name) (hq : q ≠ []) :
    Opens name (q ++ '<' :: rest) ↔ Opens name q := by
  constructor
  · rintro ⟨r, hr, hw⟩
    rcases List.append_eq_append_iff.1 hr with ⟨y, hy, hry⟩ | ⟨y, rfl, rfl⟩
    · cases y with
      | nil => exact ⟨[], by simpa using hy.symm, rfl⟩
      | cons d y =>
        obtain ⟨e, q, rfl⟩ := List.exists_cons_of_ne_nil hq
        simp only [List.cons_append, List.cons.injEq] at hy hry
        exact absurd (by simp [hy.2, ← hry.1]) hn
    · exact ⟨y, rfl, by rwa [endsWord_append_cons isWordChar_lt] at hw⟩
  · rintro ⟨r, rfl, hw⟩
    refine ⟨r ++ '<' :: rest, by simp, ?_⟩
    rwa [endsWord_append_cons isWordChar_lt]

theorem noStart_of_notMem (h : '<' ∉ text) : NoStart name text := by
  rintro q hq ⟨r, rfl, _⟩
  exact h (hq.subset (by simp))

theorem noStart_of_not_isInfix (h : ¬ '<' :: name <:+: text) : NoStart name text := by
  rintro q hq ⟨r, rfl, _⟩
  exact h ((List.prefix_append _ r).isInfix.trans hq.isInfix)

theorem find?_append_of_noStart (hn : '<' ∉ name) (hb : NoStart name before) :
    find? mayClose name (before ++ '<' :: rest) =
      (find? mayClose name ('<' :: rest)).map (·.behind before) :=
  find?_append fun q hq hs =>
    elementHere?_eq_none_of_not_opens (mt (opens_append_iff hn hq).1 (hb q hs))

theorem find?_eq_none_of_noStart (h : NoStart name text) : find? mayClose name text = none := by
  have hf : find? mayClose name (text ++ []) =
      (find? mayClose name []).map (·.behind text) :=
    find?_append fun q _ hs => by
      rw [List.append_nil]
      exact elementHere?_eq_none_of_not_opens (h q hs)
  rwa [List.append_nil] at hf

theorem render_eq_cons : ∃ rest, element.render name ++ after = '<' :: rest := by
  cases element <;> exact ⟨_, rfl⟩

/-- The first element of a text that was put together with no start tag in front of it. -/
theorem find?_render (hn : '<' ∉ name) (hb : NoStart name before)
    (h : element.Reads mayClose name) :
    find? mayClose name (before ++ (element.render name ++ after)) =
      some ⟨before, element, after⟩ := by
  obtain ⟨rest, hr⟩ : ∃ rest, element.render name ++ after = '<' :: rest := render_eq_cons
  have hf : find? mayClose name (element.render name ++ after) = some ⟨[], element, after⟩ :=
    find?_of_elementHere? (elementHere?_render h)
  rw [hr] at hf ⊢
  rw [find?_append_of_noStart hn hb, hf]
  simp [Found.behind]

end Starts

section Elements
variable {name text before rest : List Char}

theorem elements_of_find?_eq_none (h : find? true name text = none) :
    elements name text = [] := by
  rw [elements]
  split
  · rfl
  · next hf => simp [h] at hf

theorem elements_of_find? {found : Found} (h : find? true name text = some found) :
    elements name text = found.element :: elements name found.after := by
  rw [elements]
  split
  · next hf => simp [h] at hf
  · next hf =>
    rw [h] at hf
    cases hf
    rfl

theorem elements_of_elementHere? {element : Element} {after : List Char}
    (h : elementHere? true name text = some (element, after)) :
    elements name text = element :: elements name after :=
  elements_of_find? (find?_of_elementHere? h)

theorem elements_cons_of_none {c : Char} (h : elementHere? true name (c :: text) = none) :
    elements name (c :: text) = elements name text := by
  have hc := find?_cons_of_none h
  cases hf : find? true name text with
  | none =>
    rw [hf, Option.map_none] at hc
    rw [elements_of_find?_eq_none hf, elements_of_find?_eq_none hc]
  | some found =>
    rw [hf, Option.map_some] at hc
    rw [elements_of_find? hf, elements_of_find? hc]
    rfl

theorem elements_append
    (h : ∀ q, q ≠ [] → q <:+ before → elementHere? true name (q ++ rest) = none) :
    elements name (before ++ rest) = elements name rest := by
  induction before with
  | nil => rfl
  | cons c before ih =>
    have hc : elementHere? true name (c :: (before ++ rest)) = none :=
      h (c :: before) (by simp) List.suffix_rfl
    rw [List.cons_append, elements_cons_of_none hc]
    exact ih fun q hq hs => h q hq (hs.trans (List.suffix_cons c before))

end Elements

end AlAssistant.Xliff
