import AlAssistant.Proofs.Xliff.Proper

/-!
# Pieces that are foreign to a search

Tags of one name are sought past a piece of markup that has none of them. Such a piece may be
exchanged for another: as long as no content of an element reaches over it, the elements that
are found stay the same.
-/
namespace AlAssistant.Xliff

open AlAssistant.Text

/-- Neither a start tag nor an end tag of the name begins in the text. -/
def NoTag (name text : List Char) : Prop :=
  ∀ x, '<' :: x <:+ text → ¬ name <+: x ∧ ¬ '/' :: name <+: x

/-- Neither of two names is how the other begins. -/
def Apart (name other : List Char) : Prop := ¬ name <+: other ∧ ¬ other <+: name

instance (name other : List Char) : Decidable (Apart name other) :=
  inferInstanceAs (Decidable (¬ name <+: other ∧ ¬ other <+: name))

section Tags
variable {name other text rest : List Char}

theorem NoTag.noStart (h : NoTag name text) : NoStart name text := by
  rintro q hq ⟨r, rfl, _⟩
  exact (h _ hq).1 (List.prefix_append name r)

theorem NoTag.noEnd (h : NoTag name text) : ¬ endTag name <:+: text := by
  rintro ⟨a, b, rfl⟩
  have hs : '<' :: ('/' :: name ++ ('>' :: b)) <:+ a ++ endTag name ++ b :=
    ⟨a, by simp [endTag]⟩
  exact (h _ hs).2 (List.prefix_append _ _)

theorem noTag_of_notMem (h : '<' ∉ text) : NoTag name text :=
  fun _ hs => absurd (hs.subset List.mem_cons_self) h

theorem NoTag.append (hn : '<' ∉ name) (h : NoTag name text) (hr : NoTag name ('<' :: rest)) :
    NoTag name (text ++ '<' :: rest) := by
  intro x hx
  rcases suffix_append_cases hx with hx | ⟨s, hs, he⟩
  · exact hr x hx
  · cases s with
    | nil =>
      obtain rfl : x = rest := (List.cons.inj he).2
      exact hr x List.suffix_rfl
    | cons c s =>
      obtain ⟨rfl, rfl⟩ := List.cons.inj he
      obtain ⟨h₁, h₂⟩ := h s hs
      exact ⟨mt (prefix_of_notMem hn) h₁,
        mt (prefix_of_notMem (by simp [hn])) h₂⟩

theorem Apart.not_isPrefix (h : Apart name other) : ¬ name <+: other ++ rest := by
  intro hp
  rcases List.prefix_or_prefix_of_prefix hp (List.prefix_append other rest) with hp | hp
  · exact h.1 hp
  · exact h.2 hp

theorem noTag_open (ho : IsName other) (h : Apart name other) (hr : '<' ∉ rest) :
    NoTag name ('<' :: other ++ rest) := by
  intro x hx
  rcases List.suffix_cons_iff.1 hx with he | hx
  · obtain rfl := (List.cons.inj he).2
    exact ⟨h.not_isPrefix, ho.not_slash_isPrefix⟩
  · have hm : '<' ∈ other ++ rest := hx.subset List.mem_cons_self
    simp [ho.lt, hr] at hm

theorem noTag_close (hn : IsName name) (ho : IsName other) (h : Apart name other)
    (hr : '<' ∉ rest) : NoTag name ('<' :: '/' :: other ++ rest) := by
  intro x hx
  rcases List.suffix_cons_iff.1 hx with he | hx
  · obtain rfl := (List.cons.inj he).2
    refine ⟨hn.not_prefix_slash, fun hp => ?_⟩
    exact h.not_isPrefix (List.cons_prefix_cons.1 hp).2
  · have hm : '<' ∈ '/' :: other ++ rest := hx.subset List.mem_cons_self
    simp [ho.lt, hr] at hm

end Tags

/-- A piece of text from one tag to another that has nothing to do with tags of the name. -/
structure Foreign (name piece : List Char) : Prop where
  sealed : ∃ inner, piece = '<' :: inner ++ ['>']
  noTag : NoTag name piece

section Pieces
variable {name other attributes content : List Char}

theorem NoTag.behind_plain {plain text : List Char} (h : NoTag name text) (hp : '<' ∉ plain) :
    NoTag name (plain ++ text) := by
  intro x hx
  rcases suffix_append_cases hx with hx | ⟨s, hs, he⟩
  · exact h x hx
  · cases s with
    | nil => exact h x (he ▸ List.suffix_rfl)
    | cons c s =>
      obtain ⟨rfl, _⟩ := List.cons.inj he
      exact absurd (hs.subset List.mem_cons_self) hp

theorem Foreign.exists_of_suffix {piece q : List Char} (hp : Foreign name piece) (hq : q ≠ [])
    (hs : q <:+ piece) : ∃ p, q = p ++ ['>'] := by
  obtain ⟨inner, hi⟩ := hp.sealed
  obtain ⟨t, ht⟩ := hs
  have hl := congrArg List.getLast? (ht.trans hi)
  rw [List.getLast?_concat] at hl
  apply List.getLast?_eq_some_iff.1
  simpa [List.getLast?_append, List.getLast?_eq_some_getLast hq] using hl

/-- A tag cannot begin in a foreign piece and end behind it. -/
theorem Foreign.noTag_append {piece text : List Char} (hp : Foreign name piece) (hg : '>' ∉ name)
    (h : NoTag name text) : NoTag name (piece ++ text) := by
  have hcut {m x : List Char} (hm : '>' ∉ m) (hx : m <+: x ++ ['>'] ++ text) :
      m <+: x ++ ['>'] := by
    rcases List.prefix_or_prefix_of_prefix hx (List.prefix_append _ text) with hs | hs
    · exact hs
    · exact absurd (hs.subset (by simp)) hm
  intro x hx
  rcases suffix_append_cases hx with hx | ⟨s, hs, he⟩
  · exact h x hx
  · cases s with
    | nil => exact h x (he ▸ List.suffix_rfl)
    | cons c s =>
      obtain ⟨rfl, rfl⟩ := List.cons.inj he
      obtain ⟨hopen, hclose⟩ := hp.noTag s hs
      obtain ⟨p, hq⟩ := hp.exists_of_suffix (by simp) hs
      cases p with
      | nil => simp at hq
      | cons d p =>
        obtain ⟨-, rfl⟩ := List.cons.inj hq
        exact ⟨mt (hcut hg) hopen, mt (hcut (by simp [hg])) hclose⟩

theorem foreign_startTag (ho : IsName other) (h : Apart name other) (ha : '<' ∉ attributes) :
    Foreign name ('<' :: other ++ attributes ++ ['>']) := by
  refine ⟨⟨other ++ attributes, by simp⟩, ?_⟩
  have hr : '<' ∉ attributes ++ ['>'] := by simp [ha]
  simpa using noTag_open ho h hr

theorem foreign_endTag (hn : IsName name) (ho : IsName other) (h : Apart name other) :
    Foreign name (endTag other) :=
  ⟨⟨'/' :: other, rfl⟩, noTag_close hn ho h (by simp)⟩

theorem foreign_selfClosing (ho : IsName other) (h : Apart name other) (ha : '<' ∉ attributes) :
    Foreign name (Element.render other (.selfClosing attributes)) := by
  refine ⟨⟨other ++ attributes ++ ['/'], by simp [Element.render]⟩, ?_⟩
  have hr : '<' ∉ attributes ++ "/>".toList := by simp [ha]
  simpa [Element.render] using noTag_open ho h hr

theorem foreign_full (hn : IsName name) (ho : IsName other) (h : Apart name other)
    (ha : '<' ∉ attributes) (hc : '<' ∉ content) :
    Foreign name (Element.render other (.full attributes content)) := by
  refine ⟨⟨other ++ attributes ++ ['>'] ++ content ++ "</".toList ++ other,
    by simp [Element.render, endTag]⟩, ?_⟩
  have hr : '<' ∉ attributes ++ ['>'] ++ content := by simp [ha, hc]
  have hs := (noTag_open ho h hr).append hn.lt (noTag_close hn ho h (by simp : '<' ∉ ['>']))
  simpa [Element.render, endTag] using hs

end Pieces

section Over
variable {name lead piece tail : List Char}

theorem opens_append_of_gt {q : List Char} (hg : '>' ∉ name)
    (h : Opens name (q ++ ['>'] ++ tail)) : Opens name (q ++ ['>']) := by
  obtain ⟨r, hr, hw⟩ := h
  rcases List.append_eq_append_iff.1 hr with ⟨y, hy, _⟩ | ⟨y, hy, rfl⟩
  · have hm : '>' ∈ '<' :: name := by simp [hy]
    simp [hg] at hm
  · refine ⟨y, hy, ?_⟩
    cases y with
    | nil => rfl
    | cons d y => exact hw

/-- Nothing of the name is read in a foreign piece. -/
theorem Foreign.elementHere?_eq_none {mayClose : Bool} {q : List Char} (hp : Foreign name piece)
    (hg : '>' ∉ name) (hq : q ≠ []) (hs : q <:+ piece) :
    elementHere? mayClose name (q ++ tail) = none := by
  apply elementHere?_eq_none_of_not_opens
  obtain ⟨p, rfl⟩ := hp.exists_of_suffix hq hs
  exact fun ho => hp.noTag.noStart _ hs (opens_append_of_gt hg ho)

theorem Foreign.elements_append (hp : Foreign name piece) (hg : '>' ∉ name) :
    elements name (piece ++ tail) = elements name tail :=
  Xliff.elements_append fun _ hq hs => hp.elementHere?_eq_none hg hq hs

/-- An end tag that is not in a foreign piece is sought before it and behind it. -/
theorem Foreign.cutAt?_over (hp : Foreign name piece) (hn : IsName name)
    (h : cutAt? (endTag name) lead = none) :
    cutAt? (endTag name) (lead ++ (piece ++ tail)) =
      (cutAt? (endTag name) tail).map fun (x, y) => (lead ++ (piece ++ x), y) := by
  obtain ⟨inner, hi⟩ := hp.sealed
  have hl : '<' ∉ (endTag name).tail := by simp [endTag, hn.lt]
  have hg : '>' ∉ (endTag name).dropLast := by
    unfold endTag
    rw [List.dropLast_concat]
    simp [hn.gt]
  have hs : Seam (endTag name) lead (piece ++ tail) := by
    rw [hi]
    exact seam_of_head hl
  have ht : Seam (endTag name) piece tail := by
    rw [hi]
    exact seam_of_last hg
  rw [cutAt?_append_of_none h hs, cutAt?_append_of_none (cutAt?_eq_none_iff.2 hp.noTag.noEnd) ht,
    Option.map_map]
  rfl

end Over

/-- The elements of a name are the same with one foreign piece in the place of another. -/
theorem elements_replace {name lead old new tail : List Char} (hn : IsName name)
    (ho : Foreign name old) (hw : Foreign name new) (nested : NoNestedTag (lead ++ (old ++ tail)))
    (flat : ∀ e ∈ elements name (lead ++ (old ++ tail)), ∀ content,
      e.content? = some content → '<' ∉ content) :
    elements name (lead ++ (new ++ tail)) = elements name (lead ++ (old ++ tail)) := by
  obtain ⟨io, hio⟩ := ho.sealed
  obtain ⟨iw, hiw⟩ := hw.sealed
  have hold : old ++ tail = '<' :: (io ++ '>' :: tail) := by simp [hio]
  have hnew : new ++ tail = '<' :: (iw ++ '>' :: tail) := by simp [hiw]
  induction hl : lead.length using Nat.strong_induction_on generalizing lead with
  | _ n ih =>
    cases lead with
    | nil =>
      rw [List.nil_append, List.nil_append, ho.elements_append hn.gt, hw.elements_append hn.gt]
    | cons c lead =>
      -- where nothing is read, both sides go on behind the first character
      have hskip (hx : elementHere? true name (c :: (lead ++ (old ++ tail))) = none)
          (hy : elementHere? true name (c :: (lead ++ (new ++ tail))) = none) :
          elements name (c :: (lead ++ (new ++ tail))) =
            elements name (c :: (lead ++ (old ++ tail))) := by
        rw [List.cons_append, elements_cons_of_none hx] at flat
        rw [elements_cons_of_none hx, elements_cons_of_none hy]
        exact ih _ (by simp [← hl]) (nested.mono (List.suffix_cons c _).isInfix) flat rfl
      have hcases := elementHere?_lead hn (by simp) (by simp) (hold ▸ nested)
      rcases hcases with hnone | ⟨e, rest, he, hr⟩ | ⟨tag, rest, hrest, hc, hread⟩
      · exact hskip (hold ▸ hnone _) (hnew ▸ hnone _)
      · have hread (z : List Char) : elements name (c :: lead ++ z) =
            e :: elements name (rest ++ z) := by
          rw [he, List.append_assoc]
          exact elements_of_elementHere? (elementHere?_render hr)
        have hlt : rest.length < n := by
          rw [← hl, he]
          cases e <;> simp [Element.render] <;> omega
        have hsuffix : rest ++ (old ++ tail) <:+ c :: lead ++ (old ++ tail) := by
          rw [he, List.append_assoc]
          exact List.suffix_append ..
        rw [hread] at flat
        rw [hread, hread, ih _ hlt (nested.mono hsuffix.isInfix)
          (fun e' hm => flat e' (List.mem_cons_of_mem e hm)) rfl]
      · have hx := hread (old ++ tail)
        have hy := hread (new ++ tail)
        rw [ho.cutAt?_over hn hc] at hx
        rw [hw.cutAt?_over hn hc] at hy
        cases htail : cutAt? (endTag name) tail with
        | none =>
          rw [htail] at hx hy
          exact hskip hx hy
        | some found =>
          rw [htail] at hx
          have hm := elements_of_elementHere? hx
          have hf := flat _ (hm ▸ List.mem_cons_self) _ rfl
          simp [hio] at hf

end AlAssistant.Xliff
