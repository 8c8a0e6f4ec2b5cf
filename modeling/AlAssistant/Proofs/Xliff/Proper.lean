import AlAssistant.Proofs.Xliff.UnitChange

/-!
# Lexically proper text

A text is lexically proper when no tag holds the beginning of another, no tag that closes itself
has a further slash before its own, and no note holds markup. In such a text a tag that begins
before another also ends before it, so that what is read there depends on the rest of the text
only as far as an end tag is missing.
-/
namespace AlAssistant.Xliff

open AlAssistant.Text

/-- What stands between each `<` and the next `>`. -/
def tagTexts : List Char → List (List Char)
  | [] => []
  | c :: text =>
    if c = '<' then ((cutAt? ['>'] text).map (·.1)).toList ++ tagTexts text else tagTexts text

theorem mem_tagTexts_iff {text tag : List Char} :
    tag ∈ tagTexts text ↔ ∃ a b, text = a ++ '<' :: tag ++ '>' :: b ∧ '>' ∉ tag := by
  induction text with
  | nil => simp [tagTexts]
  | cons c text ih =>
    have hhere : (∃ a b, c :: text = a ++ '<' :: tag ++ '>' :: b ∧ '>' ∉ tag) ↔
        (c = '<' ∧ ∃ b, text = tag ++ '>' :: b ∧ '>' ∉ tag) ∨ tag ∈ tagTexts text := by
      rw [ih]
      constructor
      · rintro ⟨a, b, ht, hg⟩
        cases a with
        | nil =>
          simp only [List.nil_append, List.cons_append, List.cons.injEq] at ht
          exact .inl ⟨ht.1, b, ht.2, hg⟩
        | cons d a => exact .inr ⟨a, b, (List.cons.inj ht).2, hg⟩
      · rintro (⟨rfl, b, rfl, hg⟩ | ⟨a, b, rfl, hg⟩)
        · exact ⟨[], b, rfl, hg⟩
        · exact ⟨c :: a, b, rfl, hg⟩
    have hcut : tag ∈ ((cutAt? ['>'] text).map (·.1)).toList ↔
        ∃ b, text = tag ++ '>' :: b ∧ '>' ∉ tag := by
      rw [Option.mem_toList, Option.map_eq_some_iff]
      constructor
      · rintro ⟨⟨t, b⟩, hc, rfl⟩
        exact ⟨b, by simpa using eq_append_of_cutAt? hc, notMem_of_cutAt?_singleton hc⟩
      · rintro ⟨b, rfl, hg⟩
        exact ⟨_, cutAt?_singleton hg b, rfl⟩
    rw [hhere, tagTexts]
    split
    · next hc => simp [hc, hcut]
    · next hc => simp [hc]

/-- No tag holds the beginning of another. -/
def NoNestedTag (text : List Char) : Prop := ∀ tag ∈ tagTexts text, '<' ∉ tag

/-- No tag has a slash, and perhaps blanks, in front of the slash that closes it. -/
def NoDoubleSlash (text : List Char) : Prop :=
  ∀ tag ∈ tagTexts text, ∀ inner, dropFinalSlash? tag = some inner →
    (trimEnd inner).getLast? ≠ some '/'

/-- No note of a unit holds markup. -/
def FlatNotes (unitText : List Char) : Prop :=
  ∀ note ∈ elements noteName unitText, ∀ content, note.content? = some content → '<' ∉ content

structure LexicallyProper (text : List Char) : Prop where
  noNestedTag : NoNestedTag text
  noDoubleSlash : NoDoubleSlash text
  flatNotes : ∀ unit ∈ unitSpans text, FlatNotes unit.text

section Decidability
variable (text : List Char)

instance : Decidable (NoNestedTag text) :=
  inferInstanceAs (Decidable (∀ tag ∈ tagTexts text, '<' ∉ tag))

instance : Decidable (NoDoubleSlash text) :=
  inferInstanceAs (Decidable (∀ tag ∈ tagTexts text, ∀ inner ∈ dropFinalSlash? tag,
    (trimEnd inner).getLast? ≠ some '/'))

instance : Decidable (FlatNotes text) :=
  inferInstanceAs (Decidable (∀ note ∈ elements noteName text, ∀ content ∈ note.content?,
    '<' ∉ content))

theorem lexicallyProper_iff :
    LexicallyProper text ↔
      NoNestedTag text ∧ NoDoubleSlash text ∧ ∀ unit ∈ unitSpans text, FlatNotes unit.text :=
  ⟨fun h => ⟨h.noNestedTag, h.noDoubleSlash, h.flatNotes⟩, fun h => ⟨h.1, h.2.1, h.2.2⟩⟩

instance : Decidable (LexicallyProper text) := decidable_of_iff' _ (lexicallyProper_iff text)

end Decidability

theorem tagTexts_mono {a b : List Char} (h : a <:+: b) : tagTexts a ⊆ tagTexts b := by
  obtain ⟨s, t, rfl⟩ := h
  intro tag ht
  obtain ⟨x, y, rfl, hg⟩ := mem_tagTexts_iff.1 ht
  exact mem_tagTexts_iff.2 ⟨s ++ x, y ++ t, by simp, hg⟩

theorem NoNestedTag.mono {a b : List Char} (h : NoNestedTag b) (hi : a <:+: b) : NoNestedTag a :=
  fun tag ht => h tag (tagTexts_mono hi ht)

theorem NoDoubleSlash.mono {a b : List Char} (h : NoDoubleSlash b) (hi : a <:+: b) :
    NoDoubleSlash a :=
  fun tag ht => h tag (tagTexts_mono hi ht)

/-- Names that tags can have. -/
def IsName (name : List Char) : Prop := name ≠ [] ∧ '<' ∉ name ∧ '>' ∉ name ∧ '/' ∉ name

instance (name : List Char) : Decidable (IsName name) :=
  inferInstanceAs (Decidable (name ≠ [] ∧ '<' ∉ name ∧ '>' ∉ name ∧ '/' ∉ name))

theorem IsName.lt {name : List Char} (h : IsName name) : '<' ∉ name := h.2.1

theorem IsName.gt {name : List Char} (h : IsName name) : '>' ∉ name := h.2.2.1

theorem IsName.not_prefix_slash {name x : List Char} (h : IsName name) : ¬ name <+: '/' :: x := by
  intro hp
  obtain ⟨c, rest, rfl⟩ := List.exists_cons_of_ne_nil h.1
  obtain ⟨rfl, _⟩ := List.cons_prefix_cons.1 hp
  exact h.2.2.2 List.mem_cons_self

theorem IsName.not_slash_isPrefix {name x y : List Char} (h : IsName name) :
    ¬ '/' :: x <+: name ++ y := by
  intro hp
  obtain ⟨c, rest, rfl⟩ := List.exists_cons_of_ne_nil h.1
  obtain ⟨rfl, _⟩ := List.cons_prefix_cons.1 hp
  exact h.2.2.2 List.mem_cons_self

theorem isName_unit : IsName unitName := by decide
theorem isName_source : IsName sourceName := by decide
theorem isName_target : IsName targetName := by decide
theorem isName_note : IsName noteName := by decide

/-- A start tag that begins before a further tag also ends before it. -/
theorem Opens.exists_tag {name q x : List Char} (h : Opens name q) (hg : '>' ∉ name)
    (hx : '>' ∈ x) (hn : NoNestedTag (q ++ '<' :: x)) :
    ∃ tag rest, q = '<' :: name ++ tag ++ '>' :: rest ∧ '>' ∉ tag ∧ endsWord tag = true := by
  obtain ⟨r, rfl, hw⟩ := h
  by_cases hr : '>' ∈ r
  · obtain ⟨tag, rest, rfl, ht⟩ := List.eq_append_cons_of_mem hr
    rw [endsWord_append_cons isWordChar_gt] at hw
    exact ⟨tag, rest, by simp, ht, hw⟩
  · obtain ⟨y, z, rfl, hy⟩ := List.eq_append_cons_of_mem hx
    have hm : name ++ r ++ '<' :: y ∈ tagTexts ('<' :: name ++ r ++ '<' :: (y ++ '>' :: z)) :=
      mem_tagTexts_iff.2 ⟨[], z, by simp, by simp [hg, hr, hy]⟩
    exact absurd (by simp) (hn _ hm)

/-- What is read at the beginning of a text up to a further tag: nothing, an element that ends
before that tag, or a start tag whose end tag has to follow. -/
theorem elementHere?_lead {name lead x : List Char} (hn : IsName name) (hne : lead ≠ [])
    (hx : '>' ∈ x) (nested : NoNestedTag (lead ++ '<' :: x)) :
    (∀ y, elementHere? true name (lead ++ '<' :: y) = none) ∨
      (∃ e rest, lead = Element.render name e ++ rest ∧ e.Reads true name) ∨
      ∃ tag rest, lead = '<' :: name ++ tag ++ '>' :: rest ∧
        cutAt? (endTag name) rest = none ∧
        ∀ y, elementHere? true name (lead ++ y) =
          (cutAt? (endTag name) (rest ++ y)).map fun (content, after) =>
            (.full tag content, after) := by
  by_cases ho : Opens name lead
  · right
    obtain ⟨tag, rest, rfl, hg, hw⟩ := ho.exists_tag hn.gt hx nested
    by_cases hs : tag.getLast? = some '/'
    · obtain ⟨attributes, rfl⟩ := List.getLast?_eq_some_iff.1 hs
      rw [endsWord_append_cons isWordChar_slash] at hw
      refine .inl ⟨.selfClosing attributes, rest, by simp [Element.render], rfl, ?_, hw⟩
      exact fun hm => hg (List.mem_append_left _ hm)
    · cases hc : cutAt? (endTag name) rest with
      | some found =>
        obtain ⟨content, after⟩ := found
        refine .inl ⟨.full tag content, after, ?_, hg, hw, fun _ => hs, cutAt?_mark_of_cutAt? hc⟩
        simp [Element.render, eq_append_of_cutAt? hc]
      | none =>
        refine .inr ⟨tag, rest, rfl, hc, fun y => elementHere?_of_open ?_ fun _ => hs⟩
        exact startTag?_eq_some_iff.2 ⟨by simp, hg, hw⟩
  · left
    intro y
    apply elementHere?_eq_none_of_not_opens
    rwa [opens_append_iff hn.lt hne]

end AlAssistant.Xliff
