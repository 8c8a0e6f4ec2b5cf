import AlAssistant.Phrase.Choice
import AlAssistant.Proofs.Text.Seam
import AlAssistant.Proofs.Text.Trim

/-!
# Hovering over a source text

In a localization file three characters of a text are spelled as entities. A hover on the line of a
source text picks what stands between the tags, as it is spelled there. That is the text itself
where it has none of the three, and its spelling everywhere else.
-/
namespace AlAssistant.Phrase

open AlAssistant.Text

/-- The characters that are not written as themselves between tags. -/
def isMarkup (c : Char) : Bool := c == '&' || c == '<' || c == '>'

/-- How a character is written between tags. -/
def spellChar (c : Char) : List Char :=
  if c = '&' then "&amp;".toList
  else if c = '<' then "&lt;".toList
  else if c = '>' then "&gt;".toList
  else [c]

/-- How a text is written between tags. -/
def spelled (text : List Char) : List Char := text.flatMap spellChar

/-- The line of a source text. -/
def sourceLine (indent source : List Char) : List Char :=
  indent ++ "<source>".toList ++ spelled source ++ "</source>".toList

/-- A text with visible characters at both ends that are not a pair of quotes. -/
structure IsSourceText (source : List Char) : Prop where
  source_ne : source ≠ []
  first_visible : source.head?.any isBlank = false
  last_visible : source.getLast?.any isBlank = false
  not_enclosed : ¬ ∃ inner, source = '"' :: (inner ++ ['"'])

section Spelling
variable {c : Char} {text : List Char}

theorem spellChar_of_not_isMarkup (h : isMarkup c = false) : spellChar c = [c] := by
  simp only [isMarkup, Bool.or_eq_false_iff, beq_eq_false_iff_ne] at h
  rw [spellChar, if_neg h.1.1, if_neg h.1.2, if_neg h.2]

theorem exists_spellChar_of_isMarkup (h : isMarkup c = true) :
    ∃ name, spellChar c = '&' :: (name ++ [';']) ∧ '<' ∉ name := by
  simp only [isMarkup, Bool.or_eq_true, beq_iff_eq] at h
  rcases h with (rfl | rfl) | rfl
  · exact ⟨"amp".toList, rfl, by decide⟩
  · exact ⟨"lt".toList, rfl, by decide⟩
  · exact ⟨"gt".toList, rfl, by decide⟩

theorem lt_notMem_spelled (text : List Char) : '<' ∉ spelled text := by
  intro h
  obtain ⟨c, -, hc⟩ := List.mem_flatMap.1 h
  cases hm : isMarkup c with
  | false =>
    rw [spellChar_of_not_isMarkup hm, List.mem_singleton] at hc
    subst hc
    cases hm
  | true =>
    obtain ⟨name, hs, hn⟩ := exists_spellChar_of_isMarkup hm
    rw [hs] at hc
    simp [hn] at hc

theorem head?_spelled (c : Char) (text : List Char) :
    (spelled (c :: text)).head? = some (if isMarkup c then '&' else c) := by
  rw [spelled, List.flatMap_cons]
  cases hm : isMarkup c with
  | false => simp [spellChar_of_not_isMarkup hm]
  | true =>
    obtain ⟨name, hs, -⟩ := exists_spellChar_of_isMarkup hm
    simp [hs]

theorem getLast?_spelled (text : List Char) (c : Char) :
    (spelled (text ++ [c])).getLast? = some (if isMarkup c then ';' else c) := by
  rw [spelled, List.flatMap_append, List.flatMap_singleton]
  cases hm : isMarkup c with
  | false => simp [spellChar_of_not_isMarkup hm]
  | true =>
    obtain ⟨name, hs, -⟩ := exists_spellChar_of_isMarkup hm
    simp [hs, List.getLast?_append, List.getLast?_cons]

theorem spelled_cons (c : Char) (text : List Char) :
    spelled (c :: text) = spellChar c ++ spelled text := List.flatMap_cons

theorem length_spelled_cons (c : Char) (text : List Char) :
    1 + (spelled text).length + (if isMarkup c then 1 else 0) ≤ (spelled (c :: text)).length := by
  rw [spelled_cons]
  cases hm : isMarkup c with
  | false => simp [spellChar_of_not_isMarkup hm, Nat.add_comm]
  | true =>
    obtain ⟨name, hs, -⟩ := exists_spellChar_of_isMarkup hm
    simp only [hs, List.length_append, List.length_cons, if_true]
    omega

theorem length_le_spelled (text : List Char) : text.length ≤ (spelled text).length := by
  induction text with
  | nil => exact Nat.zero_le _
  | cons c text ih =>
    have hc := length_spelled_cons c text
    rw [List.length_cons]
    omega

/-- A text is written as it is exactly when it has no character of the markup. -/
theorem spelled_eq_self_iff : spelled text = text ↔ ∀ c ∈ text, isMarkup c = false := by
  induction text with
  | nil => simp [spelled]
  | cons c text ih =>
    cases hm : isMarkup c with
    | false => simp [spelled_cons, spellChar_of_not_isMarkup hm, hm, ih]
    | true =>
      have hlen := length_spelled_cons c text
      have hle := length_le_spelled text
      rw [hm, if_pos rfl] at hlen
      constructor
      · intro h
        rw [h, List.length_cons] at hlen
        omega
      · intro h
        have hc := h c List.mem_cons_self
        rw [hm] at hc
        cases hc

end Spelling

namespace IsSourceText
variable {source : List Char}

theorem head?_visible (h : IsSourceText source) : (spelled source).head?.any isBlank = false := by
  obtain ⟨c, rest, rfl⟩ := List.exists_cons_of_ne_nil h.source_ne
  have hc : isBlank c = false := by simpa using h.first_visible
  have hm : isBlank '&' = false := by decide
  rw [head?_spelled]
  cases isMarkup c <;> simp [hc, hm]

theorem getLast?_visible (h : IsSourceText source) :
    (spelled source).getLast?.any isBlank = false := by
  obtain ⟨rest, c, rfl⟩ : ∃ rest c, source = rest ++ [c] :=
    ⟨_, _, (List.dropLast_concat_getLast h.source_ne).symm⟩
  have hc : isBlank c = false := by simpa using h.last_visible
  have hm : isBlank ';' = false := by decide
  rw [getLast?_spelled]
  cases isMarkup c <;> simp [hc, hm]

/-- A quote is written as itself, so a spelling in quotes is that of a text in quotes. -/
theorem spelled_not_enclosed (h : IsSourceText source) :
    ¬ ∃ inner, spelled source = '"' :: (inner ++ ['"']) := by
  rintro ⟨inner, he⟩
  have hquote : ∀ {c entity : Char}, entity ≠ '"' →
      some (if isMarkup c then entity else c) = some '"' → c = '"' := by
    intro c entity hne hs
    cases hm : isMarkup c <;> simp_all
  obtain ⟨c, rest, rfl⟩ := List.exists_cons_of_ne_nil h.source_ne
  have hfirst := head?_spelled c rest
  rw [he, List.head?_cons] at hfirst
  obtain rfl := hquote (by decide) hfirst.symm
  have hrest : spelled rest = inner ++ ['"'] := by
    rw [spelled_cons] at he
    exact (List.cons.inj he).2
  have hn : rest ≠ [] := by
    rintro rfl
    simp [spelled] at hrest
  obtain ⟨middle, d, rfl⟩ : ∃ middle d, rest = middle ++ [d] :=
    ⟨_, _, (List.dropLast_concat_getLast hn).symm⟩
  have hlast := getLast?_spelled middle d
  rw [hrest, List.getLast?_concat] at hlast
  obtain rfl := hquote (by decide) hlast.symm
  exact h.not_enclosed ⟨middle, rfl⟩

/-- The phrase made of a spelling is the spelling. -/
theorem bare?_spelled (h : IsSourceText source) :
    bare? (spelled source) = some (String.ofList (spelled source)) := by
  have hb : bare (spelled source) = spelled source := by
    rw [bare, trim_eq_self h.head?_visible h.getLast?_visible]
    rcases stripQuotes_cases (spelled source) with ⟨inner, he, -⟩ | hs
    · exact absurd ⟨inner, he⟩ h.spelled_not_enclosed
    · exact hs
  have hn : spelled source ≠ [] := by
    intro he
    have hl := length_le_spelled source
    rw [he] at hl
    exact h.source_ne (List.eq_nil_of_length_eq_zero (Nat.le_zero.1 hl))
  unfold Phrase.bare?
  rw [hb, if_neg (by simpa using hn)]

end IsSourceText

section Line
variable {indent source : List Char}

theorem isCommentLine_sourceLine (hi : indent.all isBlank = true) :
    isCommentLine (sourceLine indent source) = false := by
  have ht : trimStart (sourceLine indent source) =
      "<source>".toList ++ (spelled source ++ "</source>".toList) := by
    rw [trimStart, sourceLine, List.append_assoc, List.append_assoc,
      List.dropWhile_append_of_pos (List.all_eq_true.1 hi)]
    rfl
  rw [isCommentLine, ht]
  rfl

theorem sourceText?_sourceLine (hi : indent.all isBlank = true) :
    sourceText? (sourceLine indent source) = some (spelled source) := by
  have hcut : ∀ {text mark rest : List Char}, '<' ∉ text →
      cutAt? ('<' :: mark) (text ++ '<' :: mark ++ rest) = some (text, rest) := by
    intro text mark rest h
    exact cutAt?_append_mark
      (cutAt?_append_self (fun hin => h (hin.subset List.mem_cons_self)) (seam_of_notMem h))
  have hindent : '<' ∉ indent := by
    intro hm
    exact absurd (List.all_eq_true.1 hi _ hm) (by decide)
  have hopen : cutAt? "<source>".toList (sourceLine indent source) =
      some (indent, spelled source ++ "</source>".toList) := by
    rw [sourceLine, List.append_assoc]
    exact hcut hindent
  have hclose : cutAt? "</source>".toList (spelled source ++ "</source>".toList) =
      some (spelled source, []) := by
    have h := @hcut _ "/source>".toList [] (lt_notMem_spelled source)
    rwa [List.append_nil] at h
  simp only [sourceText?, hopen, Option.bind_some, hclose, Option.map_some]

end Line

/-- A hover anywhere on the line of a source text picks the text as it is spelled between the tags.
That is the text exactly when no character of it is markup. -/
theorem hovered?_sourceLine {text : String} {position : Position} {indent source : List Char}
    (hline : (lines text.toList)[position.line]? = some (sourceLine indent source))
    (hi : indent.all isBlank = true) (hs : IsSourceText source) :
    hovered? text position = some (String.ofList (spelled source)) ∧
      (hovered? text position = some (String.ofList source) ↔
        ∀ c ∈ source, isMarkup c = false) := by
  have hpointed : pointed? (sourceLine indent source) position.character =
      some (spelled source) := by
    rw [pointed?, isCommentLine_sourceLine hi, sourceText?_sourceLine hi]
    rfl
  have hhover : hovered? text position = some (String.ofList (spelled source)) := by
    simp only [hovered?, hline, hpointed, Option.bind_some, hs.bare?_spelled]
  refine ⟨hhover, ?_⟩
  rw [hhover, Option.some.injEq, String.ofList_inj, spelled_eq_self_iff]

section Ampersand

/-- A term whose spelling is not the term. -/
def salesTerm : List Char := "Sales & Receivables".toList

theorem isSourceText_salesTerm : IsSourceText salesTerm := by
  refine ⟨by decide, by decide, by decide, ?_⟩
  rintro ⟨inner, he⟩
  cases he

theorem hovered?_sourceLine_ampersand :
    let text := "<trans-unit id=\"1\">\r\n\t<source>Sales &amp; Receivables</source>\r\n"
    (lines text.toList)[1]? = some (sourceLine ['\t'] salesTerm) ∧
      hovered? text ⟨1, 3⟩ = some "Sales &amp; Receivables" ∧
      ¬ hovered? text ⟨1, 3⟩ = some "Sales & Receivables" := by
  intro text
  have hline : (lines text.toList)[1]? = some (sourceLine ['\t'] salesTerm) := by decide
  have h := @hovered?_sourceLine text ⟨1, 3⟩ _ _ hline (by decide) isSourceText_salesTerm
  refine ⟨hline, h.1, fun hs => ?_⟩
  exact absurd (h.2.1 hs '&' (by decide)) (by decide)

/-- The phrase of a source text with an ampersand is not the text. -/
theorem hover_keeps_entities :
    let text := "        <source>Sales &amp; Receivables</source>"
    (lines text.toList)[0]? = some (sourceLine (List.replicate 8 ' ') salesTerm) ∧
      IsSourceText salesTerm ∧ hovered? text ⟨0, 12⟩ ≠ some (String.ofList salesTerm) := by
  exact ⟨by decide, isSourceText_salesTerm, by decide +kernel⟩

end Ampersand

end AlAssistant.Phrase
