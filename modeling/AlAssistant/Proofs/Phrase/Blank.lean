import AlAssistant.Phrase.Choice
import AlAssistant.Proofs.Text.Lines
import AlAssistant.Proofs.Text.Trim

/-!
# Phrases of nothing but blanks

A phrase is refused when nothing is left of it. Blanks around it are dropped before its quotes are,
and what stood between the quotes is not looked at again. So blanks in quotes are taken for a
phrase, wherever they come from, and nothing else that is blank is. The word at a caret never
holds a quote, so it is never a phrase of that kind.
-/
namespace AlAssistant.Phrase

open AlAssistant.Text

/-- Without the blanks around it, the phrase is a pair of quotes with blanks between them. -/
def QuotesBlanks (phrase : List Char) : Prop :=
  ∃ blanks, blanks ≠ [] ∧ (∀ c ∈ blanks, isBlank c = true) ∧
    trim phrase = '"' :: (blanks ++ ['"'])

section Bare
variable {offered : List Char} {phrase : String}

theorem bare?_eq_some_iff :
    bare? offered = some phrase ↔ bare offered = phrase.toList ∧ phrase.toList ≠ [] := by
  unfold bare?
  constructor
  · intro h
    split at h
    · cases h
    · next hn =>
      obtain rfl := Option.some.inj h
      rw [String.toList_ofList]
      exact ⟨rfl, by simpa using hn⟩
  · rintro ⟨hb, hn⟩
    rw [hb, if_neg (by simpa using hn), String.ofList_toList]

/-- What is left of an offered text is blank exactly when that text has blanks in quotes. -/
theorem exists_blank_bare?_iff :
    (∃ phrase, bare? offered = some phrase ∧ isBlankText phrase.toList = true) ↔
      QuotesBlanks offered := by
  constructor
  · rintro ⟨phrase, hp, hb⟩
    obtain ⟨hbare, hn⟩ := bare?_eq_some_iff.1 hp
    have hblank : ∀ c ∈ phrase.toList, isBlank c = true := by
      simpa [isBlankText, List.all_eq_true] using hb
    rcases stripQuotes_cases (trim offered) with ⟨inner, ht, hs⟩ | hs
    · have hi : inner = phrase.toList := hs.symm.trans hbare
      exact ⟨inner, hi ▸ hn, hi ▸ hblank, ht⟩
    · have ht : trim offered = phrase.toList := hs.symm.trans hbare
      exact absurd (ht.symm.trans (trim_eq_nil_of_blank (ht ▸ hblank))) hn
  · rintro ⟨blanks, hn, hb, ht⟩
    refine ⟨String.ofList blanks, bare?_eq_some_iff.2 ⟨?_, by simpa using hn⟩, ?_⟩
    · rw [bare, ht, stripQuotes_enclosed, String.toList_ofList]
    · rw [String.toList_ofList]
      exact List.all_eq_true.2 hb

theorem QuotesBlanks.quote_mem (h : QuotesBlanks offered) : '"' ∈ offered := by
  obtain ⟨blanks, -, -, ht⟩ := h
  exact (trim_isInfix offered).subset (by rw [ht]; exact List.mem_cons_self)

end Bare

section Words
variable {line name : List Char} {column caret : Nat}

/-- The name between two quotes is one of the parts that the quotes cut the line into. -/
theorem mem_of_quotedAt? {parts : List (List Char)} (h : quotedAt? caret parts = some name) :
    name ∈ parts := by
  fun_induction quotedAt? caret parts with
  | case1 => cases h
  | case2 =>
    obtain rfl := Option.some.inj h
    simp
  | case3 caret outside inside next parts start stop _ _ ih =>
    exact List.mem_cons_of_mem _ (List.mem_cons_of_mem _ (ih h))
  | case4 => cases h

theorem isNameChar_of_mem_nameAround {c : Char} (h : c ∈ nameAround line caret) :
    isNameChar c = true := by
  rcases List.mem_append.1 h with h | h
  · exact List.mem_takeWhile_imp (List.mem_reverse.1 h)
  · exact List.mem_takeWhile_imp h

theorem quote_notMem_of_wordAt? (h : wordAt? line column = some name) : '"' ∉ name := by
  unfold wordAt? at h
  dsimp only at h
  split at h
  · next quoted hq =>
    obtain rfl := Option.some.inj h
    exact separator_notMem_part (mem_of_quotedAt? hq)
  · split at h
    · cases h
    · obtain rfl := Option.some.inj h
      exact fun hm => absurd (isNameChar_of_mem_nameAround hm) (by decide)

end Words

section Choosing
variable (text : String) (selection : Range)

/-- The line that a selection begins on; a line that does not exist is empty. -/
def firstLine (text : String) (selection : Range) : List Char :=
  ((lines text.toList)[selection.start.line]?).getD []

theorem picked_eq_ok_iff {offered : List Char} :
    picked text.toList selection = .ok offered ↔
      isCommentLine (firstLine text selection) = false ∧
        if selection.isEmpty then
          (wordAt? (firstLine text selection) selection.start.character).getD [] = offered
        else selectedText text.toList selection = offered := by
  unfold picked
  rw [← firstLine]
  dsimp only
  cases isCommentLine (firstLine text selection) with
  | true => simp
  | false => cases selection.isEmpty <;> simp

/-- Picked blanks in quotes are a selection. -/
theorem exists_picked_quotesBlanks_iff :
    (∃ offered, picked text.toList selection = .ok offered ∧ QuotesBlanks offered) ↔
      isCommentLine (firstLine text selection) = false ∧ selection.isEmpty = false ∧
        QuotesBlanks (selectedText text.toList selection) := by
  constructor
  · rintro ⟨offered, hp, hq⟩
    obtain ⟨hc, ho⟩ := (picked_eq_ok_iff text selection).1 hp
    refine ⟨hc, ?_⟩
    split at ho
    · subst ho
      have hm := hq.quote_mem
      cases hw : wordAt? (firstLine text selection) selection.start.character with
      | none => simp [hw] at hm
      | some name =>
        rw [hw] at hm
        exact absurd hm (quote_notMem_of_wordAt? hw)
    · next he =>
      subst ho
      exact ⟨Bool.eq_false_iff.2 he, hq⟩
  · rintro ⟨hc, he, hq⟩
    exact ⟨_, (picked_eq_ok_iff text selection).2 ⟨hc, by rw [he]; rfl⟩, hq⟩

theorem resolve_eq_ok_iff {given : Option String} {phrase : String} :
    resolve text selection given = .ok phrase ↔
      match given with
      | some offered => bare? offered.toList = some phrase
      | none => ∃ offered, picked text.toList selection = .ok offered ∧
          bare? offered = some phrase := by
  unfold resolve
  cases given with
  | some offered => cases hb : bare? offered.toList <;> simp [hb]
  | none =>
    cases hp : picked text.toList selection with
    | error refusal => simp
    | ok offered => cases hb : bare? offered <;> simp [hb]

end Choosing

/-- A command is given a phrase of nothing but blanks exactly when blanks in quotes are given to it
or selected, and a hover when they are the source text of its line. Every other phrase, and every
phrase at a caret, has a visible character. -/
theorem blank_phrase_iff (text : String) :
    (∀ selection given,
      (∃ phrase, resolve text selection given = .ok phrase ∧ isBlankText phrase.toList = true) ↔
        match given with
        | some offered => QuotesBlanks offered.toList
        | none => isCommentLine (firstLine text selection) = false ∧ selection.isEmpty = false ∧
            QuotesBlanks (selectedText text.toList selection)) ∧
    ∀ position,
      (∃ phrase, hovered? text position = some phrase ∧ isBlankText phrase.toList = true) ↔
        ∃ line source, (lines text.toList)[position.line]? = some line ∧
          isCommentLine line = false ∧ sourceText? line = some source ∧ QuotesBlanks source := by
  refine ⟨fun selection given => ?_, fun position => ?_⟩
  · simp only [resolve_eq_ok_iff]
    cases given with
    | some offered => exact exists_blank_bare?_iff
    | none =>
      rw [← exists_picked_quotesBlanks_iff]
      constructor
      · rintro ⟨phrase, ⟨offered, hp, hb⟩, hblank⟩
        exact ⟨offered, hp, exists_blank_bare?_iff.1 ⟨phrase, hb, hblank⟩⟩
      · rintro ⟨offered, hp, hq⟩
        obtain ⟨phrase, hb, hblank⟩ := exists_blank_bare?_iff.2 hq
        exact ⟨phrase, ⟨offered, hp, hb⟩, hblank⟩
  · constructor
    · rintro ⟨phrase, hh, hblank⟩
      obtain ⟨line, hl, hh⟩ := Option.bind_eq_some_iff.1 hh
      obtain ⟨offered, hp, hb⟩ := Option.bind_eq_some_iff.1 hh
      have hq := exists_blank_bare?_iff.1 ⟨phrase, hb, hblank⟩
      unfold pointed? at hp
      split at hp
      · cases hp
      · next hc =>
        rcases Option.or_eq_some_iff.1 hp with hs | ⟨-, hw⟩
        · exact ⟨line, offered, hl, Bool.eq_false_iff.2 hc, hs, hq⟩
        · exact absurd hq.quote_mem (quote_notMem_of_wordAt? hw)
    · rintro ⟨line, source, hl, hc, hs, hq⟩
      obtain ⟨phrase, hb, hblank⟩ := exists_blank_bare?_iff.2 hq
      have hp : pointed? line position.character = some source := by
        rw [pointed?, hc, hs]
        rfl
      refine ⟨phrase, ?_, hblank⟩
      simp only [hovered?, hl, hp, Option.bind_some, hb]

/-- Blanks in quotes are a phrase, given, selected or hovered over, and blanks alone are not. -/
theorem quoted_blanks_are_a_phrase :
    let text := "  \"  \"\n<source>\" \"</source>"
    resolve text (.caret ⟨0, 0⟩) (some "  ") = .error .empty ∧
      resolve text (.caret ⟨0, 0⟩) (some "\"  \"") = .ok "  " ∧
      resolve text ⟨⟨0, 1⟩, ⟨0, 6⟩⟩ none = .ok "  " ∧
      hovered? text ⟨1, 0⟩ = some " " ∧
      isBlankText "  ".toList = true ∧ isBlankText " ".toList = true := by
  decide +kernel

end AlAssistant.Phrase
