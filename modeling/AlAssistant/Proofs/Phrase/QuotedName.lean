import AlAssistant.Proofs.Phrase.SelectedSlice
import AlAssistant.Proofs.Text.Trim

/-!
# Picking a quoted name

A name between quotes can be pointed at, selected with or without its quotes, or given as it is.
All these ways lead to the name itself, wherever on the line it stands and whatever other quoted
names stand before it.
-/
namespace AlAssistant.Phrase

open AlAssistant.Text

section Quotes
variable {name : List Char}

/-- A text with an even number of quotes has none or begins with a closed pair. -/
theorem exists_pair {before : List Char} (he : before.count '"' % 2 = 0) (hm : '"' ∈ before) :
    ∃ outside inside rest, before = outside ++ '"' :: (inside ++ '"' :: rest) ∧
      '"' ∉ outside ∧ '"' ∉ inside ∧ rest.count '"' % 2 = 0 := by
  obtain ⟨outside, behind, rfl, ho⟩ := List.eq_append_cons_of_mem hm
  have hb : behind.count '"' % 2 = 1 := by
    rw [List.count_append, List.count_eq_zero.2 ho, List.count_cons_self] at he
    omega
  have hm : '"' ∈ behind := List.count_pos_iff.1 (by omega)
  obtain ⟨inside, rest, rfl, hi⟩ := List.eq_append_cons_of_mem hm
  refine ⟨outside, inside, rest, rfl, ho, hi, ?_⟩
  rw [List.count_append, List.count_eq_zero.2 hi, List.count_cons_self] at hb
  omega

/-- The pairs before a name are passed over, so its own quotes are a pair. -/
theorem quotedAt?_name (before behind : List Char) {caret : Nat} (hq : '"' ∉ name)
    (he : before.count '"' % 2 = 0) (hf : before.length ≤ caret)
    (hl : caret ≤ before.length + 1 + name.length) :
    quotedAt? caret (splitOnChar '"' (before ++ '"' :: (name ++ '"' :: behind))) = some name := by
  by_cases hm : '"' ∈ before
  · obtain ⟨outside, inside, rest, hb, ho, hi, hr⟩ := exists_pair he hm
    have hlen : before.length = outside.length + 1 + inside.length + 1 + rest.length := by
      simp only [hb, List.length_append, List.length_cons]
      omega
    have shorter : rest.length < before.length := by omega
    have ih := @quotedAt?_name rest behind (caret - (outside.length + 1 + inside.length + 1)) hq hr
      (by omega) (by omega)
    obtain ⟨part, parts, hs⟩ :=
      exists_splitOnChar '"' (rest ++ '"' :: (name ++ '"' :: behind))
    have hparts : splitOnChar '"' (before ++ '"' :: (name ++ '"' :: behind)) =
        outside :: inside :: part :: parts := by
      rw [← hs, ← splitOnChar_part hi, ← splitOnChar_part ho, hb]
      simp only [List.append_assoc, List.cons_append]
    rw [hs] at ih
    rw [hparts, quotedAt?, if_neg (by omega), if_neg (by omega), ih]
  · obtain ⟨part, parts, hs⟩ := exists_splitOnChar '"' behind
    rw [splitOnChar_part hm, splitOnChar_part hq, hs, quotedAt?, if_neg (by omega),
      if_pos (by omega)]
termination_by before.length

end Quotes

/-- A name on a line between quotes that are a pair. -/
structure IsQuoted (line before name behind : List Char) : Prop where
  line_eq : line = before ++ '"' :: (name ++ '"' :: behind)
  paired : before.count '"' % 2 = 0
  name_ne : name ≠ []
  quote_notMem : '"' ∉ name
  first_visible : name.head?.any isBlank = false
  last_visible : name.getLast?.any isBlank = false

namespace IsQuoted
variable {line before name behind : List Char}

/-- The columns from the opening to the closing quote lie on the name. -/
theorem wordAt? (h : IsQuoted line before name behind) {column : Nat}
    (hf : units before ≤ column) (hl : column ≤ units before + 1 + units name) :
    wordAt? line column = some name := by
  have hstart : charIndex line (units before) = before.length := by
    rw [h.line_eq, charIndex_units]
  have hstop :
      charIndex line (units before + 1 + units name) = before.length + 1 + name.length := by
    have hu := charIndex_units (before ++ '"' :: name) ('"' :: behind)
    have hq : charUnits '"' = 1 := rfl
    rw [units_append, units_cons, hq, ← Nat.add_assoc, List.length_append, List.length_cons] at hu
    rw [h.line_eq]
    simpa [Nat.add_assoc, Nat.add_comm 1] using hu
  have hname := quotedAt?_name before behind h.quote_notMem h.paired
    (hstart ▸ charIndex_mono line hf) (hstop ▸ charIndex_mono line hl)
  rw [← h.line_eq] at hname
  simp only [Phrase.wordAt?, hname]

theorem bare? (h : IsQuoted line before name behind) : bare? name = some (String.ofList name) := by
  have hb : bare name = name := by
    rw [bare, trim_eq_self h.first_visible h.last_visible, stripQuotes_of_notMem h.quote_notMem]
  unfold Phrase.bare?
  rw [hb, if_neg (by simpa using h.name_ne)]

theorem bare?_enclosed (h : IsQuoted line before name behind) :
    Phrase.bare? ('"' :: (name ++ ['"'])) = some (String.ofList name) := by
  have hq : Text.isBlank '"' = false := by decide
  have hb : bare ('"' :: (name ++ ['"'])) = name := by
    rw [bare, trim_eq_self (by simp [hq]) (by simp [List.getLast?_cons, hq]), stripQuotes_enclosed]
  unfold Phrase.bare?
  rw [hb, if_neg (by simpa using h.name_ne)]

theorem units_pos (h : IsQuoted line before name behind) : 0 < units name := by
  obtain ⟨c, rest, rfl⟩ := List.exists_cons_of_ne_nil h.name_ne
  have hc := charUnits_pos c
  rw [units_cons]
  omega

theorem slice_name (h : IsQuoted line before name behind) :
    slice line (units before + 1) (units before + 1 + units name) = name := by
  have hs := slice_append (before ++ ['"']) name ('"' :: behind)
  have hu : units (before ++ ['"']) = units before + 1 := units_append before ['"']
  rw [hu] at hs
  rw [h.line_eq]
  simpa using hs

theorem slice_enclosed (h : IsQuoted line before name behind) :
    slice line (units before) (units before + 1 + units name + 1) = '"' :: (name ++ ['"']) := by
  have hs := slice_append before ('"' :: (name ++ ['"'])) behind
  have hu : units ('"' :: (name ++ ['"'])) = 1 + units name + 1 := by
    rw [units_cons, units_append, ← Nat.add_assoc]
    rfl
  rw [hu, ← Nat.add_assoc, ← Nat.add_assoc] at hs
  rw [h.line_eq]
  simpa using hs

end IsQuoted

section Selecting
variable {text line : List Char} {index : Nat}

/-- What is selected on a single line is its part between the two columns. -/
theorem selectedText_line (hl : (lines text)[index]? = some line) (first last : Nat) :
    selectedText text ⟨⟨index, first⟩, ⟨index, last⟩⟩ = slice line first last := by
  rw [selectedText_eq, coveredParts_on_line, hl, Option.map_some, Option.toList_some,
    joinLines_singleton]

end Selecting

/-- The line has a source element that opens and closes on it. -/
def HoldsSource (line : List Char) : Prop :=
  ∃ before content behind,
    line = before ++ "<source>".toList ++ content ++ "</source>".toList ++ behind

theorem sourceText?_eq_none {line : List Char} (h : ¬ HoldsSource line) :
    sourceText? line = none := by
  unfold sourceText?
  cases ho : cutAt? "<source>".toList line with
  | none => rfl
  | some opened =>
    cases hc : cutAt? "</source>".toList opened.2 with
    | none => simp only [Option.bind_some, hc, Option.map_none]
    | some closed =>
      refine absurd ⟨opened.1, closed.1, closed.2, ?_⟩ h
      rw [eq_append_of_cutAt? ho, eq_append_of_cutAt? hc]
      simp only [List.append_assoc]

section Resolving
variable {text phrase : String} {selection : Range} {given : List Char}

theorem resolve_given (text : String) (selection : Range)
    (hb : Phrase.bare? given = some phrase) :
    resolve text selection (some (String.ofList given)) = .ok phrase := by
  simp only [resolve, String.toList_ofList, hb]

theorem resolve_picked (hp : picked text.toList selection = .ok given)
    (hb : Phrase.bare? given = some phrase) : resolve text selection none = .ok phrase := by
  simp only [resolve, hp, hb]

variable {line : List Char} {index column first last : Nat}

theorem picked_caret (hl : (lines text.toList)[index]? = some line)
    (hc : isCommentLine line = false) (hw : Phrase.wordAt? line column = some given) :
    picked text.toList (.caret ⟨index, column⟩) = .ok given := by
  simp [picked, Range.caret, Range.isEmpty, hl, hc, hw]

theorem picked_selection (hl : (lines text.toList)[index]? = some line)
    (hc : isCommentLine line = false) (hne : first ≠ last) :
    picked text.toList ⟨⟨index, first⟩, ⟨index, last⟩⟩ = .ok (slice line first last) := by
  simp [picked, Range.isEmpty, hl, hc, hne, selectedText_line hl]

end Resolving

/-- A quoted name on a line is the phrase for every way to pick it: a caret from the opening to the
closing quote, a selection of the name without or with its quotes, the name or the quoted name as
it is given, and a pointer that hovers there unless the line has a source text. -/
theorem quoted_name_picked {text : String} {index : Nat} {line before name behind : List Char}
    (hline : (lines text.toList)[index]? = some line) (hcomment : isCommentLine line = false)
    (h : IsQuoted line before name behind) :
    let phrase := String.ofList name
    let opening := units before
    let closing := opening + 1 + units name
    (∀ column, opening ≤ column → column ≤ closing →
      resolve text (.caret ⟨index, column⟩) none = .ok phrase ∧
        (¬ HoldsSource line → hovered? text ⟨index, column⟩ = some phrase)) ∧
    resolve text ⟨⟨index, opening + 1⟩, ⟨index, closing⟩⟩ none = .ok phrase ∧
    resolve text ⟨⟨index, opening⟩, ⟨index, closing + 1⟩⟩ none = .ok phrase ∧
    ∀ other selection, resolve other selection (some phrase) = .ok phrase ∧
      resolve other selection (some ("\"" ++ phrase ++ "\"")) = .ok phrase := by
  intro phrase opening closing
  have hb := h.bare?
  have hq := h.bare?_enclosed
  refine ⟨fun column hf hl => ⟨?_, fun hs => ?_⟩, ?_, ?_, fun other selection => ⟨?_, ?_⟩⟩
  · exact resolve_picked (picked_caret hline hcomment (h.wordAt? hf hl)) hb
  · have hp : pointed? line column = some name := by
      rw [pointed?, hcomment, sourceText?_eq_none hs, h.wordAt? hf hl]
      rfl
    simp only [hovered?, hline, hp, Option.bind_some, hb]
    rfl
  · have hpos := h.units_pos
    have hne : opening + 1 ≠ closing := by omega
    have hp := picked_selection hline hcomment hne
    rw [h.slice_name] at hp
    exact resolve_picked hp hb
  · have hne : opening ≠ closing + 1 := by omega
    have hp := picked_selection hline hcomment hne
    rw [h.slice_enclosed] at hp
    exact resolve_picked hp hq
  · exact resolve_given other selection hb
  · have he : "\"" ++ phrase ++ "\"" = String.ofList ('"' :: (name ++ ['"'])) := by
      rw [← String.toList_inj]
      simp [phrase]
    rw [he]
    exact resolve_given other selection hq

section SecondName

/-- A line with two quoted names. -/
def twoNames : List Char := "  \"No.\" := Rec.\"😀 Nr.\";".toList

theorem isQuoted_secondName :
    IsQuoted twoNames "  \"No.\" := Rec.".toList "😀 Nr.".toList ";".toList :=
  ⟨by decide, by decide, by decide, by decide, by decide, by decide⟩

/-- The caret stands inside the surrogate pair of the second name. -/
theorem quoted_name_picked_inside_pair :
    let text := "begin\r\n  \"No.\" := Rec.\"😀 Nr.\";\r\nend;"
    (lines text.toList)[1]? = some twoNames ∧ isCommentLine twoNames = false ∧
      resolve text (.caret ⟨1, 17⟩) none = .ok "😀 Nr." ∧
      ¬ HoldsSource twoNames ∧ hovered? text ⟨1, 17⟩ = some "😀 Nr." := by
  intro text
  have hl : (lines text.toList)[1]? = some twoNames := by decide
  have hc : isCommentLine twoNames = false := by decide
  have hs : ¬ HoldsSource twoNames := by
    rintro ⟨before, content, behind, he⟩
    have hm : '<' ∈ twoNames := by simp [he]
    exact absurd hm (by decide)
  have h := (quoted_name_picked hl hc isQuoted_secondName).1 17 (by decide) (by decide)
  exact ⟨hl, hc, h.1, hs, h.2 hs⟩

end SecondName

end AlAssistant.Phrase
