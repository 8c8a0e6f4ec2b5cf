import AlAssistant.Al.QuickFix
import AlAssistant.Proofs.Phrase.SelectedSlice
import AlAssistant.Proofs.Text.Trim

/-!
# The name of a diagnostic

A diagnostic is about the name that its range covers, with or without quotes around it. The message
is read only where the range covers no name: it is on several lines, runs backwards, lies behind the
text, or covers nothing but quotes and blanks around them. The name is then the leftmost one that
the message puts between apostrophes.
-/
namespace AlAssistant.Al

open AlAssistant.Phrase (IsSlice)
open AlAssistant.Text

/-- A name that has neither a blank nor a quote at an end. -/
structure IsBareName (name : List Char) : Prop where
  name_ne : name ≠ []
  first_visible : name.head?.any isBlank = false
  last_visible : name.getLast?.any isBlank = false
  first_unquoted : name.head? ≠ some '"'
  last_unquoted : name.getLast? ≠ some '"'

/-- Quotes with nothing between them and blanks around them, of each any number. -/
def IsBlankQuotes (covered : List Char) : Prop :=
  ∃ left quotes right, covered = left ++ (quotes ++ right) ∧ (∀ c ∈ left, isBlank c = true) ∧
    (∀ c ∈ quotes, c = '"') ∧ ∀ c ∈ right, isBlank c = true

/-- The ranges of a text that cover no name. -/
inductive NamesNothing (text : List Char) (range : Range) : Prop
  | spansLines : range.start.line ≠ range.stop.line → NamesNothing text range
  | inverted : range.start.le range.stop = false → NamesNothing text range
  | belowText : (lines text).length ≤ range.start.line → NamesNothing text range
  | behindLine {line : List Char} : (lines text)[range.start.line]? = some line →
      units line ≤ range.start.character → NamesNothing text range
  | onQuotes {line covered : List Char} : (lines text)[range.start.line]? = some line →
      IsSlice line (byteOffset line range.start.character) (byteOffset line range.stop.character)
        covered →
      IsBlankQuotes covered → NamesNothing text range

/-- A name between two apostrophes of a message, and what stands before and behind them. -/
structure InApostrophes (message before name behind : List Char) : Prop where
  message_eq : message = before ++ '\'' :: (name ++ '\'' :: behind)
  name_ne : name ≠ []
  apostrophe_notMem : '\'' ∉ name

/-- The name between apostrophes that stands farthest to the left. -/
def IsFirstName (message name : List Char) : Prop :=
  ∃ before behind, InApostrophes message before name behind ∧
    ∀ left other right, InApostrophes message left other right → before.length ≤ left.length

section Apostrophes
variable {message before name other behind : List Char} {c : Char}

theorem InApostrophes.cons (h : InApostrophes message before name behind) (c : Char) :
    InApostrophes (c :: message) (c :: before) name behind :=
  ⟨congrArg (c :: ·) h.message_eq, h.name_ne, h.apostrophe_notMem⟩

theorem InApostrophes.of_cons (h : InApostrophes (c :: message) before name behind) :
    before = [] ∨ ∃ rest, before = c :: rest ∧ InApostrophes message rest name behind := by
  cases before with
  | nil => exact .inl rfl
  | cons d rest =>
    obtain ⟨rfl, hm⟩ := List.cons.inj h.message_eq
    exact .inr ⟨rest, rfl, hm, h.name_ne, h.apostrophe_notMem⟩

/-- Apostrophes that stand in front are read as a pair. -/
theorem nameInApostrophes?_of_front (h : InApostrophes message [] name behind) :
    nameInApostrophes? message = some name := by
  obtain ⟨first, more, hn⟩ := List.exists_cons_of_ne_nil h.name_ne
  have hrun : ∀ d ∈ name, decide (d ≠ '\'') = true := fun d hd =>
    decide_eq_true fun he => h.apostrophe_notMem (he ▸ hd)
  have hcut := @cut_append (fun d => decide (d ≠ '\'')) name ('\'' :: behind) hrun rfl
  rw [h.message_eq, List.nil_append, nameInApostrophes?, if_pos rfl, hcut.1, hcut.2, hn]

/-- Where no pair stands in front, one character is passed over. -/
theorem nameInApostrophes?_cons (h : ∀ name behind, ¬ InApostrophes (c :: message) [] name behind) :
    nameInApostrophes? (c :: message) = nameInApostrophes? message := by
  rw [nameInApostrophes?]
  split
  · next hc =>
    subst hc
    split
    · next first more last behind htake hdrop =>
      have hm : first :: more ++ last :: behind = message := by
        rw [← htake, ← hdrop, List.takeWhile_append_dropWhile]
      have hlast : last = '\'' := by
        have hd := List.head?_dropWhile_not (fun d => decide (d ≠ '\'')) message
        rw [hdrop] at hd
        simpa using hd
      have hn : '\'' ∉ first :: more := by
        intro hin
        rw [← htake] at hin
        simpa using List.mem_takeWhile_imp hin
      exact absurd ⟨by rw [← hm, hlast]; rfl, List.cons_ne_nil _ _, hn⟩ (h (first :: more) behind)
    · rfl
  · rfl

/-- A message is read up to the first name between apostrophes, or to its end. -/
theorem nameInApostrophes?_cases (message : List Char) :
    (∃ name, nameInApostrophes? message = some name ∧ IsFirstName message name) ∨
      nameInApostrophes? message = none ∧
        ∀ before name behind, ¬ InApostrophes message before name behind := by
  induction message with
  | nil =>
    refine .inr ⟨rfl, fun before name behind h => ?_⟩
    have he := h.message_eq
    simp at he
  | cons c message ih =>
    by_cases hfront : ∃ name behind, InApostrophes (c :: message) [] name behind
    · obtain ⟨name, behind, hname⟩ := hfront
      exact .inl ⟨name, nameInApostrophes?_of_front hname, [], behind, hname,
        fun left other right _ => Nat.zero_le _⟩
    · have hnone : ∀ name behind, ¬ InApostrophes (c :: message) [] name behind :=
        fun name behind h => hfront ⟨name, behind, h⟩
      -- With none in front, every name stands in the rest, one character nearer to its start.
      have hrest : ∀ {left other right}, InApostrophes (c :: message) left other right →
          ∃ rest, left = c :: rest ∧ InApostrophes message rest other right := by
        intro left other right h
        rcases h.of_cons with rfl | hr
        · exact absurd h (hnone other right)
        · exact hr
      rw [nameInApostrophes?_cons hnone]
      rcases ih with ⟨name, hn, before, behind, hname, hfirst⟩ | ⟨hn, hnot⟩
      · refine .inl ⟨name, hn, c :: before, behind, hname.cons c, fun left other right h => ?_⟩
        obtain ⟨rest, rfl, hr⟩ := hrest h
        exact Nat.succ_le_succ (hfirst rest other right hr)
      · refine .inr ⟨hn, fun before name behind h => ?_⟩
        obtain ⟨rest, -, hr⟩ := hrest h
        exact hnot rest name behind hr

theorem IsFirstName.unique (h : IsFirstName message name) (ho : IsFirstName message other) :
    name = other := by
  obtain ⟨before, behind, hname, hfirst⟩ := h
  obtain ⟨left, right, hother, hleft⟩ := ho
  have hlen := Nat.le_antisymm (hfirst _ _ _ hother) (hleft _ _ _ hname)
  have hrest := (List.append_inj (hname.message_eq.symm.trans hother.message_eq) hlen).2
  have hcut := congrArg (cutAt? ['\'']) (List.cons.inj hrest).2
  rw [cutAt?_singleton hname.apostrophe_notMem, cutAt?_singleton hother.apostrophe_notMem] at hcut
  exact congrArg Prod.fst (Option.some.inj hcut)

theorem nameInApostrophes?_eq_some_iff :
    nameInApostrophes? message = some name ↔ IsFirstName message name := by
  rcases nameInApostrophes?_cases message with ⟨first, hn, hfirst⟩ | ⟨hn, hnot⟩
  · rw [hn, Option.some_inj]
    exact ⟨fun he => he ▸ hfirst, hfirst.unique⟩
  · rw [hn]
    exact iff_of_false (by simp) fun ⟨before, behind, h, _⟩ => hnot before name behind h

theorem nameInApostrophes?_eq_none_iff :
    nameInApostrophes? message = none ↔
      ∀ before name behind, ¬ InApostrophes message before name behind := by
  rcases nameInApostrophes?_cases message with ⟨first, hn, before, behind, h, -⟩ | ⟨hn, hnot⟩
  · rw [hn]
    exact iff_of_false (by simp) fun hnot => hnot before first behind h
  · exact iff_of_true hn hnot

end Apostrophes

section Covered
variable {text line covered quote name : List Char} {range : Range} {first last : Nat}

/-- The slice of a line between two columns is what stands between their byte offsets. -/
theorem isSlice_byteOffset_iff :
    IsSlice line (byteOffset line first) (byteOffset line last) covered ↔
      charIndex line first ≤ charIndex line last ∧ slice line first last = covered := by
  constructor
  · rintro ⟨before, behind, hl, hf, hb⟩
    have hstart : line.take (charIndex line first) = before :=
      take_charIndex_of_byteLength ⟨covered ++ behind, hl.symm⟩ hf
    have hstop : line.take (charIndex line last) = before ++ covered :=
      take_charIndex_of_byteLength ⟨behind, by rw [List.append_assoc, hl]⟩ hb
    have hle : charIndex line first ≤ charIndex line last := by
      rw [← length_take_charIndex line first, ← length_take_charIndex line last, hstart, hstop,
        List.length_append]
      exact Nat.le_add_right _ _
    have hslice := take_append_slice hle
    rw [hstart, hstop] at hslice
    exact ⟨hle, List.append_cancel_left hslice⟩
  · rintro ⟨hle, rfl⟩
    refine ⟨line.take (charIndex line first), line.drop (charIndex line last), ?_, rfl, ?_⟩
    · rw [← List.append_assoc, take_append_slice hle, List.take_append_drop]
    · rw [take_append_slice hle]
      rfl

theorem trimQuotes_eq_strip (text : List Char) : trimQuotes text = strip (· == '"') text := rfl

/-- Nothing is left exactly of quotes with blanks around them. -/
theorem trimQuotes_trim_eq_nil_iff : trimQuotes (trim covered) = [] ↔ IsBlankQuotes covered := by
  rw [trimQuotes_eq_strip, strip_eq_nil_iff, trim_eq_strip]
  constructor
  · intro hq
    obtain ⟨left, right, hc, hl, hr⟩ := exists_stripped isBlank covered
    exact ⟨left, _, right, hc, hl, fun c hm => eq_of_beq (hq c hm), hr⟩
  · rintro ⟨left, quotes, right, rfl, hl, hq, hr⟩
    have hb : isBlank '"' = false := by decide
    have hf : quotes.head?.any isBlank = false :=
      (Option.any_eq_false _ _).2 fun c hc => by rw [hq c (List.mem_of_head? hc), hb]
    have hlast : quotes.getLast?.any isBlank = false :=
      (Option.any_eq_false _ _).2 fun c hc => by rw [hq c (List.mem_of_getLast? hc), hb]
    rw [strip_append hl hr hf hlast]
    exact fun c hm => beq_iff_eq.2 (hq c hm)

/-- A bare name is left of it, with or without quotes around it. -/
theorem IsBareName.trimQuotes_trim (h : IsBareName name) (hq : quote = [] ∨ quote = ['"']) :
    trimQuotes (trim (quote ++ name ++ quote)) = name := by
  have htrim : trim (quote ++ name ++ quote) = quote ++ (name ++ quote) := by
    rcases hq with rfl | rfl
    · simpa using trim_eq_self h.first_visible h.last_visible
    · have hb : isBlank '"' = false := by decide
      rw [List.append_assoc]
      exact trim_eq_self (by simp [hb]) (by simp [List.getLast?_cons, hb])
  have hquote : ∀ c ∈ quote, (c == '"') = true := by
    rcases hq with rfl | rfl <;> simp
  have hf := h.first_unquoted
  have hl := h.last_unquoted
  rw [htrim, trimQuotes_eq_strip]
  refine strip_append hquote hquote ?_ ?_
  · cases hd : name.head? <;> simp_all
  · cases hd : name.getLast? <;> simp_all

theorem nameUnder?_on_line (hs : range.start.line = range.stop.line)
    (hl : (lines text)[range.start.line]? = some line) :
    nameUnder? text range =
      if trimQuotes (trim (slice line range.start.character range.stop.character)) = [] then none
      else some (trimQuotes (trim (slice line range.start.character range.stop.character))) := by
  unfold nameUnder?
  rw [if_neg (not_not.2 hs), hl]
  simp only [List.isEmpty_iff]

/-- On a line that exists the reasons come down to what the range covers of it. -/
theorem namesNothing_on_line_iff (hs : range.start.line = range.stop.line)
    (hl : (lines text)[range.start.line]? = some line) :
    NamesNothing text range ↔
      IsBlankQuotes (slice line range.start.character range.stop.character) := by
  constructor
  · intro h
    have hempty : slice line range.start.character range.stop.character = [] →
        IsBlankQuotes (slice line range.start.character range.stop.character) :=
      fun he => he ▸ ⟨[], [], [], by simp⟩
    cases h with
    | spansLines hne => exact absurd hs hne
    | inverted hi =>
      refine hempty (slice_eq_nil (charIndex_mono line ?_))
      simp only [Position.le, hs, Nat.lt_irrefl, decide_false, beq_self_eq_true, Bool.true_and,
        Bool.false_or, decide_eq_false_iff_not] at hi
      omega
    | belowText hb =>
      rw [List.getElem?_eq_none_iff.2 hb] at hl
      cases hl
    | @behindLine found hf hu =>
      obtain rfl := Option.some.inj (hl.symm.trans hf)
      refine hempty (slice_eq_nil ?_)
      rw [charIndex_of_units_le hu]
      exact charIndex_le_length line _
    | @onQuotes found covered hf hc hq =>
      obtain rfl := Option.some.inj (hl.symm.trans hf)
      rwa [(isSlice_byteOffset_iff.1 hc).2]
  · intro hq
    by_cases hle : range.start.character ≤ range.stop.character
    · exact .onQuotes hl (isSlice_byteOffset_iff.2 ⟨charIndex_mono line hle, rfl⟩) hq
    · exact .inverted (by simp [Position.le, hs, hle])

/-- There is no name under a range for these reasons and no other. -/
theorem nameUnder?_eq_none_iff : nameUnder? text range = none ↔ NamesNothing text range := by
  by_cases hs : range.start.line = range.stop.line
  · cases hl : (lines text)[range.start.line]? with
    | none =>
      have hn : nameUnder? text range = none := by simp [nameUnder?, hl]
      exact iff_of_true hn (.belowText (List.getElem?_eq_none_iff.1 hl))
    | some line =>
      rw [namesNothing_on_line_iff hs hl, ← trimQuotes_trim_eq_nil_iff, nameUnder?_on_line hs hl]
      simp
  · exact iff_of_true (if_pos hs) (.spansLines hs)

end Covered

section Diagnosed
variable {text : String} {diagnostic : Diagnostic} {name : List Char}

theorem diagnosedName?_of_nameUnder? (h : nameUnder? text.toList diagnostic.range = some name) :
    diagnosedName? text diagnostic = some (String.ofList name) := by
  rw [diagnosedName?, h]
  rfl

theorem diagnosedName?_of_namesNothing (h : NamesNothing text.toList diagnostic.range) :
    diagnosedName? text diagnostic =
      (nameInApostrophes? diagnostic.message.toList).map String.ofList := by
  rw [diagnosedName?, nameUnder?_eq_none_iff.2 h]
  rfl

end Diagnosed

/-- A diagnostic whose range covers a bare name on a line, with its quotes or without, is about that
name. Under a range that names nothing it is about the first name between apostrophes in its
message, and about none exactly if there is no such name. Under any other range the message does
not matter. -/
theorem diagnosedName?_under_range (text : String) :
    (∀ diagnostic line before quote name behind,
      (lines text.toList)[line]? = some (before ++ (quote ++ name ++ quote ++ behind)) →
      quote = [] ∨ quote = ['"'] → IsBareName name →
      diagnostic.range =
        ⟨⟨line, units before⟩, ⟨line, units (before ++ (quote ++ name ++ quote))⟩⟩ →
      diagnosedName? text diagnostic = some (String.ofList name)) ∧
    (∀ diagnostic, NamesNothing text.toList diagnostic.range →
      (∀ name, diagnosedName? text diagnostic = some name ↔
        IsFirstName diagnostic.message.toList name.toList) ∧
      (diagnosedName? text diagnostic = none ↔
        ∀ before name behind, ¬ InApostrophes diagnostic.message.toList before name behind)) ∧
    ∀ range, ¬ NamesNothing text.toList range →
      ∃ name, ∀ diagnostic, diagnostic.range = range →
        diagnosedName? text diagnostic = some name := by
  refine ⟨fun diagnostic line before quote name behind hl hq hn hr => ?_,
    fun diagnostic h => ⟨fun name => ?_, ?_⟩, fun range h => ?_⟩
  · have hs := slice_append before (quote ++ name ++ quote) behind
    rw [← units_append] at hs
    refine diagnosedName?_of_nameUnder? ?_
    rw [hr, nameUnder?_on_line rfl hl, hs, hn.trimQuotes_trim hq, if_neg hn.name_ne]
  · rw [diagnosedName?_of_namesNothing h, ← nameInApostrophes?_eq_some_iff,
      Option.map_eq_some_iff]
    constructor
    · rintro ⟨found, hf, rfl⟩
      rw [hf, String.toList_ofList]
    · intro hf
      exact ⟨_, hf, String.ofList_toList⟩
  · rw [diagnosedName?_of_namesNothing h, Option.map_eq_none_iff, nameInApostrophes?_eq_none_iff]
  · rw [← nameUnder?_eq_none_iff, ← ne_eq, Option.ne_none_iff_exists'] at h
    obtain ⟨name, hn⟩ := h
    refine ⟨String.ofList name, fun diagnostic hr => diagnosedName?_of_nameUnder? ?_⟩
    rw [hr]
    exact hn

/-- A diagnostic of which only the range and the message are known. -/
def reported (message : String) (range : Range) : Diagnostic :=
  ⟨range, none, none, none, none, message, none, none, none⟩

/-- Letters before the quoted name have two bytes, and its first character has two code units. -/
theorem diagnosedName?_under_range_quoted :
    let text := "begin\r\n  Größe.\"😀 Nr.\" := 1;\r\nend;"
    IsBareName "😀 Nr.".toList ∧
      diagnosedName? text (reported "No variable 'Nr'" ⟨⟨1, 8⟩, ⟨1, 16⟩⟩) =
        some "😀 Nr." ∧
      NamesNothing text.toList ⟨⟨1, 16⟩, ⟨1, 8⟩⟩ ∧
      diagnosedName? text (reported "No variable ''Item'" ⟨⟨1, 16⟩, ⟨1, 8⟩⟩) =
        some "Item" ∧
      diagnosedName? text (reported "It's not known" ⟨⟨1, 16⟩, ⟨1, 8⟩⟩) = none ∧
      ¬ NamesNothing text.toList ⟨⟨1, 2⟩, ⟨1, 7⟩⟩ ∧
      ∃ name, ∀ message,
        diagnosedName? text (reported message ⟨⟨1, 2⟩, ⟨1, 7⟩⟩) = some name := by
  intro text
  have hbare : IsBareName "😀 Nr.".toList :=
    ⟨by decide, by decide, by decide, by decide, by decide⟩
  have hnothing : NamesNothing text.toList ⟨⟨1, 16⟩, ⟨1, 8⟩⟩ := .inverted (by decide)
  have hname : ¬ NamesNothing text.toList ⟨⟨1, 2⟩, ⟨1, 7⟩⟩ := by
    rw [← nameUnder?_eq_none_iff]
    decide +kernel
  obtain ⟨hcovered, hmessage, hany⟩ := diagnosedName?_under_range text
  have hfirst := (hmessage (reported "No variable ''Item'" _) hnothing).1 "Item"
  have hnone := (hmessage (reported "It's not known" _) hnothing).2
  rw [← nameInApostrophes?_eq_some_iff] at hfirst
  rw [← nameInApostrophes?_eq_none_iff] at hnone
  obtain ⟨name, hn⟩ := hany _ hname
  refine ⟨hbare, ?_, hnothing, hfirst.2 (by decide), hnone.2 (by decide), hname, name,
    fun message => hn _ rfl⟩
  exact hcovered (reported "No variable 'Nr'" _) 1 "  Größe.".toList ['"'] "😀 Nr.".toList
    " := 1;".toList (by decide) (.inr rfl) hbare (by decide)

end AlAssistant.Al
