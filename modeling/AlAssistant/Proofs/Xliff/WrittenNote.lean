import AlAssistant.Proofs.Text.Ascii
import AlAssistant.Proofs.Xliff.NoteValue

/-!
# Written notes are read back

A pair is written with its value in quotes, so blanks, commas and quotes at the ends of the value
are its own. Only a comma that a code follows would end it. No value of a note holds such a comma,
so a note has the pairs of its own written form.
-/
namespace AlAssistant.Xliff

open AlAssistant.Text

/-- Three capitals. -/
def IsCode (code : List Char) : Prop := code.length = 3 ∧ ∀ c ∈ code, isCapital c = true

instance (code : List Char) : Decidable (IsCode code) :=
  decidable_of_iff (code.length = 3 ∧ code.all isCapital = true) (by simp [IsCode])

/-- The text begins with a code and its equals sign, behind optional blanks. -/
def OpensCode (text : List Char) : Prop :=
  ∃ blanks code rest, (∀ c ∈ blanks, isBlank c = true) ∧ IsCode code ∧
    text = blanks ++ code ++ '=' :: rest

/-- Somewhere a code follows a comma, which ends a value there. -/
def HasSeparator (text : List Char) : Prop :=
  ∃ before behind, OpensCode behind ∧ text = before ++ ',' :: behind

section Codes
variable {text code rest : List Char}

theorem isBlank_of_isCapital {c : Char} (h : isCapital c = true) : isBlank c = false := by
  have small : c.toNat < 91 := by
    simp only [isCapital, Bool.and_eq_true, decide_eq_true_eq] at h
    exact Nat.lt_succ_of_le (UInt32.le_iff_toNat_le.1 h.2)
  exact forall_toNat_lt (P := fun c => isCapital c = true → isBlank c = false) (by decide) small h

theorem isCode_iff : IsCode code ↔
    ∃ a b c, isCapital a = true ∧ isCapital b = true ∧ isCapital c = true ∧
      code = [a, b, c] := by
  constructor
  · rintro ⟨hl, hc⟩
    match code, hl with
    | [a, b, c], _ => exact ⟨a, b, c, by simpa using hc⟩
  · rintro ⟨a, b, c, ha, hb, hc, rfl⟩
    exact ⟨rfl, by simp [ha, hb, hc]⟩

theorem codeHere?_eq_some_iff : codeHere? text = some (code, rest) ↔
    IsCode code ∧ ∃ blanks, (∀ c ∈ blanks, isBlank c = true) ∧
      text = blanks ++ code ++ '=' :: rest := by
  constructor
  · intro h
    unfold codeHere? at h
    split at h
    · next a b c tail ht =>
      split at h
      · next hcap =>
        cases h
        simp only [Bool.and_eq_true] at hcap
        have he : text.takeWhile isBlank ++ trimStart text = text := List.takeWhile_append_dropWhile
        refine ⟨isCode_iff.2 ⟨a, b, c, hcap.1.1, hcap.1.2, hcap.2, rfl⟩,
          text.takeWhile isBlank, fun d hd => List.mem_takeWhile_imp hd, ?_⟩
        rw [List.append_assoc, List.cons_append, List.cons_append, List.cons_append,
          List.nil_append, ← ht, he]
      · cases h
    · cases h
  · rintro ⟨hcode, blanks, hb, rfl⟩
    obtain ⟨a, b, c, ha, hb', hc, rfl⟩ := isCode_iff.1 hcode
    -- the first capital ends the blanks
    have ht : trimStart (blanks ++ [a, b, c] ++ '=' :: rest) = a :: b :: c :: '=' :: rest := by
      rw [List.append_assoc, trimStart, List.dropWhile_append_of_pos hb]
      simp [isBlank_of_isCapital ha]
    rw [codeHere?, ht]
    simp [ha, hb', hc]

theorem codeHere?_eq_none_iff : codeHere? text = none ↔ ¬ OpensCode text := by
  rw [Option.eq_none_iff_forall_ne_some]
  constructor
  · rintro h ⟨blanks, code, rest, hb, hcode, ht⟩
    exact h (code, rest) (codeHere?_eq_some_iff.2 ⟨hcode, blanks, hb, ht⟩)
  · rintro h ⟨code, rest⟩ hf
    obtain ⟨hcode, blanks, hb, ht⟩ := codeHere?_eq_some_iff.1 hf
    exact h ⟨blanks, code, rest, hb, hcode, ht⟩

theorem OpensCode.mono {longer : List Char} (h : OpensCode text) (hp : text <+: longer) :
    OpensCode longer := by
  obtain ⟨blanks, code, rest, hb, hcode, rfl⟩ := h
  obtain ⟨more, rfl⟩ := hp
  exact ⟨blanks, code, rest ++ more, hb, hcode, by simp⟩

/-- A code does not begin in front of a comma and end behind it. -/
theorem OpensCode.of_append_comma {behind : List Char} (h : OpensCode (text ++ ',' :: behind)) :
    OpensCode text := by
  obtain ⟨blanks, code, rest, hb, hcode, he⟩ := h
  have hn : ',' ∉ blanks ++ code ++ ['='] := by
    simp only [List.mem_append, List.mem_singleton, not_or]
    refine ⟨⟨fun hm => ?_, fun hm => ?_⟩, by decide⟩
    · exact absurd (hb ',' hm) (by decide)
    · exact absurd (hcode.2 ',' hm) (by decide)
  have he : text ++ ',' :: behind = (blanks ++ code ++ ['=']) ++ rest := by simpa using he
  rcases List.append_eq_append_iff.1 he with ⟨s, hs, hr⟩ | ⟨s, rfl, _⟩
  · -- the comma would be part of the code, or behind all of it
    cases s with
    | nil => exact ⟨blanks, code, [], hb, hcode, by simpa using hs.symm⟩
    | cons c s =>
      obtain ⟨rfl, _⟩ := List.cons.inj hr
      exact absurd (hs ▸ by simp) hn
  · exact ⟨blanks, code, s, hb, hcode, by simp⟩

end Codes

section Separators
variable {text before code rest : List Char}

theorem hasSeparator_cons {c : Char} : HasSeparator (c :: text) ↔
    (c = ',' ∧ OpensCode text) ∨ HasSeparator text := by
  constructor
  · rintro ⟨before, behind, ho, he⟩
    cases before with
    | nil =>
      obtain ⟨rfl, rfl⟩ := List.cons.inj he
      exact .inl ⟨rfl, ho⟩
    | cons d before =>
      obtain ⟨rfl, rfl⟩ := List.cons.inj he
      exact .inr ⟨before, behind, ho, rfl⟩
  · rintro (⟨rfl, ho⟩ | ⟨before, behind, ho, rfl⟩)
    · exact ⟨[], text, ho, rfl⟩
    · exact ⟨c :: before, behind, ho, rfl⟩

theorem not_hasSeparator_nil : ¬ HasSeparator [] := by
  rintro ⟨before, behind, _, he⟩
  simp at he

theorem HasSeparator.mono {longer : List Char} (h : HasSeparator text) (hi : text <:+: longer) :
    HasSeparator longer := by
  obtain ⟨before, behind, ho, rfl⟩ := h
  obtain ⟨s, t, rfl⟩ := hi
  exact ⟨s ++ before, behind ++ t, ho.mono (List.prefix_append behind t), by simp⟩

theorem nextCode?_cons_of_none {c : Char} (h : (if c = ',' then codeHere? text else none) = none) :
    nextCode? (c :: text) =
      (nextCode? text).map fun (before, code, rest) => (c :: before, code, rest) := by
  rw [nextCode?, h]

theorem nextCode?_cons_of_some {c : Char}
    (h : (if c = ',' then codeHere? text else none) = some (code, rest)) :
    nextCode? (c :: text) = some ([], code, rest) := by
  rw [nextCode?, h]

theorem nextCode?_eq_none_iff : nextCode? text = none ↔ ¬ HasSeparator text := by
  induction text with
  | nil => exact iff_of_true rfl not_hasSeparator_nil
  | cons c text ih =>
    rw [hasSeparator_cons, not_or, ← ih]
    cases hf : (if c = ',' then codeHere? text else none) with
    | none =>
      rw [nextCode?_cons_of_none hf, Option.map_eq_none_iff]
      refine ⟨fun h => ⟨?_, h⟩, And.right⟩
      rintro ⟨rfl, ho⟩
      rw [if_pos rfl, codeHere?_eq_none_iff] at hf
      exact hf ho
    | some found =>
      -- a code stands here, so the search ends and there is a separator
      obtain ⟨code, rest⟩ := found
      have hs : nextCode? (c :: text) ≠ none := by simp [nextCode?_cons_of_some hf]
      split at hf
      · next hc =>
        obtain ⟨hcode, blanks, hb, ht⟩ := codeHere?_eq_some_iff.1 hf
        exact iff_of_false hs fun h => h.1 ⟨hc, blanks, code, rest, hb, hcode, ht⟩
      · cases hf

instance (text : List Char) : Decidable (HasSeparator text) :=
  decidable_of_iff (nextCode? text ≠ none) (by rw [Ne, nextCode?_eq_none_iff, not_not])

/-- The search finds the first comma that a code follows. -/
theorem nextCode?_eq_some_iff : nextCode? text = some (before, code, rest) ↔
    ¬ HasSeparator before ∧
      ∃ behind, text = before ++ ',' :: behind ∧ codeHere? behind = some (code, rest) := by
  constructor
  · intro h
    induction text generalizing before with
    | nil => cases h
    | cons c text ih =>
      cases hf : (if c = ',' then codeHere? text else none) with
      | some found =>
        cases (nextCode?_cons_of_some hf).symm.trans h
        split at hf
        · next hc => exact ⟨not_hasSeparator_nil, text, by rw [hc]; rfl, hf⟩
        · cases hf
      | none =>
        rw [nextCode?_cons_of_none hf] at h
        obtain ⟨⟨b, d, r⟩, hl, he⟩ := Option.map_eq_some_iff.1 h
        cases he
        obtain ⟨hb, behind, rfl, hd⟩ := ih hl
        refine ⟨?_, behind, rfl, hd⟩
        rw [hasSeparator_cons]
        rintro (⟨rfl, ho⟩ | hs)
        · rw [if_pos rfl, codeHere?_eq_none_iff] at hf
          exact hf (ho.mono (List.prefix_append b _))
        · exact hb hs
  · rintro ⟨hb, behind, rfl, hd⟩
    induction before with
    | nil => exact nextCode?_cons_of_some (by rw [if_pos rfl, hd])
    | cons c before ih =>
      rw [hasSeparator_cons, not_or] at hb
      have hn : (if c = ',' then codeHere? (before ++ ',' :: behind) else none) = none := by
        split
        · next hc => exact codeHere?_eq_none_iff.2 fun ho => hb.1 ⟨hc, ho.of_append_comma⟩
        · rfl
      rw [List.cons_append, nextCode?_cons_of_none hn, ih hb.2]
      rfl

theorem isCode_of_codeHere? (h : codeHere? text = some (code, rest)) : IsCode code :=
  (codeHere?_eq_some_iff.1 h).1

theorem isCode_of_nextCode? (h : nextCode? text = some (before, code, rest)) : IsCode code := by
  obtain ⟨_, behind, _, hd⟩ := nextCode?_eq_some_iff.1 h
  exact isCode_of_codeHere? hd

end Separators

/-- A pair that a note can give. -/
structure NotePair.IsWritable (pair : NotePair) : Prop where
  code : IsCode pair.code
  value : ¬ HasSeparator pair.value

instance (pair : NotePair) : Decidable pair.IsWritable :=
  decidable_of_iff (IsCode pair.code ∧ ¬ HasSeparator pair.value)
    ⟨fun h => ⟨h.1, h.2⟩, fun h => ⟨h.code, h.value⟩⟩

section Reading
variable {pair : NotePair} {code text note : List Char}

theorem isWritable_of_mem_pairsFrom (hc : IsCode code) (h : pair ∈ pairsFrom code text) :
    pair.IsWritable := by
  fun_induction pairsFrom code text with
  | case1 code text hn =>
    obtain rfl := List.mem_singleton.1 h
    exact ⟨hc, fun hs => nextCode?_eq_none_iff.1 hn (hs.mono (cleanValue_isInfix text))⟩
  | case2 code text raw next rest hn ih =>
    rcases List.mem_cons.1 h with rfl | h
    · exact ⟨hc, fun hs => (nextCode?_eq_some_iff.1 hn).1 (hs.mono (cleanValue_isInfix raw))⟩
    · exact ih (isCode_of_nextCode? hn) h

theorem isWritable_of_mem_notePairs (h : pair ∈ notePairs note) : pair.IsWritable := by
  unfold notePairs at h
  split at h
  · next hf => exact isWritable_of_mem_pairsFrom (isCode_of_codeHere? hf) h
  · split at h
    · next hf => exact isWritable_of_mem_pairsFrom (isCode_of_nextCode? hf) h
    · cases h

end Reading

section Writing

/-- A value between quotes. -/
def quoted (value : List Char) : List Char := '"' :: (value ++ ['"'])

/-- What stands behind the value of a pair when these pairs follow it. -/
def behindValue : List NotePair → List Char
  | [] => []
  | pair :: pairs => ',' :: renderNote (pair :: pairs)

theorem renderNote_cons (pair : NotePair) (pairs : List NotePair) :
    renderNote (pair :: pairs) = pair.code ++ '=' :: (quoted pair.value ++ behindValue pairs) := by
  cases pairs with
  | nil => simp [renderNote, NotePair.render, quoted, behindValue]
  | cons next pairs =>
    unfold renderNote
    rw [List.map_cons, List.map_cons, List.intercalate_cons_cons]
    simp [NotePair.render, quoted, behindValue, renderNote]

theorem codeHere?_renderNote {pair : NotePair} (h : pair.IsWritable) (pairs : List NotePair) :
    codeHere? (renderNote (pair :: pairs)) =
      some (pair.code, quoted pair.value ++ behindValue pairs) :=
  codeHere?_eq_some_iff.2 ⟨h.code, [], by simp, renderNote_cons pair pairs⟩

/-- A quote is no part of a separator, so quotes around a value make none. -/
theorem not_hasSeparator_quoted {value : List Char} (h : ¬ HasSeparator value) :
    ¬ HasSeparator (quoted value) := by
  rintro ⟨before, behind, ⟨blanks, code, rest, hb, hcode, rfl⟩, he⟩
  cases before with
  | nil => exact absurd (List.cons.inj he).1 (by decide)
  | cons c before =>
    obtain ⟨-, he⟩ := List.cons.inj he
    rcases List.eq_nil_or_concat rest with rfl | ⟨rest, d, rfl⟩
    · have he : value ++ ['"'] = (before ++ ',' :: (blanks ++ code)) ++ ['='] := by simpa using he
      exact absurd (List.append_inj' he rfl).2 (by decide)
    · have he : value ++ ['"'] = (before ++ ',' :: (blanks ++ code ++ '=' :: rest)) ++ [d] := by
        simpa using he
      obtain ⟨rfl, -⟩ := List.append_inj' he rfl
      exact h ⟨before, _, ⟨blanks, code, rest, hb, hcode, rfl⟩, rfl⟩

theorem cleanValue_quoted (value : List Char) : cleanValue (quoted value) = value := by
  have hq : isBlank '"' = false := by decide
  have hs : trimStart (quoted value) = quoted value := by simp [trimStart, quoted, hq]
  have he : trimEnd (quoted value) = quoted value := by simp [trimEnd, quoted, hq]
  have hl : (quoted value).getLast? ≠ some ',' := by
    have : (quoted value).getLast? = some '"' := List.getLast?_concat (l := '"' :: value)
    rw [this]
    decide
  calc cleanValue (quoted value)
    _ = stripQuotes (trimEnd (quoted value)) := by simp only [cleanValue, trim, hs, he, if_neg hl]
    _ = value := by rw [he, quoted, stripQuotes_enclosed]

theorem pairsFrom_of_none {code text : List Char} (h : nextCode? text = none) :
    pairsFrom code text = [⟨code, cleanValue text⟩] := by
  rw [pairsFrom]
  split
  · rfl
  · next hf => cases h.symm.trans hf

theorem pairsFrom_of_some {code text raw next rest : List Char}
    (h : nextCode? text = some (raw, next, rest)) :
    pairsFrom code text = ⟨code, cleanValue raw⟩ :: pairsFrom next rest := by
  rw [pairsFrom]
  split
  · next hf => cases h.symm.trans hf
  · next hf =>
    cases h.symm.trans hf
    rfl

theorem pairsFrom_renderNote {pair : NotePair} {pairs : List NotePair} (h : pair.IsWritable)
    (hs : ∀ pair ∈ pairs, pair.IsWritable) :
    pairsFrom pair.code (quoted pair.value ++ behindValue pairs) = pair :: pairs := by
  have hq := not_hasSeparator_quoted h.value
  induction pairs generalizing pair with
  | nil =>
    rw [behindValue, List.append_nil, pairsFrom_of_none (nextCode?_eq_none_iff.2 hq),
      cleanValue_quoted]
  | cons next pairs ih =>
    obtain ⟨hn, hs⟩ := List.forall_mem_cons.1 hs
    have hf := nextCode?_eq_some_iff.2 ⟨hq, _, rfl, codeHere?_renderNote hn pairs⟩
    rw [behindValue, pairsFrom_of_some hf, cleanValue_quoted,
      ih hn hs (not_hasSeparator_quoted hn.value)]

theorem notePairs_renderNote {pairs : List NotePair} (h : ∀ pair ∈ pairs, pair.IsWritable) :
    notePairs (renderNote pairs) = pairs := by
  cases pairs with
  | nil => rfl
  | cons pair pairs =>
    obtain ⟨hp, hs⟩ := List.forall_mem_cons.1 h
    rw [notePairs, codeHere?_renderNote hp pairs]
    exact pairsFrom_renderNote hp hs

end Writing

/-- The value for a code is that of the first pair with it. -/
theorem noteValue?_eq_some_iff {note code value : List Char} : noteValue? note code = some value ↔
    ∃ earlier later, notePairs note = earlier ++ ⟨code, value⟩ :: later ∧
      ∀ pair ∈ earlier, pair.code ≠ code := by
  unfold noteValue?
  rw [Option.map_eq_some_iff]
  simp only [List.find?_eq_some_iff_append, beq_iff_eq, Bool.not_eq_true', beq_eq_false_iff_ne]
  constructor
  · rintro ⟨pair, ⟨rfl, earlier, later, hp, hn⟩, rfl⟩
    exact ⟨earlier, later, hp, hn⟩
  · rintro ⟨earlier, later, hp, hn⟩
    exact ⟨⟨code, value⟩, ⟨rfl, earlier, later, hp, hn⟩, rfl⟩

theorem noteValue?_eq_none_iff {note code : List Char} :
    noteValue? note code = none ↔ ∀ pair ∈ notePairs note, pair.code ≠ code := by
  unfold noteValue?
  rw [Option.map_eq_none_iff, List.find?_eq_none]
  simp

/-- Pairs are read back from the note that is written of them, in order and with their values
unchanged, and the value for a code is that of the first pair with it. Every note has the same
pairs as its written form. -/
theorem renderNote_read_back :
    (∀ pairs : List NotePair, (∀ pair ∈ pairs, pair.IsWritable) →
      notePairs (renderNote pairs) = pairs ∧
        ∀ code,
          (∀ value, noteValue? (renderNote pairs) code = some value ↔
            ∃ earlier later, pairs = earlier ++ ⟨code, value⟩ :: later ∧
              ∀ pair ∈ earlier, pair.code ≠ code) ∧
          (noteValue? (renderNote pairs) code = none ↔ ∀ pair ∈ pairs, pair.code ≠ code)) ∧
      ∀ note, notePairs (renderNote (notePairs note)) = notePairs note := by
  constructor
  · intro pairs h
    have hp := notePairs_renderNote h
    refine ⟨hp, fun code => ⟨fun value => ?_, ?_⟩⟩
    · rw [noteValue?_eq_some_iff, hp]
    · rw [noteValue?_eq_none_iff, hp]
  · intro note
    exact notePairs_renderNote fun pair => isWritable_of_mem_notePairs

/-- Blanks, commas and quotes at the ends of a value are kept, and what only looks like a code
opens no pair. -/
theorem renderNote_read_back_edges :
    let pairs : List NotePair :=
      [⟨"DEU".toList, " \"Menge, EUR\" = 1, ".toList⟩, ⟨"FRA".toList, ",AB=,".toList⟩,
        ⟨"DEU".toList, "\"".toList⟩]
    (∀ pair ∈ pairs, pair.IsWritable) ∧ notePairs (renderNote pairs) = pairs ∧
      noteValue? (renderNote pairs) "DEU".toList = some " \"Menge, EUR\" = 1, ".toList := by
  intro pairs
  have hw : ∀ pair ∈ pairs, pair.IsWritable := by decide
  obtain ⟨hp, hv⟩ := renderNote_read_back.1 pairs hw
  exact ⟨hw, hp, ((hv _).1 _).2 ⟨[], _, rfl, by simp⟩⟩

end AlAssistant.Xliff
