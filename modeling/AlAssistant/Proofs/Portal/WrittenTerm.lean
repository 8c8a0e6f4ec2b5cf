import AlAssistant.Portal.ResultPage
import AlAssistant.Portal.TermTable
import AlAssistant.Proofs.Text.Ascii

/-!
# Written terms are read back

Each character of a term is read from what was written for it, by itself: a reference ends at its
semicolon, and what it stands for is not read again. So the visible text of a cell is the term with
its blanks collapsed, and nothing in a term is taken for a tag or for another reference.
-/
namespace AlAssistant

namespace Text

/-- What is no digit does not occur in a numeral. -/
theorem notMem_of_numeral? {base n : Nat} {digits : List Char} {c : Char}
    (h : numeral? base digits = some n) (hc : digitOf? base c = none) : c ∉ digits :=
  fun hm => digitOf?_ne_none h c hm hc

end Text

namespace Portal

open AlAssistant.Text

section Decoding
variable {text name : List Char} {c : Char}

theorem decodeReferences_append {a : List Char} (h : '&' ∉ a) (text : List Char) :
    decodeReferences (a ++ text) = a ++ decodeReferences text := by
  obtain ⟨part, parts, hs⟩ := exists_splitOnChar '&' text
  unfold decodeReferences
  rw [hs, splitOnChar_append_of_notMem h hs]
  exact List.append_assoc a part _

theorem decodeBehindAmpersand_of_name (hn : ';' ∉ name) (hc : referencedChar? name = some c)
    (text : List Char) : decodeBehindAmpersand (name ++ ';' :: text) = c :: text := by
  unfold decodeBehindAmpersand
  rw [cutAt?_singleton hn]
  simp [hc]

/-- A known reference is read as one character, and reading goes on behind it. -/
theorem decodeReferences_reference (ha : '&' ∉ name) (hn : ';' ∉ name)
    (hc : referencedChar? name = some c) (text : List Char) :
    decodeReferences ('&' :: (name ++ ';' :: text)) = c :: decodeReferences text := by
  obtain ⟨part, parts, hs⟩ := exists_splitOnChar '&' text
  have hm : '&' ∉ name ++ [';'] := by simp [ha]
  have hp : splitOnChar '&' (name ++ ';' :: text) = (name ++ ';' :: part) :: parts := by
    simpa using splitOnChar_append_of_notMem hm hs
  unfold decodeReferences
  rw [splitOnChar, if_pos rfl, hp, hs]
  simp [decodeBehindAmpersand_of_name hn hc]

theorem numberedChar?_of_numeral {base : Nat} {digits : List Char}
    (h : numeral? base digits = some c.toNat) (hd : digits ≠ []) :
    numberedChar? base digits = some c := by
  have valid : c.toNat.isValidChar := c.valid
  simp [numberedChar?, h, hd, valid]

theorem referencedChar?_decimal {digits : List Char} (h : numeral? 10 digits = some c.toNat)
    (hd : digits ≠ []) : referencedChar? ('#' :: digits) = some c := by
  have hx : 'x' ∉ digits := notMem_of_numeral? h (by decide)
  have hX : 'X' ∉ digits := notMem_of_numeral? h (by decide)
  rw [← numberedChar?_of_numeral h hd]
  unfold referencedChar?
  split
  · next he => exact absurd ((List.cons.inj he).2 ▸ List.mem_cons_self) hx
  · next he => exact absurd ((List.cons.inj he).2 ▸ List.mem_cons_self) hX
  · next he => rw [(List.cons.inj he).2]
  · next hne => exact absurd rfl (hne digits)

theorem referencedChar?_hexadecimal {mark : Char} {digits : List Char}
    (hm : mark = 'x' ∨ mark = 'X') (h : numeral? 16 digits = some c.toNat) (hd : digits ≠ []) :
    referencedChar? ('#' :: mark :: digits) = some c := by
  rcases hm with rfl | rfl
  · exact numberedChar?_of_numeral h hd
  · exact numberedChar?_of_numeral h hd

end Decoding

/-- A character stands for itself, or a reference stands for it. -/
inductive Writes : List Char → Char → Prop
  | itself {c : Char} : c ≠ '&' → c ≠ '<' → Writes [c] c
  | reference {name : List Char} {c : Char} : '&' ∉ name → ';' ∉ name → '<' ∉ name →
      referencedChar? name = some c → Writes ('&' :: (name ++ [';'])) c

namespace Writes
variable {written : List Char} {c : Char}

theorem lt (h : Writes written c) : '<' ∉ written := by
  cases h with
  | itself _ hl => simpa using Ne.symm hl
  | reference _ _ hl _ => simp [hl]

theorem decodeReferences_append (h : Writes written c) (text : List Char) :
    decodeReferences (written ++ text) = c :: decodeReferences text := by
  cases h with
  | itself ha _ => exact Portal.decodeReferences_append (by simpa using Ne.symm ha) text
  | reference ha hn _ hc => simpa using decodeReferences_reference ha hn hc text

/-- A number in digits refers to its character. -/
theorem of_numeral {base : Nat} {digits : List Char} (lead : List Char)
    (hb : base = 10 ∨ base = 16) (hlead : ∀ d ∈ lead, d = '#' ∨ d = 'x' ∨ d = 'X')
    (h : numeral? base digits = some c.toNat) (hr : referencedChar? (lead ++ digits) = some c) :
    Writes ('&' :: (lead ++ digits ++ [';'])) c := by
  have hn (d : Char) (hd : d = '&' ∨ d = ';' ∨ d = '<') : d ∉ lead ++ digits := by
    rw [List.mem_append, not_or]
    constructor
    · intro hm
      rcases hd with rfl | rfl | rfl <;> exact absurd (hlead _ hm) (by decide)
    · apply notMem_of_numeral? h
      rcases hb with rfl | rfl <;> rcases hd with rfl | rfl | rfl <;> decide
  exact .reference (hn '&' (by simp)) (hn ';' (by simp)) (hn '<' (by simp)) hr

end Writes

section Terms

theorem numeral?_decimal (zeros n : Nat) :
    numeral? 10 (List.replicate zeros '0' ++ Nat.toDigits 10 n) = some n := by
  rw [numeral?_zeros (by decide) (by decide), numeral?_toDigits (by decide) (by decide)]

theorem numeral?_hexadecimal (zeros : Nat) {digits : List Char} {n : Nat}
    (h : asciiLower digits = Nat.toDigits 16 n) :
    numeral? 16 (List.replicate zeros '0' ++ digits) = some n := by
  rw [numeral?_zeros (by decide) (by decide), ← numeral?_asciiLower, h,
    numeral?_toDigits (by decide) (by decide)]

theorem WrittenChar.writes {written : WrittenChar} (h : written.isSound = true) :
    Writes written.render written.char := by
  cases written with
  | raw c =>
    simp only [isSound, Bool.not_eq_true', Bool.or_eq_false_iff, beq_eq_false_iff_ne] at h
    exact .itself h.1.1 h.1.2
  | decimal zeros c =>
    have hn := numeral?_decimal zeros c.toNat
    have hd : List.replicate zeros '0' ++ Nat.toDigits 10 c.toNat ≠ [] := by
      simp [Nat.toDigits_ne_nil]
    simpa [render, char] using Writes.of_numeral ['#'] (.inl rfl) (by simp) hn
      (referencedChar?_decimal hn hd)
  | hexadecimal mark zeros digits c =>
    simp only [isSound, Bool.and_eq_true, Bool.or_eq_true, beq_iff_eq] at h
    obtain ⟨hm, he⟩ := h
    have hn := numeral?_hexadecimal zeros he
    have hd : List.replicate zeros '0' ++ digits ≠ [] := by
      rintro h0
      obtain rfl : digits = [] := (List.append_eq_nil_iff.1 h0).2
      exact Nat.toDigits_ne_nil he.symm
    simpa [render, char] using Writes.of_numeral ['#', mark] (.inr rfl) (by simpa using .inr hm) hn
      (referencedChar?_hexadecimal hm hn hd)
  | named c => cases c <;> exact .reference (by decide) (by decide) (by decide) rfl

variable {term : WrittenTerm}

/-- All characters of the term are written as they may be. -/
def WrittenTerm.IsSound (term : WrittenTerm) : Prop := ∀ c ∈ term, c.isSound = true

instance (term : WrittenTerm) : Decidable term.IsSound :=
  inferInstanceAs (Decidable (∀ c ∈ term, c.isSound = true))

theorem WrittenTerm.IsSound.lt (h : term.IsSound) : '<' ∉ term.flatMap WrittenChar.render := by
  intro hm
  obtain ⟨c, hc, hlt⟩ := List.mem_flatMap.1 hm
  exact (WrittenChar.writes (h c hc)).lt hlt

theorem WrittenTerm.IsSound.decodeReferences (h : term.IsSound) :
    Portal.decodeReferences (term.flatMap WrittenChar.render) = term.text := by
  induction term with
  | nil => rfl
  | cons c term ih =>
    obtain ⟨hc, ht⟩ := List.forall_mem_cons.1 h
    rw [List.flatMap_cons, (WrittenChar.writes hc).decodeReferences_append, ih ht]
    rfl

theorem dropTags_of_notMem {text : List Char} (h : '<' ∉ text) : dropTags false text = text := by
  induction text with
  | nil => rfl
  | cons c text ih =>
    rw [List.mem_cons, not_or] at h
    have hc : (c == '<') = false := by simpa using Ne.symm h.1
    simp [dropTags, hc, ih h.2]

/-- The visible text of a cell is the term, with its blanks collapsed. -/
theorem cellText_render (h : term.IsSound) :
    cellText (term.flatMap WrittenChar.render) = collapse term.text := by
  rw [cellText, dropTags_of_notMem h.lt, h.decodeReferences]

end Terms

end Portal

end AlAssistant
