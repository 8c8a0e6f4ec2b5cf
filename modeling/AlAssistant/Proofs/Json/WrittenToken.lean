import AlAssistant.Json.Reader
import AlAssistant.Proofs.Json.Grammar
import AlAssistant.Proofs.Text.Ascii
import AlAssistant.Proofs.Text.Trim

/-!
# Tokens that are written out

A string body is decoded to the code points and surrogates it is written for, and joining these
gives the text that they spell, if they spell one. A number is judged by what stands behind its
whole part.
-/
namespace AlAssistant.Json

open AlAssistant.Text (numeral? ofDigits)

section Strings
variable {body : List Char} {units : List Nat}

theorem escaped?_of_mem {letter c : Char} (h : (letter, c) ∈ letterEscapes) :
    letter ≠ 'u' ∧ escaped? letter = some c := by
  simp only [letterEscapes, List.mem_cons, Prod.mk.injEq, List.not_mem_nil, or_false] at h
  rcases h with h | h | h | h | h | h | h | h <;> obtain ⟨rfl, rfl⟩ := h <;> decide

theorem isPlain_iff {c : Char} : isPlain c = true ↔ 0x20 ≤ c.toNat ∧ c ≠ '"' ∧ c ≠ '\\' := by
  simp [isPlain, and_assoc]

theorem bodyUnits?_unit {piece : List Char} {n : Nat} (h : WritesUnit piece n) (body : List Char) :
    bodyUnits? (piece ++ body) = (bodyUnits? body).map (n :: ·) := by
  cases h with
  | @plain c hc =>
    obtain ⟨hc, -, hb⟩ := isPlain_iff.1 hc
    have hs : ¬ c.toNat < 0x20 := Nat.not_lt.2 hc
    rw [List.singleton_append, bodyUnits?.eq_4]
    · simp [hs, hb]
    · intros; simp_all
    · intros; simp_all
  | letter hm =>
    obtain ⟨hu, he⟩ := escaped?_of_mem hm
    rw [List.cons_append, List.singleton_append, bodyUnits?.eq_3, he]
    · cases bodyUnits? body <;> rfl
    · intros; simp_all
  | number hn =>
    simp only [List.cons_append, List.nil_append, bodyUnits?, hn]
    cases bodyUnits? body <;> rfl

theorem bodyUnits?_of_writes (h : WritesUnits body units) : bodyUnits? body = some units := by
  induction h with
  | nil => rfl
  | cons hp _ ih => rw [bodyUnits?_unit hp, ih, Option.map_some]

theorem toNat_bounds (c : Char) :
    c.toNat < 0xD800 ∨ 0xDFFF < c.toNat ∧ c.toNat < 0x110000 := c.valid

theorem exists_char {n : Nat} (h : n < 0xD800 ∨ 0xDFFF < n ∧ n < 0x110000) :
    ∃ c : Char, c.toNat = n :=
  ⟨Char.ofNatAux n h, rfl⟩

theorem lt_of_writesUnit {piece : List Char} {n : Nat} (h : WritesUnit piece n) :
    n < 0x110000 := by
  cases h with
  | @plain c _ =>
    have := toNat_bounds c
    omega
  | @letter _ c _ =>
    have := toNat_bounds c
    omega
  | number hn => exact Nat.lt_trans (Text.numeral?_lt hn) (by decide)

theorem lt_of_writesUnits (h : WritesUnits body units) : ∀ n ∈ units, n < 0x110000 := by
  induction h with
  | nil => simp
  | cons hp _ ih => exact List.forall_mem_cons.2 ⟨lt_of_writesUnit hp, ih⟩

theorem isHighSurrogate_iff {n : Nat} : isHighSurrogate n = true ↔ 0xD800 ≤ n ∧ n < 0xDC00 := by
  simp [isHighSurrogate]

theorem isLowSurrogate_iff {n : Nat} : isLowSurrogate n = true ↔ 0xDC00 ≤ n ∧ n < 0xE000 := by
  simp [isLowSurrogate]

/-- A code point that is no surrogate stands for its character. -/
theorem joinSurrogates_point (c : Char) (units : List Nat) :
    joinSurrogates (c.toNat :: units) = (joinSurrogates units).map (c :: ·) := by
  have hb := toNat_bounds c
  have hh : ¬ isHighSurrogate c.toNat = true := by rw [isHighSurrogate_iff]; omega
  have hl : ¬ isLowSurrogate c.toNat = true := by rw [isLowSurrogate_iff]; omega
  cases units with
  | nil => simp [joinSurrogates, hh, hl]
  | cons m units => rw [joinSurrogates, if_neg hh, if_neg hl, Char.ofNat_toNat]

theorem ofNat_surrogates {c : Char} (h : 0x10000 ≤ c.toNat) :
    Char.ofNat (0x10000 + (highSurrogate c - 0xD800) * 0x400 + (lowSurrogate c - 0xDC00)) = c := by
  have hn : 0x10000 + (highSurrogate c - 0xD800) * 0x400 + (lowSurrogate c - 0xDC00) = c.toNat := by
    unfold highSurrogate lowSurrogate
    omega
  rw [hn, Char.ofNat_toNat]

theorem joinSurrogates_pair {c : Char} (h : 0x10000 ≤ c.toNat) (units : List Nat) :
    joinSurrogates (highSurrogate c :: lowSurrogate c :: units) =
      (joinSurrogates units).map (c :: ·) := by
  have hb := toNat_bounds c
  have hh : isHighSurrogate (highSurrogate c) = true := by
    rw [isHighSurrogate_iff, highSurrogate]
    omega
  have hl : isLowSurrogate (lowSurrogate c) = true := by
    rw [isLowSurrogate_iff, lowSurrogate]
    omega
  rw [joinSurrogates, if_pos hh, if_pos hl, ofNat_surrogates h]

theorem joinSurrogates_of_spells {text : List Char} (h : Spells units text) :
    joinSurrogates units = some text := by
  induction h with
  | nil => rfl
  | point _ ih => rw [joinSurrogates_point, ih, Option.map_some]
  | pair hc _ ih => rw [joinSurrogates_pair hc, ih, Option.map_some]

/-- Two surrogates in order are those of one character. -/
theorem exists_pair_char {n m : Nat} (hn : isHighSurrogate n = true)
    (hm : isLowSurrogate m = true) :
    ∃ c : Char, 0x10000 ≤ c.toNat ∧ highSurrogate c = n ∧ lowSurrogate c = m := by
  rw [isHighSurrogate_iff] at hn
  rw [isLowSurrogate_iff] at hm
  obtain ⟨c, hc⟩ := exists_char (n := 0x10000 + (n - 0xD800) * 0x400 + (m - 0xDC00)) (by omega)
  refine ⟨c, by omega, ?_, ?_⟩
  · unfold highSurrogate
    omega
  · unfold lowSurrogate
    omega

/-- What is no surrogate is a character. -/
theorem exists_point_char {n : Nat} (hn : n < 0x110000) (hh : ¬ isHighSurrogate n = true)
    (hl : ¬ isLowSurrogate n = true) : ∃ c : Char, c.toNat = n := by
  rw [isHighSurrogate_iff] at hh
  rw [isLowSurrogate_iff] at hl
  exact exists_char (by omega)

theorem spells_of_joinSurrogates {text : List Char} (hu : ∀ n ∈ units, n < 0x110000)
    (h : joinSurrogates units = some text) : Spells units text := by
  fun_induction joinSurrogates units generalizing text with
  | case1 =>
    obtain rfl := Option.some.inj h
    exact .nil
  | case2 n hn => contradiction
  | case3 n hn =>
    rw [Bool.or_eq_true, not_or] at hn
    obtain ⟨c, rfl⟩ := exists_point_char (hu n (by simp)) hn.1 hn.2
    obtain rfl := Option.some.inj h
    rw [Char.ofNat_toNat]
    exact .point .nil
  | case4 n m rest hn hm ih =>
    obtain ⟨c, hc, rfl, rfl⟩ := exists_pair_char hn hm
    rw [ofNat_surrogates hc] at h
    obtain ⟨text, ht, rfl⟩ := Option.map_eq_some_iff.1 h
    exact .pair hc (ih (fun n hn => hu n (by simp [hn])) ht)
  | case5 n m rest hn hm => contradiction
  | case6 n m rest hn hm => contradiction
  | case7 n m rest hn hm ih =>
    obtain ⟨c, rfl⟩ := exists_point_char (hu n (by simp)) hn hm
    rw [Char.ofNat_toNat] at h
    obtain ⟨text, ht, rfl⟩ := Option.map_eq_some_iff.1 h
    exact .point (ih (List.forall_mem_cons.1 hu).2 ht)

theorem spells_iff (h : WritesUnits body units) {text : List Char} :
    Spells units text ↔ joinSurrogates units = some text :=
  ⟨joinSurrogates_of_spells, spells_of_joinSurrogates (lt_of_writesUnits h)⟩

/-- What the text between the quotes stands for. -/
theorem literal_eq_iff (h : WritesUnits body units) {s : Literal} :
    (∀ spelled : String, s = some spelled ↔ Spells units spelled.toList) ↔
      (joinSurrogates units).map String.ofList = s := by
  have hspells : ∀ spelled : String,
      (joinSurrogates units).map String.ofList = some spelled ↔ Spells units spelled.toList := by
    intro spelled
    rw [spells_iff h, Option.map_eq_some_iff]
    constructor
    · rintro ⟨text, ht, rfl⟩
      rwa [String.toList_ofList]
    · exact fun hs => ⟨_, hs, String.ofList_toList⟩
  constructor
  · intro hs
    ext spelled
    rw [hs, hspells]
  · rintro rfl
    exact hspells

theorem stringToken?_of_writes {s : Literal} (h : WritesUnits body units)
    (hs : ∀ spelled : String, s = some spelled ↔ Spells units spelled.toList) :
    stringToken? body = some (.string s) := by
  rw [stringToken?, bodyUnits?_of_writes h, Option.map_some, (literal_eq_iff h).1 hs]

/-- Any such text in quotes is a string. -/
theorem writesLiteral_of_units {s : Literal} (h : WritesUnits body units)
    (hs : (joinSurrogates units).map String.ofList = s) :
    WritesLiteral ('"' :: (body ++ ['"'])) s :=
  ⟨body, units, rfl, h, (literal_eq_iff h).2 hs⟩

/-- Characters that need no escape are written as they are. -/
theorem writesUnits_plain {text : List Char} (h : text.all isPlain = true) :
    WritesUnits text (text.map Char.toNat) := by
  induction text with
  | nil => exact .nil
  | cons c text ih =>
    rw [List.all_cons, Bool.and_eq_true] at h
    exact .cons (.plain h.1) (ih h.2)

theorem spells_points : ∀ text : List Char, Spells (text.map Char.toNat) text
  | [] => .nil
  | _ :: text => .point (spells_points text)

theorem writesLiteral_plain {s : String} (h : s.toList.all isPlain = true) :
    WritesLiteral ('"' :: (s.toList ++ ['"'])) (some s) := by
  refine writesLiteral_of_units (writesUnits_plain h) ?_
  rw [joinSurrogates_of_spells (spells_points s.toList), Option.map_some, String.ofList_toList]

end Strings

section Numbers
variable {digits rest : List Char}

theorem areDigits_iff : areDigits digits = true ↔ AreDigits digits := by
  simp [areDigits, AreDigits]

theorem AreDigits.exists_cons (h : AreDigits digits) :
    ∃ d more, digits = d :: more ∧ d.isDigit = true := by
  obtain ⟨d, more, rfl⟩ := List.exists_cons_of_ne_nil h.1
  exact ⟨d, more, rfl, h.2 d List.mem_cons_self⟩

/-- A run of digits reaches up to what is no digit. -/
theorem AreDigits.takeWhile_append (h : AreDigits digits)
    (hr : rest.head?.any Char.isDigit = false) :
    (digits ++ rest).takeWhile Char.isDigit = digits ∧
      (digits ++ rest).dropWhile Char.isDigit = rest :=
  Text.cut_append h.2 hr

theorem IsNumeral.wholePart? (h : IsNumeral digits) (hr : rest.head?.any Char.isDigit = false) :
    wholePart? (digits ++ rest) = some (digits, rest) := by
  obtain ⟨ht, hd⟩ := h.1.takeWhile_append hr
  obtain ⟨d, more, rfl, -⟩ := h.1.exists_cons
  unfold Json.wholePart?
  rw [ht, hd]
  by_cases hz : d = '0'
  · subst hz
    obtain rfl : more = [] := by simpa using h.2 rfl
    rfl
  · split
    · contradiction
    · simp_all
    · simp_all
    · rfl

theorem isExponent_of_sign {sign : List Char} (hs : sign ∈ [[], ['+'], ['-']])
    (h : AreDigits digits) : isExponent (sign ++ digits) = true := by
  simp only [List.mem_cons, List.not_mem_nil, or_false] at hs
  rcases hs with rfl | rfl | rfl
  · obtain ⟨d, more, rfl, hd⟩ := h.exists_cons
    rw [List.nil_append, isExponent.eq_3]
    · exact areDigits_iff.2 h
    · rintro text ⟨⟩; contradiction
    · rintro text ⟨⟩; contradiction
  · exact areDigits_iff.2 h
  · exact areDigits_iff.2 h

theorem IsExponent.isFractionOrExponent {exponent : List Char} (h : IsExponent exponent) :
    isFractionOrExponent exponent = true ∧ exponent.head?.any Char.isDigit = false ∧
      ∃ mark behind, exponent = mark :: behind ∧
        ((mark == 'e' || mark == 'E') && isExponent behind) = true := by
  obtain ⟨mark, hm, sign, hs, digits, hd, rfl⟩ := h
  have he := isExponent_of_sign hs hd
  simp only [List.mem_cons, List.not_mem_nil, or_false] at hm
  rcases hm with rfl | rfl
  · exact ⟨he, rfl, _, _, rfl, he⟩
  · exact ⟨he, rfl, _, _, rfl, he⟩

theorem isFractionOrExponent_append {fraction exponent : List Char}
    (hf : fraction = [] ∨ IsFraction fraction) (he : exponent = [] ∨ IsExponent exponent)
    (hn : fraction ++ exponent ≠ []) :
    isFractionOrExponent (fraction ++ exponent) = true ∧
      (fraction ++ exponent).head?.any Char.isDigit = false := by
  rcases hf with rfl | ⟨digits, hd, rfl⟩
  · rcases he with rfl | he
    · contradiction
    · exact ⟨he.isFractionOrExponent.1, he.isFractionOrExponent.2.1⟩
  · refine ⟨?_, rfl⟩
    obtain ⟨d, more, hcons, -⟩ := hd.exists_cons
    rcases he with rfl | he
    · obtain ⟨ht, hdrop⟩ := @AreDigits.takeWhile_append _ [] hd rfl
      rw [List.cons_append, isFractionOrExponent, ht, hdrop, hcons]
    · obtain ⟨-, hhead, mark, behind, rfl, hmark⟩ := he.isFractionOrExponent
      obtain ⟨ht, hdrop⟩ := hd.takeWhile_append hhead
      rw [List.cons_append, isFractionOrExponent, ht, hdrop, hcons]
      exact hmark

/-- The token of a value that is written as one token. -/
def scalarToken? : Value → Option Token
  | .null => some .null
  | .bool b => some (.bool b)
  | .integer i => some (.integer i)
  | .decimal written => some (.decimal written)
  | .string s => some (.string s)
  | _ => none

theorem IsNumeral.head?_ne (h : IsNumeral digits) (rest : List Char) :
    ∃ d more, digits ++ rest = d :: more ∧ d ≠ '-' := by
  obtain ⟨d, more, rfl, hd⟩ := h.1.exists_cons
  refine ⟨d, more ++ rest, rfl, ?_⟩
  rintro rfl
  contradiction

theorem numberToken?_natural (h : IsNumeral digits) :
    numberToken? digits = some (.integer (ofDigits digits)) := by
  have hw := @IsNumeral.wholePart? _ [] h rfl
  obtain ⟨d, more, he, hd⟩ := h.head?_ne []
  rw [he] at hw
  rw [List.append_nil] at he
  rw [he] at hw ⊢
  simp [numberToken?, hd, hw]

theorem numberToken?_negative (h : IsNumeral digits) (hz : digits ≠ ['0']) :
    numberToken? ('-' :: digits) = some (.integer (-(ofDigits digits : Int))) := by
  have hw := @IsNumeral.wholePart? _ [] h rfl
  rw [List.append_nil] at hw
  simp [numberToken?, hw, hz]

theorem numberToken?_decimal {sign : List Char} (hs : sign ∈ [[], ['-']]) (h : IsNumeral digits)
    (hd : rest.head?.any Char.isDigit = false) (hr : isFractionOrExponent rest = true) :
    numberToken? (sign ++ (digits ++ rest)) =
      some (.decimal (String.ofList (sign ++ (digits ++ rest)))) := by
  have hw := h.wholePart? hd
  obtain ⟨c, more, he, hc⟩ := h.head?_ne rest
  obtain ⟨mark, behind, rfl⟩ : ∃ mark behind, rest = mark :: behind :=
    List.exists_cons_of_ne_nil fun hn => by simp [hn, isFractionOrExponent] at hr
  simp only [List.mem_cons, List.not_mem_nil, or_false] at hs
  rcases hs with rfl | rfl
  · rw [he] at hw ⊢
    simp [numberToken?, hc, hw, hr]
  · simp [numberToken?, hw, hr]

theorem numberToken?_of_writes {text : List Char} {value : Value} (h : WritesNumber text value) :
    ∃ token, scalarToken? value = some token ∧ numberToken? text = some token := by
  cases h with
  | natural hd => exact ⟨_, rfl, numberToken?_natural hd⟩
  | negative hd hz => exact ⟨_, rfl, numberToken?_negative hd hz⟩
  | negativeZero => exact ⟨_, rfl, by decide⟩
  | decimal hs hd hf he hn =>
    obtain ⟨hr, hhead⟩ := isFractionOrExponent_append hf he hn
    refine ⟨_, rfl, ?_⟩
    rw [List.append_assoc, List.append_assoc, numberToken?_decimal hs hd hhead hr]

end Numbers

end AlAssistant.Json
