import AlAssistant.Text.CharClass
import AlAssistant.Text.Search

/-!
# ASCII characters and numerals

A property of small code points is checked one by one. The digits of a number are read back to the
number, whatever zeros stand before them; hexadecimal letters may be in either case.
-/
namespace AlAssistant.Text

section Characters
variable {c : Char}

theorem forall_toNat_lt {P : Char → Prop} {bound : Nat} (h : ∀ n < bound, P (Char.ofNat n))
    (hc : c.toNat < bound) : P c := by
  have hn := h c.toNat hc
  rwa [Char.ofNat_toNat] at hn

theorem toLower_of_le (h : 0x80 ≤ c.toNat) : c.toLower = c := by
  unfold Char.toLower
  rw [dif_neg]
  rintro ⟨_, hz⟩
  have small : c.toNat ≤ 90 := UInt32.le_iff_toNat_le.1 hz
  omega

end Characters

section Numerals
variable {base : Nat}

theorem digitOf?_digitChar (hb : base ≤ 16) {n : Nat} (hn : n < base) :
    digitOf? base n.digitChar = some n := by
  have hex : ∀ n < 16, digitOf? 16 n.digitChar = some n := by decide
  have h := hex n (by omega)
  unfold digitOf? at h ⊢
  rw [Option.filter_eq_some_iff] at h ⊢
  exact ⟨h.1, by simpa using hn⟩

theorem digitOf?_toLower (c : Char) : digitOf? 16 c.toLower = digitOf? 16 c := by
  by_cases h : c.toNat < 0x80
  · exact forall_toNat_lt (P := fun c => digitOf? 16 c.toLower = digitOf? 16 c) (by decide) h
  · rw [toLower_of_le (Nat.le_of_not_lt h)]

theorem digitOf?_lt {c : Char} {n : Nat} (h : digitOf? base c = some n) : n < base := by
  unfold digitOf? at h
  exact of_decide_eq_true (Option.filter_eq_some_iff.1 h).2

theorem numeral?_append (digits : List Char) (d : Char) :
    numeral? base (digits ++ [d]) =
      (numeral? base digits).bind fun n => (digitOf? base d).map (base * n + ·) := by
  unfold numeral?
  rw [List.foldlM_append]
  simp

theorem numeral?_toDigits (h : 1 < base) (hb : base ≤ 16) (n : Nat) :
    numeral? base (Nat.toDigits base n) = some n := by
  induction n using Nat.strongRecOn with
  | ind n ih =>
    rw [Nat.toDigits_eq_if h]
    split
    · next hn => simp [numeral?, digitOf?_digitChar hb hn]
    · next hn =>
      have hd : n / base < n := Nat.div_lt_self (by omega) h
      have hm : n % base < base := Nat.mod_lt n (by omega)
      rw [numeral?_append, ih _ hd, digitOf?_digitChar hb hm]
      simp [Nat.div_add_mod]

theorem numeral?_zeros (h : 1 < base) (hb : base ≤ 16) (zeros : Nat) (digits : List Char) :
    numeral? base (List.replicate zeros '0' ++ digits) = numeral? base digits := by
  have hz : digitOf? base '0' = some 0 := digitOf?_digitChar (n := 0) hb (by omega)
  induction zeros with
  | zero => rfl
  | succ zeros ih =>
    rw [List.replicate_succ, List.cons_append, ← ih]
    simp [numeral?, List.foldlM_cons, hz]

/-- Four hexadecimal digits write a number of 16 bits. -/
theorem numeral?_lt {a b c d : Char} {n : Nat} (h : numeral? 16 [a, b, c, d] = some n) :
    n < 0x10000 := by
  have step : ∀ {digits : List Char} {x : Char} {n : Nat},
      numeral? 16 (digits ++ [x]) = some n →
        ∃ m, numeral? 16 digits = some m ∧ n < 16 * m + 16 := by
    intro digits x n h
    rw [numeral?_append] at h
    obtain ⟨m, hm, h⟩ := Option.bind_eq_some_iff.1 h
    obtain ⟨v, hv, rfl⟩ := Option.map_eq_some_iff.1 h
    exact ⟨m, hm, Nat.add_lt_add_left (digitOf?_lt hv) _⟩
  obtain ⟨three, habc, hd⟩ := @step [a, b, c] d n h
  obtain ⟨two, hab, hc⟩ := @step [a, b] c three habc
  obtain ⟨one, ha, hb⟩ := @step [a] b two hab
  obtain ⟨start, hs, ha⟩ := @step [] a one ha
  obtain rfl := Option.some.inj hs
  omega

theorem digitOf?_ne_none {digits : List Char} {n : Nat} (h : numeral? base digits = some n) :
    ∀ c ∈ digits, digitOf? base c ≠ none := by
  unfold numeral? at h
  generalize 0 = read at h
  induction digits generalizing read with
  | nil => simp
  | cons c digits ih =>
    obtain ⟨next, hn, h⟩ := Option.bind_eq_some_iff.1 ((List.foldlM_cons ..).symm.trans h)
    obtain ⟨d, hd, -⟩ := Option.map_eq_some_iff.1 hn
    exact List.forall_mem_cons.2 ⟨by simp [hd], ih next h⟩

theorem numeral?_asciiLower (digits : List Char) :
    numeral? 16 (asciiLower digits) = numeral? 16 digits := by
  unfold numeral? asciiLower
  rw [List.foldlM_map]
  simp only [digitOf?_toLower]

end Numerals

end AlAssistant.Text
