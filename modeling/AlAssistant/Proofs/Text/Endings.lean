import AlAssistant.Proofs.Text.Trim
import Mathlib.Data.List.Chain

/-!
# Uniform line endings

In a text with one style of line endings every line feed stands behind a carriage return, or none
does. The style is a matter of neighbouring characters, so a visible character divides a text into
two parts that have the style each on its own, and what is trimmed or taken out of quotes keeps it.
-/
namespace AlAssistant.Text

/-- What may stand before a line feed: a carriage return and nothing else, or anything else. -/
def Joins (windows : Bool) (a b : Char) : Prop := b = '\n' → (a = '\r' ↔ windows = true)

instance (windows : Bool) : DecidableRel (Joins windows) := fun a b =>
  inferInstanceAs (Decidable (b = '\n' → (a = '\r' ↔ windows = true)))

/-- Behind a visible character, the text has the endings of Windows throughout or nowhere. -/
def Uniform (windows : Bool) (text : List Char) : Prop := ('>' :: text).IsChain (Joins windows)

instance (windows : Bool) (text : List Char) : Decidable (Uniform windows text) :=
  inferInstanceAs (Decidable (('>' :: text).IsChain (Joins windows)))

/-- Every line feed stands behind a carriage return. -/
def NoBareFeed (text : List Char) : Prop :=
  ∀ before after, text = before ++ '\n' :: after → before.getLast? = some '\r'

section
variable {windows : Bool} {text a b : List Char} {c : Char}

theorem uniform_iff : Uniform windows text ↔
    ∀ before after, text = before ++ '\n' :: after →
      (before.getLast? = some '\r' ↔ windows = true) := by
  unfold Uniform
  rw [List.isChain_iff_forall_rel_of_append_cons_cons]
  constructor
  · rintro h before after rfl
    rcases List.eq_nil_or_concat before with rfl | ⟨init, last, rfl⟩
    · have hj : Joins windows '>' '\n' := @h '>' '\n' [] after rfl
      simpa [Joins] using hj
    · have hj : Joins windows last '\n' := @h last '\n' ('>' :: init) after (by simp)
      simpa [Joins] using hj
  · rintro h x y l r he rfl
    cases l with
    | nil =>
      obtain ⟨rfl, rfl⟩ := List.cons.inj he
      simpa using h [] r rfl
    | cons d l =>
      obtain ⟨rfl, rfl⟩ := List.cons.inj he
      simpa using h (l ++ [x]) r (by simp)

theorem uniform_false_iff : Uniform false text ↔ ¬ ['\r', '\n'] <:+: text := by
  rw [uniform_iff]
  constructor
  · rintro h ⟨s, t, rfl⟩
    exact absurd ((h (s ++ ['\r']) t (by simp)).1 (by simp)) Bool.false_ne_true
  · rintro h before after rfl
    refine iff_of_false (fun hl => h ?_) Bool.false_ne_true
    obtain ⟨s, rfl⟩ := List.getLast?_eq_some_iff.1 hl
    exact ⟨s, after, by simp⟩

theorem uniform_true_iff : Uniform true text ↔ NoBareFeed text := by
  simp only [uniform_iff, NoBareFeed, iff_true]

instance (text : List Char) : Decidable (NoBareFeed text) :=
  decidable_of_iff _ uniform_true_iff

theorem uniform_of_notMem (h : '\n' ∉ text) : Uniform windows text :=
  uniform_iff.2 fun before after he => absurd (by simp [he]) h

theorem Uniform.of_isPrefix (h : Uniform windows text) (hp : a <+: text) : Uniform windows a := by
  obtain ⟨rest, rfl⟩ := hp
  exact List.IsChain.left_of_append h

theorem Uniform.append_of_notMem (h : Uniform windows a) (hb : '\n' ∉ b) :
    Uniform windows (a ++ b) := by
  rw [uniform_iff]
  intro before after he
  rcases List.append_eq_append_iff.1 he with ⟨s, rfl, rfl⟩ | ⟨s, rfl, hs⟩
  · simp at hb
  · cases s with
    | nil =>
      rw [List.nil_append] at hs
      simp [← hs] at hb
    | cons c s =>
      obtain ⟨rfl, -⟩ := List.cons.inj hs
      exact uniform_iff.1 h before s rfl

/-- A visible character, and any other that ends no line, divides the text. -/
theorem uniform_append_iff (hn : c ≠ '\n') (hr : c ≠ '\r') :
    Uniform windows (a ++ c :: b) ↔ Uniform windows a ∧ Uniform windows b := by
  have hhead : ∀ d, Joins windows c d ↔ Joins windows '>' d := fun d => by simp [Joins, hr]
  have hb : (c :: b).IsChain (Joins windows) ↔ ('>' :: b).IsChain (Joins windows) := by
    simp only [List.isChain_cons, hhead]
  unfold Uniform
  rw [← List.cons_append, List.isChain_append, hb]
  refine ⟨fun h => ⟨h.1, h.2.1⟩, fun h => ⟨h.1, h.2, fun x _ y hy => ?_⟩⟩
  obtain rfl : c = y := by simpa using hy
  exact fun he => absurd he hn

/-- Between two tags a text can be exchanged for another. -/
theorem uniform_between_tags_iff {middle : List Char} :
    Uniform windows (a ++ '>' :: (middle ++ '<' :: b)) ↔
      Uniform windows a ∧ Uniform windows middle ∧ Uniform windows b := by
  rw [uniform_append_iff (by decide) (by decide), uniform_append_iff (by decide) (by decide)]

theorem Uniform.trimStart (h : Uniform windows text) : Uniform windows (trimStart text) := by
  have hf := head?_trimStart text
  obtain ⟨blanks, hb⟩ := trimStart_isSuffix text
  cases ht : Text.trimStart text with
  | nil => exact uniform_of_notMem List.not_mem_nil
  | cons c rest =>
    rw [ht, List.head?_cons, Option.any_some] at hf
    have hn : c ≠ '\n' := fun he => absurd hf (he ▸ by decide)
    have hr : c ≠ '\r' := fun he => absurd hf (he ▸ by decide)
    rw [← hb, ht, uniform_append_iff hn hr] at h
    exact (@uniform_append_iff windows [] rest c hn hr).2 ⟨uniform_of_notMem (by simp), h.2⟩

theorem Uniform.trim (h : Uniform windows text) : Uniform windows (trim text) :=
  h.trimStart.of_isPrefix (trimEnd_isPrefix _)

theorem Uniform.stripQuotes (h : Uniform windows text) : Uniform windows (stripQuotes text) := by
  rcases stripQuotes_cases text with ⟨inner, ht, hs⟩ | hs
  · have hq := (@uniform_append_iff windows [] (inner ++ ['"']) '"' (by decide) (by decide)).1
      (ht ▸ h)
    rw [hs]
    exact hq.2.of_isPrefix (List.prefix_append inner ['"'])
  · exact hs.symm ▸ h

theorem uniform_lineEnding (h : windows = true ↔ ['\r', '\n'] <:+: text) :
    Uniform windows (lineEnding text) := by
  unfold lineEnding
  rw [← occursIn_iff] at h
  cases windows with
  | true =>
    rw [if_pos (h.1 rfl)]
    simp [Uniform, Joins]
  | false =>
    rw [if_neg fun ho => Bool.false_ne_true (h.2 ho)]
    simp [Uniform, Joins]

end

end AlAssistant.Text
