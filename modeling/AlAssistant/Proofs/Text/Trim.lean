import AlAssistant.Text.Layout
import Mathlib.Data.List.DropRight
import Mathlib.Data.List.TakeWhile

/-!
# What trimming takes away

Trimming takes away what is blank at the ends and nothing else, and one pair of quotes is taken off
only where there is one. What is left is a contiguous part of the text, and a trimmed text neither
begins nor ends with a blank.
-/
namespace AlAssistant.Text

/-- A run of characters of a class ends where none of them follows. -/
theorem cut_append {p : Char → Bool} {run rest : List Char} (h : ∀ c ∈ run, p c = true)
    (hr : rest.head?.any p = false) :
    (run ++ rest).takeWhile p = run ∧ (run ++ rest).dropWhile p = rest := by
  rw [List.takeWhile_append_of_pos h, List.dropWhile_append_of_pos h]
  cases rest with
  | nil => exact ⟨List.append_nil run, rfl⟩
  | cons c rest =>
    have hc : ¬ p c = true := Bool.eq_false_iff.1 hr
    rw [List.takeWhile_cons_of_neg hc, List.dropWhile_cons_of_neg hc, List.append_nil]
    exact ⟨rfl, rfl⟩

/-- A text without the characters of a class at its ends. -/
def strip (p : Char → Bool) (text : List Char) : List Char := (text.dropWhile p).rdropWhile p

section Strip
variable {p : Char → Bool} {left body right text : List Char}

theorem exists_stripped (p : Char → Bool) (text : List Char) :
    ∃ left right, text = left ++ (strip p text ++ right) ∧ (∀ c ∈ left, p c = true) ∧
      ∀ c ∈ right, p c = true := by
  refine ⟨text.takeWhile p, (text.dropWhile p).rtakeWhile p, ?_,
    fun c hc => List.mem_takeWhile_imp hc, fun c hc => List.mem_rtakeWhile_imp hc⟩
  rw [strip, List.rdropWhile_append_rtakeWhile, List.takeWhile_append_dropWhile]

theorem strip_eq_nil_iff : strip p text = [] ↔ ∀ c ∈ text, p c = true := by
  constructor
  · intro h
    obtain ⟨left, right, ht, hl, hr⟩ := exists_stripped p text
    rw [h, List.nil_append] at ht
    rw [ht]
    exact List.forall_mem_append.2 ⟨hl, hr⟩
  · intro h
    rw [strip, List.dropWhile_eq_nil_iff.2 h, List.rdropWhile_nil]

/-- What is left of a text with characters of the class around it, if it has none at its ends. -/
theorem strip_append (hl : ∀ c ∈ left, p c = true) (hr : ∀ c ∈ right, p c = true)
    (hf : body.head?.any p = false) (hb : body.getLast?.any p = false) :
    strip p (left ++ (body ++ right)) = body := by
  cases body with
  | nil => exact strip_eq_nil_iff.2 (List.forall_mem_append.2 ⟨hl, hr⟩)
  | cons c rest =>
    have hstart : (left ++ (c :: rest ++ right)).dropWhile p = c :: rest ++ right :=
      (@cut_append p left (c :: rest ++ right) hl hf).2
    have hend : (right.reverse ++ (c :: rest).reverse).dropWhile p = (c :: rest).reverse :=
      (cut_append (fun d hd => hr d (List.mem_reverse.1 hd)) (by rwa [List.head?_reverse])).2
    rw [strip, hstart, List.rdropWhile, List.reverse_append, hend, List.reverse_reverse]

theorem trim_eq_strip (text : List Char) : trim text = strip isBlank text := rfl

end Strip

section
variable {indent body text : List Char}

theorem trim_indented (hi : indent.all isBlank = true) (hf : body.head?.any isBlank = false)
    (hl : body.getLast?.any isBlank = false) : trim (indent ++ body) = body := by
  have h := @strip_append isBlank indent body [] (List.all_eq_true.1 hi) (by simp) hf hl
  rwa [List.append_nil] at h

theorem trim_eq_self (hf : text.head?.any isBlank = false)
    (hl : text.getLast?.any isBlank = false) : trim text = text :=
  @trim_indented [] _ rfl hf hl

theorem trimStart_isSuffix (text : List Char) : trimStart text <:+ text :=
  List.dropWhile_suffix isBlank

theorem trimEnd_isPrefix (text : List Char) : trimEnd text <+: text := by
  unfold trimEnd
  rw [← List.reverse_suffix, List.reverse_reverse]
  exact List.dropWhile_suffix isBlank

/-- What the trimming of the end takes away is blank. -/
theorem exists_blanks_of_trimEnd (text : List Char) :
    ∃ blanks, trimEnd text ++ blanks = text ∧ ∀ c ∈ blanks, isBlank c = true := by
  refine ⟨(text.reverse.takeWhile isBlank).reverse, ?_, fun c hc => ?_⟩
  · rw [trimEnd, ← List.reverse_append, List.takeWhile_append_dropWhile, List.reverse_reverse]
  · exact List.mem_takeWhile_imp (List.mem_reverse.1 hc)

theorem trim_isInfix (text : List Char) : trim text <:+: text :=
  (trimEnd_isPrefix _).isInfix.trans (trimStart_isSuffix text).isInfix

theorem head?_trimStart (text : List Char) : (trimStart text).head?.any isBlank = false := by
  have h := List.head?_dropWhile_not isBlank text
  unfold trimStart
  cases hd : (text.dropWhile isBlank).head? with
  | none => rfl
  | some c => simpa [hd] using h

theorem head?_trim (text : List Char) : (trim text).head?.any isBlank = false := by
  have h := head?_trimStart text
  obtain ⟨blanks, hb, -⟩ := exists_blanks_of_trimEnd (trimStart text)
  rw [← hb, List.head?_append] at h
  unfold trim
  cases hd : (trimEnd (trimStart text)).head? with
  | none => rfl
  | some c => simpa [hd] using h

/-- Nothing is left of blanks only. -/
theorem trim_eq_nil_of_blank (h : ∀ c ∈ trim text, isBlank c = true) : trim text = [] := by
  have hf := head?_trim text
  cases ht : trim text with
  | nil => rfl
  | cons c rest =>
    rw [ht] at h hf
    exact absurd (h c List.mem_cons_self) (by simpa using hf)

/-- Quotes are taken off a text that begins and ends with one, and no other text changes. -/
theorem stripQuotes_cases (text : List Char) :
    (∃ inner, text = '"' :: (inner ++ ['"']) ∧ stripQuotes text = inner) ∨
      stripQuotes text = text := by
  unfold stripQuotes
  split
  · next inner =>
    split
    · next hl =>
      obtain ⟨body, rfl⟩ := List.getLast?_eq_some_iff.1 hl
      exact .inl ⟨body, rfl, List.dropLast_concat⟩
    · exact .inr rfl
  · exact .inr rfl

theorem stripQuotes_isInfix (text : List Char) : stripQuotes text <:+: text := by
  unfold stripQuotes
  split
  · next inner =>
    split
    · exact (List.dropLast_prefix inner).isInfix.trans (List.suffix_cons '"' inner).isInfix
    · exact List.infix_rfl
  · exact List.infix_rfl

theorem stripQuotes_enclosed (text : List Char) : stripQuotes ('"' :: (text ++ ['"'])) = text := by
  simp [stripQuotes]

theorem stripQuotes_of_notMem (h : '"' ∉ text) : stripQuotes text = text := by
  unfold stripQuotes
  split
  · simp at h
  · rfl

end

end AlAssistant.Text
