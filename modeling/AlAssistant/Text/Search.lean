/-!
# Scanning texts

Fixed strings are looked for at a position, anywhere, or up to their first occurrence, and digits
are read as numbers. What a successful search found makes up the text that was searched.
-/
namespace AlAssistant.Text

/-! ## Finding fixed text

The scanners of this library look for fixed strings at a position, anywhere, or up to the
first occurrence. `cutAt?` gives the text on both sides of the first occurrence, so the three
parts put together are the text that was searched.
-/

/-- What follows `start`, when the text begins with it. -/
def dropStart? : List Char → List Char → Option (List Char)
  | [], text => some text
  | _ :: _, [] => none
  | p :: start, c :: text => if p = c then dropStart? start text else none

/-- As `dropStart?`, for a pattern of tests. -/
def dropMatch? : List (Char → Bool) → List Char → Option (List Char)
  | [], text => some text
  | _ :: _, [] => none
  | p :: tests, c :: text => if p c then dropMatch? tests text else none

/-- The text before and after the first occurrence of `mark`. -/
def cutAt? (mark : List Char) : List Char → Option (List Char × List Char)
  | [] => (dropStart? mark []).map ([], ·)
  | c :: text =>
    match dropStart? mark (c :: text) with
    | some after => some ([], after)
    | none => (cutAt? mark text).map fun (before, after) => (c :: before, after)

theorem dropStart?_length {start text rest : List Char} (h : dropStart? start text = some rest) :
    rest.length + start.length = text.length := by
  induction start generalizing text with
  | nil => cases h; rfl
  | cons p start ih =>
    cases text with
    | nil => cases h
    | cons c text =>
      unfold dropStart? at h
      split at h
      · have := ih h
        simp only [List.length_cons]
        omega
      · cases h

theorem cutAt?_length {mark text before after : List Char}
    (h : cutAt? mark text = some (before, after)) : after.length ≤ text.length := by
  induction text generalizing before with
  | nil =>
    unfold cutAt? at h
    cases hd : dropStart? mark [] with
    | none => simp [hd] at h
    | some rest =>
      simp only [hd, Option.map_some, Option.some.injEq, Prod.mk.injEq] at h
      obtain ⟨_, rfl⟩ := h
      have := dropStart?_length hd
      omega
  | cons c text ih =>
    unfold cutAt? at h
    split at h
    · next heq =>
      cases h
      have := dropStart?_length heq
      omega
    · cases hn : cutAt? mark text with
      | none => simp [hn] at h
      | some found =>
        obtain ⟨b, a⟩ := found
        simp only [hn, Option.map_some, Option.some.injEq, Prod.mk.injEq] at h
        obtain ⟨_, rfl⟩ := h
        exact Nat.le_succ_of_le (ih hn)

theorem dropMatch?_length {tests : List (Char → Bool)} {text rest : List Char}
    (h : dropMatch? tests text = some rest) : rest.length + tests.length = text.length := by
  induction tests generalizing text with
  | nil => cases h; rfl
  | cons p tests ih =>
    cases text with
    | nil => cases h
    | cons c text =>
      unfold dropMatch? at h
      split at h
      · have := ih h
        simp only [List.length_cons]
        omega
      · cases h

/-- Whether `mark` occurs in the text. -/
def occursIn (mark text : List Char) : Bool := (cutAt? mark text).isSome

/-- Whether the text ends with `tail`. -/
def endsWith (tail text : List Char) : Bool := (dropStart? tail.reverse text.reverse).isSome

/-- Cuts at every `separator`; the parts never hold it and there is at least one. -/
def splitOnChar (separator : Char) : List Char → List (List Char)
  | [] => [[]]
  | c :: text =>
    if c = separator then [] :: splitOnChar separator text
    else match splitOnChar separator text with
      | [] => [[c]]
      | part :: parts => (c :: part) :: parts

/-- The text after the last `separator`, all of it when there is none. -/
def afterLast (separator : Char) (text : List Char) : List Char :=
  (text.reverse.takeWhile (· ≠ separator)).reverse

/-- ASCII letters in lower case, all else unchanged. -/
def asciiLower (text : List Char) : List Char := text.map Char.toLower

/-- Equality up to the case of ASCII letters. -/
def sameIgnoringCase (a b : List Char) : Bool := asciiLower a == asciiLower b

/-- Removes one double quote at each end, when both are there. -/
def stripQuotes (text : List Char) : List Char :=
  match text with
  | '"' :: inner => if inner.getLast? = some '"' then inner.dropLast else text
  | _ => text

/-! ## What a search finds

A successful search determines the text: it is what was found with its surroundings, put
together again. A cut is at the first occurrence, and the parts between separators join to the
text they were cut from.
-/

theorem dropStart?_eq_some_iff {start text rest : List Char} :
    dropStart? start text = some rest ↔ text = start ++ rest := by
  induction start generalizing text with
  | nil => simp [dropStart?]
  | cons p start ih =>
    cases text with
    | nil => simp [dropStart?]
    | cons c text =>
      by_cases h : p = c
      · simp [dropStart?, h, ih]
      · simp [dropStart?, h, Ne.symm h]

@[simp] theorem dropStart?_append (start rest : List Char) :
    dropStart? start (start ++ rest) = some rest :=
  dropStart?_eq_some_iff.2 rfl

theorem isSome_dropStart?_iff {start text : List Char} :
    (dropStart? start text).isSome = true ↔ start <+: text := by
  rw [Option.isSome_iff_exists]
  exact exists_congr fun rest => dropStart?_eq_some_iff.trans eq_comm

/-- What a character introduces has no part in a mark without it that begins before it. -/
theorem prefix_of_notMem {c : Char} {mark text rest : List Char} (hc : c ∉ mark)
    (h : mark <+: text ++ c :: rest) : mark <+: text := by
  rcases List.prefix_or_prefix_of_prefix h (List.prefix_append text (c :: rest)) with hp | hp
  · exact hp
  · obtain ⟨more, rfl⟩ := hp
    rw [List.prefix_append_right_inj] at h
    cases more with
    | nil => simp
    | cons d more =>
      obtain ⟨rfl, -⟩ := List.cons_prefix_cons.1 h
      simp at hc

/-- The parts of a cut make up the text. -/
theorem eq_append_of_cutAt? {mark text before after : List Char}
    (h : cutAt? mark text = some (before, after)) : text = before ++ mark ++ after := by
  induction text generalizing before with
  | nil =>
    unfold cutAt? at h
    cases hd : dropStart? mark [] with
    | none => simp [hd] at h
    | some rest =>
      simp only [hd, Option.map_some, Option.some.injEq, Prod.mk.injEq] at h
      obtain ⟨rfl, rfl⟩ := h
      simpa using dropStart?_eq_some_iff.1 hd
  | cons c text ih =>
    unfold cutAt? at h
    split at h
    · next heq =>
      cases h
      simpa using dropStart?_eq_some_iff.1 heq
    · cases hn : cutAt? mark text with
      | none => simp [hn] at h
      | some found =>
        obtain ⟨b, a⟩ := found
        simp only [hn, Option.map_some, Option.some.injEq, Prod.mk.injEq] at h
        obtain ⟨rfl, rfl⟩ := h
        simp [ih hn]

/-- A cut fails exactly where the mark does not occur. -/
theorem cutAt?_eq_none_iff {mark text : List Char} :
    cutAt? mark text = none ↔ ¬ mark <:+: text := by
  induction text with
  | nil =>
    cases mark with
    | nil => simp [cutAt?, dropStart?]
    | cons p mark => simp [cutAt?, dropStart?]
  | cons c text ih =>
    rw [List.infix_cons_iff]
    unfold cutAt?
    cases hd : dropStart? mark (c :: text) with
    | some rest =>
      have start : mark <+: c :: text := ⟨rest, (dropStart?_eq_some_iff.1 hd).symm⟩
      simp [start]
    | none =>
      have start : ¬ mark <+: c :: text := by
        rintro ⟨rest, h⟩
        rw [dropStart?_eq_some_iff.2 h.symm] at hd
        cases hd
      simp [start, ih]

/-- A single character is cut at where it first stands. -/
theorem cutAt?_singleton {c : Char} {before : List Char} (h : c ∉ before) (after : List Char) :
    cutAt? [c] (before ++ c :: after) = some (before, after) := by
  induction before with
  | nil => simp [cutAt?, dropStart?]
  | cons d before ih =>
    have different : c ≠ d := fun same => h (same ▸ List.mem_cons_self)
    have later := ih fun inside => h (List.mem_cons_of_mem d inside)
    simp [cutAt?, dropStart?, different, later]

theorem occursIn_iff {mark text : List Char} : occursIn mark text = true ↔ mark <:+: text := by
  unfold occursIn
  cases h : cutAt? mark text with
  | none => simp [cutAt?_eq_none_iff.1 h]
  | some found =>
    obtain ⟨before, after⟩ := found
    simp only [Option.isSome_some, true_iff]
    exact ⟨before, after, (eq_append_of_cutAt? h).symm⟩

/-- In a text that is no longer than the mark, only its start can be the mark. -/
theorem occursIn_take_iff {mark text : List Char} :
    occursIn mark (text.take mark.length) = true ↔ mark <+: text := by
  rw [occursIn_iff]
  constructor
  · intro h
    have he : mark = text.take mark.length :=
      h.eq_of_length_le (List.length_take_le mark.length text)
    exact List.prefix_iff_eq_take.2 he
  · intro h
    exact ⟨[], [], by rw [List.nil_append, List.append_nil, ← List.prefix_iff_eq_take.1 h]⟩

theorem splitOnChar_ne_nil (separator : Char) (text : List Char) :
    splitOnChar separator text ≠ [] := by
  cases text with
  | nil => simp [splitOnChar]
  | cons c text =>
    unfold splitOnChar
    split
    · simp
    · split <;> simp

theorem exists_splitOnChar (separator : Char) (text : List Char) :
    ∃ part parts, splitOnChar separator text = part :: parts :=
  List.exists_cons_of_ne_nil (splitOnChar_ne_nil separator text)

/-- Splitting a text at a separator splits what is on either side of it. -/
theorem splitOnChar_append (separator : Char) (a b : List Char) :
    splitOnChar separator (a ++ separator :: b) =
      splitOnChar separator a ++ splitOnChar separator b := by
  induction a with
  | nil => simp [splitOnChar]
  | cons c a ih =>
    by_cases h : c = separator
    · simp [splitOnChar, h, ih]
    · cases hs : splitOnChar separator a with
      | nil => exact absurd hs (splitOnChar_ne_nil separator a)
      | cons part parts =>
        rw [hs] at ih
        simp [splitOnChar, h, ih, hs]

/-- Text without the separator stays in front of the first part. -/
theorem splitOnChar_append_of_notMem {separator : Char} {a text part : List Char}
    {parts : List (List Char)} (h : separator ∉ a)
    (hs : splitOnChar separator text = part :: parts) :
    splitOnChar separator (a ++ text) = (a ++ part) :: parts := by
  induction a with
  | nil => exact hs
  | cons c a ih =>
    rw [List.mem_cons, not_or] at h
    rw [List.cons_append, splitOnChar, if_neg (Ne.symm h.1), ih h.2]
    rfl

/-- A text without the separator is one part. -/
theorem splitOnChar_of_notMem {separator : Char} {text : List Char} (h : separator ∉ text) :
    splitOnChar separator text = [text] := by
  induction text with
  | nil => rfl
  | cons c text ih =>
    have different : c ≠ separator := fun same => h (same ▸ List.mem_cons_self)
    have later := ih fun inside => h (List.mem_cons_of_mem c inside)
    simp [splitOnChar, different, later]

theorem splitOnChar_part {separator : Char} {part : List Char} (h : separator ∉ part)
    (rest : List Char) :
    splitOnChar separator (part ++ separator :: rest) = part :: splitOnChar separator rest := by
  rw [splitOnChar_append, splitOnChar_of_notMem h, List.singleton_append]

/-- The parts with the separator between them are the text. -/
theorem intercalate_splitOnChar (separator : Char) (text : List Char) :
    [separator].intercalate (splitOnChar separator text) = text := by
  induction text with
  | nil => simp [splitOnChar]
  | cons c text ih =>
    unfold splitOnChar
    cases hs : splitOnChar separator text with
    | nil => exact absurd hs (splitOnChar_ne_nil separator text)
    | cons part parts =>
      rw [hs] at ih
      split
      · next h =>
        subst h
        rw [List.intercalate_cons_cons, ih]
        rfl
      · cases parts with
        | nil =>
          simp only [List.intercalate_singleton] at ih ⊢
          rw [ih]
        | cons next parts =>
          rw [List.intercalate_cons_cons] at ih ⊢
          rw [List.cons_append, List.cons_append, ih]

/-- Parts without the separator are the parts of the text that they make. -/
theorem splitOnChar_intercalate {separator : Char} {parts : List (List Char)} (hn : parts ≠ [])
    (h : ∀ part ∈ parts, separator ∉ part) :
    splitOnChar separator ([separator].intercalate parts) = parts := by
  induction parts with
  | nil => exact absurd rfl hn
  | cons part parts ih =>
    have hp := h part List.mem_cons_self
    cases parts with
    | nil => rw [List.intercalate_singleton, splitOnChar_of_notMem hp]
    | cons next parts =>
      have hrest := ih (List.cons_ne_nil _ _) fun part hm => h part (List.mem_cons_of_mem _ hm)
      rw [List.intercalate_cons_cons, List.append_assoc, List.singleton_append,
        splitOnChar_part hp, hrest]

/-- A character that is in no part and not the separator is not in the text either. -/
theorem notMem_intercalate {c separator : Char} {parts : List (List Char)} (hc : c ≠ separator)
    (h : ∀ part ∈ parts, c ∉ part) : c ∉ [separator].intercalate parts := by
  induction parts with
  | nil => exact List.not_mem_nil
  | cons part parts ih =>
    have hp := h part List.mem_cons_self
    cases parts with
    | nil => rwa [List.intercalate_singleton]
    | cons next parts =>
      have hrest := ih fun part hm => h part (List.mem_cons_of_mem _ hm)
      rw [List.intercalate_cons_cons, List.mem_append, List.mem_append, List.mem_singleton]
      exact not_or.2 ⟨not_or.2 ⟨hp, hc⟩, hrest⟩

/-! ## Numerals

Numbers written in digits of a base up to sixteen. Letters may be in either case. No digits at
all write zero, so a reader that needs a digit has to ask for one.
-/

/-- The value of a digit. -/
def digitOf? (base : Nat) (c : Char) : Option Nat :=
  let value :=
    if c.isDigit then some (c.toNat - '0'.toNat)
    else if 'a' ≤ c ∧ c ≤ 'f' then some (c.toNat - 'a'.toNat + 10)
    else if 'A' ≤ c ∧ c ≤ 'F' then some (c.toNat - 'A'.toNat + 10)
    else none
  value.filter (· < base)

/-- The number that digits write; nothing when one is no digit of the base. -/
def numeral? (base : Nat) (digits : List Char) : Option Nat :=
  digits.foldlM (fun n c => (digitOf? base c).map (base * n + ·)) 0

/-- The number that decimal digits write, for texts that hold nothing else. -/
def ofDigits (digits : List Char) : Nat :=
  digits.foldl (fun n c => 10 * n + (c.toNat - '0'.toNat)) 0

end AlAssistant.Text
