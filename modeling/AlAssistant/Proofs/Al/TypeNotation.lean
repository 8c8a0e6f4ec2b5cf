import AlAssistant.Al.Variable
import AlAssistant.Proofs.Text.Ascii
import AlAssistant.Proofs.Text.Trim

/-!
# Data types are written without ambiguity

A written type begins with a word of letters and digits, and the mark behind the word tells which
form of type it is. So a complete type can be read back from its text, also in front of the comma
or the bracket that ends it inside another type, and no two complete types are written alike.
-/
namespace AlAssistant.Al

open AlAssistant.Text

/-- At least one character, and none but ASCII letters and digits. -/
def IsPlainName (name : String) : Prop :=
  name ≠ "" ∧ ∀ c ∈ name.toList, c.isAlphanum = true

/-- At least one character, and no quote, bracket or comma. -/
def IsObjectName (name : String) : Prop :=
  name ≠ "" ∧ ∀ c ∈ name.toList, c ∉ ['"', '\'', '[', ']', ',']

/-- Types with all their parts and with names that the notation has room for. -/
inductive IsComplete : DataType → Prop where
  | primitive {name : String} (h : IsPlainName name) : IsComplete (.primitive name)
  | sized {name : String} (h : IsPlainName name) (length : Nat) :
    IsComplete (.sized name (some length))
  | label {text : String} (h : '\'' ∉ text.toList) : IsComplete (.label text)
  | list {element : DataType} (h : IsComplete element) : IsComplete (.list [element])
  | array {dimensions : List Nat} {element : DataType} (hd : dimensions ≠ [])
    (h : IsComplete element) : IsComplete (.array dimensions [element])
  | dictionary {key value : DataType} (hk : IsComplete key) (hv : IsComplete value) :
    IsComplete (.dictionary (some key) (some value))
  | object {kind name : String} (hk : IsPlainName kind) (hn : IsObjectName name) :
    IsComplete (.object kind name)

/-- Whether a character ends a type inside another one. -/
def endsType (c : Char) : Bool := c == ',' || c == ']'

/-- Reads a type that is nested no deeper than `depth`, and gives the text behind it. -/
def readType? : Nat → List Char → Option (DataType × List Char)
  | 0, _ => none
  | depth + 1, text =>
    let word := String.ofList (text.takeWhile Char.isAlphanum)
    let behind := text.dropWhile Char.isAlphanum
    match dropStart? ['['] behind with
    | some rest => do
      let (digits, rest) ← cutAt? [']'] rest
      match dropStart? " of ".toList rest with
      | some rest => do
        let dimensions ← (splitOnChar ',' digits).mapM (numeral? 10)
        let (element, rest) ← readType? depth rest
        return (.array dimensions [element], rest)
      | none => do
        let length ← numeral? 10 digits
        return (.sized word (some length), rest)
    | none =>
    match dropStart? " of [".toList behind with
    | some rest => do
      let (first, rest) ← readType? depth rest
      match dropStart? [']'] rest with
      | some rest => return (.list [first], rest)
      | none => do
        let rest ← dropStart? ", ".toList rest
        let (value, rest) ← readType? depth rest
        let rest ← dropStart? [']'] rest
        return (.dictionary (some first) (some value), rest)
    | none =>
    match dropStart? [' ', '\''] behind with
    | some rest => do
      let (text, rest) ← cutAt? ['\''] rest
      return (.label (String.ofList text), rest)
    | none =>
    match dropStart? [' ', '"'] behind with
    | some rest => do
      let (name, rest) ← cutAt? ['"'] rest
      return (.object word (String.ofList name), rest)
    | none =>
    match dropStart? [' '] behind with
    | some rest =>
      let name := rest.takeWhile fun c => !endsType c
      some (.object word (String.ofList name), rest.dropWhile fun c => !endsType c)
    | none => some (.primitive word, behind)

/-- Nothing follows, or what ends a type inside another one. -/
def Ends (rest : List Char) : Prop := ∀ c ∈ rest.head?, endsType c = true

section Parts
variable {name : String} {rest : List Char}

theorem ends_nil : Ends [] := by simp [Ends]

theorem ends_comma (rest : List Char) : Ends (',' :: rest) := by
  intro c hc
  obtain rfl := Option.some.inj hc
  rfl

theorem ends_bracket (rest : List Char) : Ends (']' :: rest) := by
  intro c hc
  obtain rfl := Option.some.inj hc
  rfl

theorem Ends.head?_any (h : Ends rest) : rest.head?.any Char.isAlphanum = false := by
  cases rest with
  | nil => rfl
  | cons c rest =>
    have hc := h c rfl
    simp only [endsType, Bool.or_eq_true, beq_iff_eq] at hc
    rcases hc with rfl | rfl <;> rfl

theorem Ends.head?_not (h : Ends rest) : rest.head?.any (fun c => !endsType c) = false := by
  cases rest with
  | nil => rfl
  | cons c rest => simpa using h c rfl

theorem Ends.dropStart?_eq_none (h : Ends rest) (c : Char) (hc : endsType c = false)
    (mark : List Char) : dropStart? (c :: mark) rest = none := by
  cases rest with
  | nil => rfl
  | cons d rest =>
    have hd := h d rfl
    have hne : c ≠ d := fun he => by
      rw [he, hd] at hc
      cases hc
    rw [dropStart?, if_neg hne]

theorem IsObjectName.not_endsType (h : IsObjectName name) :
    ∀ c ∈ name.toList, (!endsType c) = true := by
  intro c hc
  have hn := h.2 c hc
  simp only [List.mem_cons, not_or] at hn
  simp [endsType, hn]

/-- No mark that an object name has no room for begins in one. -/
theorem IsObjectName.dropStart?_eq_none (h : IsObjectName name) (hr : Ends rest) (mark : List Char)
    (hm : ∀ c ∈ mark, endsType c = false) (hf : ∃ c ∈ mark, c ∈ ['"', '\'', '[', ']', ',']) :
    dropStart? mark (name.toList ++ rest) = none := by
  rw [← Option.not_isSome_iff_eq_none, isSome_dropStart?_iff]
  intro hp
  have hstart : mark <+: name.toList := by
    cases rest with
    | nil => rwa [List.append_nil] at hp
    | cons c rest =>
      have hc : c ∉ mark := fun hin => by
        have he := hr c rfl
        rw [hm c hin] at he
        cases he
      exact prefix_of_notMem hc hp
  obtain ⟨c, hin, hforbidden⟩ := hf
  exact h.2 c (hstart.subset hin) hforbidden

end Parts

section Numbers
variable {dimensions : List Nat}

theorem notMem_toDigits (c : Char) (hc : c.isDigit = false) (n : Nat) : c ∉ Nat.toDigits 10 n := by
  intro hm
  rw [Nat.isDigit_of_mem_toDigits (by decide) (by decide) hm] at hc
  cases hc

/-- Numbers with commas between them. -/
def writtenNumbers (dimensions : List Nat) : List Char :=
  [','].intercalate (dimensions.map (Nat.toDigits 10))

theorem toList_writtenNumbers (dimensions : List Nat) :
    (",".intercalate (dimensions.map toString)).toList = writtenNumbers dimensions := by
  have hmap : String.toList ∘ toString = Nat.toDigits 10 := funext fun n => by simp
  simp [writtenNumbers, hmap]

theorem notMem_of_mem_digits {c : Char} (hc : c.isDigit = false) :
    ∀ part ∈ dimensions.map (Nat.toDigits 10), c ∉ part := by
  intro part hp
  obtain ⟨n, -, rfl⟩ := List.mem_map.1 hp
  exact notMem_toDigits c hc n

theorem bracket_notMem_writtenNumbers (dimensions : List Nat) :
    ']' ∉ writtenNumbers dimensions :=
  notMem_intercalate (by decide) (notMem_of_mem_digits rfl)

/-- Written numbers are read back. -/
theorem mapM_numeral?_writtenNumbers (hd : dimensions ≠ []) :
    (splitOnChar ',' (writtenNumbers dimensions)).mapM (numeral? 10) = some dimensions := by
  have hparts : dimensions.map (Nat.toDigits 10) ≠ [] := by simpa using hd
  rw [writtenNumbers, splitOnChar_intercalate hparts (notMem_of_mem_digits rfl)]
  clear hd hparts
  induction dimensions with
  | nil => rfl
  | cons n dimensions ih =>
    rw [List.map_cons, List.mapM_cons, numeral?_toDigits (by decide) (by decide), ih]
    rfl

end Numbers

section Forms
variable {name kind text : String} {element key value : DataType} {rest : List Char} (depth : Nat)

theorem readType?_primitive (h : IsPlainName name) (hr : Ends rest) :
    readType? (depth + 1) (name.toList ++ rest) = some (.primitive name, rest) := by
  obtain ⟨hword, hbehind⟩ := cut_append h.2 hr.head?_any
  have hbracket := hr.dropStart?_eq_none '[' rfl
  have hspace := hr.dropStart?_eq_none ' ' rfl
  simp [readType?, hword, hbehind, hbracket, hspace]

theorem readType?_sized (h : IsPlainName name) (length : Nat) (hr : Ends rest) :
    readType? (depth + 1) (name.toList ++ '[' :: (Nat.toDigits 10 length ++ ']' :: rest)) =
      some (.sized name (some length), rest) := by
  obtain ⟨hword, hbehind⟩ :=
    @cut_append _ _ ('[' :: (Nat.toDigits 10 length ++ ']' :: rest)) h.2 rfl
  have hcut := cutAt?_singleton (notMem_toDigits ']' rfl length) rest
  have hspace := hr.dropStart?_eq_none ' ' rfl
  simp [readType?, dropStart?, hword, hbehind, hcut, hspace, numeral?_toDigits]

theorem readType?_label (h : '\'' ∉ text.toList) (rest : List Char) :
    readType? (depth + 1) ("Label '".toList ++ (text.toList ++ '\'' :: rest)) =
      some (.label text, rest) := by
  have hcut := cutAt?_singleton h rest
  simp [readType?, dropStart?, hcut]

theorem readType?_list
    (ht : readType? depth (element.render.toList ++ ']' :: rest) = some (element, ']' :: rest)) :
    readType? (depth + 1) ("List of [".toList ++ (element.render.toList ++ ']' :: rest)) =
      some (.list [element], rest) := by
  simp [readType?, dropStart?, ht]

theorem readType?_array {dimensions : List Nat} (hd : dimensions ≠ [])
    (ht : readType? depth (element.render.toList ++ rest) = some (element, rest)) :
    readType? (depth + 1) ("Array[".toList ++ (writtenNumbers dimensions ++
        ']' :: (" of ".toList ++ (element.render.toList ++ rest)))) =
      some (.array dimensions [element], rest) := by
  have hcut := cutAt?_singleton (bracket_notMem_writtenNumbers dimensions)
    (' ' :: 'o' :: 'f' :: ' ' :: (element.render.toList ++ rest))
  have hread := mapM_numeral?_writtenNumbers hd
  simp [readType?, dropStart?, hcut, hread, ht]

theorem readType?_dictionary
    (hk : readType? depth
        (key.render.toList ++ ',' :: ' ' :: (value.render.toList ++ ']' :: rest)) =
      some (key, ',' :: ' ' :: (value.render.toList ++ ']' :: rest)))
    (hv : readType? depth (value.render.toList ++ ']' :: rest) = some (value, ']' :: rest)) :
    readType? (depth + 1) ("Dictionary of [".toList ++
        (key.render.toList ++ ',' :: ' ' :: (value.render.toList ++ ']' :: rest))) =
      some (.dictionary (some key) (some value), rest) := by
  simp [readType?, dropStart?, hk, hv]

theorem readType?_object_quoted (hk : IsPlainName kind) (hn : '"' ∉ name.toList)
    (rest : List Char) :
    readType? (depth + 1) (kind.toList ++ ' ' :: '"' :: (name.toList ++ '"' :: rest)) =
      some (.object kind name, rest) := by
  obtain ⟨hword, hbehind⟩ :=
    @cut_append _ _ (' ' :: '"' :: (name.toList ++ '"' :: rest)) hk.2 rfl
  have hcut := cutAt?_singleton hn rest
  simp [readType?, dropStart?, hword, hbehind, hcut]

theorem readType?_object (hk : IsPlainName kind) (hn : IsObjectName name) (hr : Ends rest) :
    readType? (depth + 1) (kind.toList ++ ' ' :: (name.toList ++ rest)) =
      some (.object kind name, rest) := by
  obtain ⟨hword, hbehind⟩ := @cut_append _ _ (' ' :: (name.toList ++ rest)) hk.2 rfl
  have hof := hn.dropStart?_eq_none hr ['o', 'f', ' ', '['] (by simp [endsType]) ⟨'[', by simp⟩
  have hlabel := hn.dropStart?_eq_none hr ['\''] (by simp [endsType]) ⟨'\'', by simp⟩
  have hquote := hn.dropStart?_eq_none hr ['"'] (by simp [endsType]) ⟨'"', by simp⟩
  obtain ⟨htake, hdrop⟩ := cut_append hn.not_endsType hr.head?_not
  simp [readType?, dropStart?, hword, hbehind, hof, hlabel, hquote, htake, hdrop]

end Forms

namespace DataType
variable (name kind text : String) (element key value : DataType)

theorem render_sized (length : Nat) :
    (sized name (some length)).render = name ++ "[" ++ toString length ++ "]" := rfl

theorem render_label : (label text).render = "Label '" ++ text ++ "'" := rfl

theorem render_list :
    (list [element]).render = "List of [" ++ ", ".intercalate [element.render] ++ "]" := rfl

theorem render_array (dimensions : List Nat) :
    (array dimensions [element]).render =
      "Array[" ++ ",".intercalate (dimensions.map toString) ++ "] of " ++
        " ".intercalate [element.render] := rfl

theorem render_dictionary :
    (dictionary (some key) (some value)).render =
      "Dictionary of [" ++ key.render ++ (", " ++ value.render ++ "]") := rfl

theorem render_object : (object kind name).render = kind ++ " " ++ quoteName name := rfl

end DataType

/-- The type is read back from its text, in front of any end, once the depth is enough for it. -/
def ReadsBack (t : DataType) : Prop :=
  ∃ nesting, ∀ depth, nesting ≤ depth → ∀ rest, Ends rest →
    readType? (depth + 1) (t.render.toList ++ rest) = some (t, rest)

theorem ReadsBack.exists_nesting {t : DataType} (h : ReadsBack t) :
    ∃ nesting, ∀ depth, nesting ≤ depth → ∀ rest, Ends rest →
      readType? depth (t.render.toList ++ rest) = some (t, rest) := by
  obtain ⟨nesting, h⟩ := h
  refine ⟨nesting + 1, fun depth hd => ?_⟩
  obtain ⟨depth, rfl⟩ := Nat.exists_eq_add_of_le' hd
  exact h (depth + nesting) (Nat.le_add_left _ _)

theorem IsComplete.readsBack {t : DataType} (h : IsComplete t) : ReadsBack t := by
  induction h with
  | primitive h => exact ⟨0, fun depth _ rest hr => readType?_primitive depth h hr⟩
  | sized h length =>
    refine ⟨0, fun depth _ rest hr => ?_⟩
    have hread := readType?_sized depth h length hr
    simpa [DataType.render_sized] using hread
  | label h =>
    refine ⟨0, fun depth _ rest hr => ?_⟩
    have hread := readType?_label depth h rest
    simpa [DataType.render_label] using hread
  | list _ ih =>
    obtain ⟨nesting, ht⟩ := ih.exists_nesting
    refine ⟨nesting, fun depth hd rest hr => ?_⟩
    have hread := readType?_list depth (ht depth hd (']' :: rest) (ends_bracket rest))
    simpa [DataType.render_list] using hread
  | array hn _ ih =>
    obtain ⟨nesting, ht⟩ := ih.exists_nesting
    refine ⟨nesting, fun depth hd rest hr => ?_⟩
    have hread := readType?_array depth hn (ht depth hd rest hr)
    rw [← toList_writtenNumbers] at hread
    simpa [DataType.render_array] using hread
  | @dictionary key value _ _ ihk ihv =>
    obtain ⟨m, hk⟩ := ihk.exists_nesting
    obtain ⟨n, hv⟩ := ihv.exists_nesting
    refine ⟨max m n, fun depth hd rest hr => ?_⟩
    have hkey := hk depth (by omega) (',' :: ' ' :: (value.render.toList ++ ']' :: rest))
      (ends_comma _)
    have hvalue := hv depth (by omega) (']' :: rest) (ends_bracket rest)
    have hread := readType?_dictionary depth hkey hvalue
    simpa [DataType.render_dictionary] using hread
  | @object kind name hk hn =>
    refine ⟨0, fun depth _ rest hr => ?_⟩
    cases hb : name.toList.any isBlank with
    | true =>
      have hquote : '"' ∉ name.toList := fun hm => hn.2 _ hm (by simp)
      have hread := readType?_object_quoted depth hk hquote rest
      simpa [DataType.render_object, quoteName, hb] using hread
    | false =>
      have hread := readType?_object depth hk hn hr
      simpa [DataType.render_object, quoteName, hb] using hread

/-- Complete types are written alike exactly when they are the same. -/
theorem render_eq_iff_of_complete {a b : DataType} (ha : IsComplete a) (hb : IsComplete b) :
    a.render = b.render ↔ a = b := by
  constructor
  · intro h
    obtain ⟨m, hm⟩ := ha.readsBack
    obtain ⟨n, hn⟩ := hb.readsBack
    have hfirst := hm (max m n) (Nat.le_max_left m n) [] ends_nil
    have hsecond := hn (max m n) (Nat.le_max_right m n) [] ends_nil
    rw [h, hsecond, Option.some.injEq, Prod.mk.injEq] at hfirst
    exact hfirst.1.symm
  · rintro rfl
    rfl

section Lookalikes

/-- An array of an object that is named like a mark, and a label that holds brackets. -/
def disguised : DataType :=
  .dictionary (some (.array [2, 3] [.object "List" "of"])) (some (.label "], ["))

/-- The same words where they mean types. -/
def undisguised : DataType :=
  .dictionary (some (.array [2, 3] [.list [.sized "of" (some 1)]]))
    (some (.object "Label" "G/L Account"))

theorem isComplete_disguised : IsComplete disguised := by
  refine .dictionary (.array (by decide) (.object ?_ ?_)) (.label (by decide))
  · exact ⟨by decide, by simp⟩
  · exact ⟨by decide, by simp⟩

theorem isComplete_undisguised : IsComplete undisguised := by
  refine .dictionary (.array (by decide) (.list (.sized ?_ 1))) (.object ?_ ?_)
  · exact ⟨by decide, by simp⟩
  · exact ⟨by decide, by simp⟩
  · exact ⟨by decide, by simp⟩

theorem render_eq_iff_of_complete_disguised :
    IsComplete disguised ∧ IsComplete undisguised ∧ disguised.render ≠ undisguised.render := by
  refine ⟨isComplete_disguised, isComplete_undisguised, fun h => ?_⟩
  have he := (render_eq_iff_of_complete isComplete_disguised isComplete_undisguised).1 h
  simp [disguised, undisguised] at he

end Lookalikes

end AlAssistant.Al
