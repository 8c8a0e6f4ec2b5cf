import AlAssistant.Proofs.Json.WrittenToken

/-!
# Cutting texts into tokens

A text is cut into the same tokens wherever it stands, as long as nothing behind it continues a
number or a word. Texts put one behind the other are cut into the tokens of both.
-/
namespace AlAssistant.Json

open Gathering

/-- What stands here neither continues a number nor a word. -/
def Delimited (rest : List Char) : Prop :=
  ∀ c ∈ rest.head?, isNumberChar c = false ∧ c.isAlpha = false

/-- The tokens of a text, whatever stands behind it. -/
def CutsInto (text : List Char) (tokens : List Token) : Prop :=
  ∀ rest, Delimited rest →
    tokensFrom .nothing (text ++ rest) = (tokensFrom .nothing rest).map (tokens ++ ·)

section Delimited
variable {c : Char} {rest : List Char}

theorem delimited_nil : Delimited [] := by simp [Delimited]

theorem delimited_cons (hn : isNumberChar c = false) (ha : c.isAlpha = false) :
    Delimited (c :: rest) := by
  simp [Delimited, hn, ha]

theorem delimited_append {text : List Char} (ht : Delimited text) (hr : Delimited rest) :
    Delimited (text ++ rest) := by
  cases text with
  | nil => exact hr
  | cons c text => exact ht

theorem start_blank (h : c ∈ blanks) : start c = some ([], .nothing) := by
  simp only [blanks, List.mem_cons, List.not_mem_nil, or_false] at h
  rcases h with rfl | rfl | rfl | rfl <;> rfl

theorem delimited_blanks {text : List Char} (h : text ⊆ blanks) : Delimited text := by
  intro c hc
  have hb := h (List.mem_of_mem_head? hc)
  simp only [blanks, List.mem_cons, List.not_mem_nil, or_false] at hb
  rcases hb with rfl | rfl | rfl | rfl <;> exact ⟨rfl, rfl⟩

end Delimited

section Machine
variable {state next : Gathering} {c : Char} {text rest : List Char}

theorem tokensFrom_step :
    tokensFrom state (c :: text) =
      (state.step c).bind fun read => (tokensFrom read.2 text).map (read.1 ++ ·) := by
  rw [tokensFrom]
  cases state.step c with
  | none => rfl
  | some read =>
    simp only [Option.bind_eq_bind, Option.bind_some]
    cases tokensFrom read.2 text <;> rfl

theorem tokensFrom_cons {tokens : List Token} (h : state.step c = some (tokens, next)) :
    tokensFrom state (c :: text) = (tokensFrom next text).map (tokens ++ ·) := by
  rw [tokensFrom_step, h, Option.bind_some]

theorem tokensFrom_cons_nil (h : state.step c = some ([], next)) :
    tokensFrom state (c :: text) = tokensFrom next text := by
  rw [tokensFrom_cons h]
  exact Option.map_id'

/-- Characters that a state gathers without a token. -/
theorem tokensFrom_gather {gather : List Char → Gathering} {accepts : Char → Bool}
    (hg : ∀ run c, accepts c = true → (gather run).step c = some ([], gather (c :: run)))
    (h : ∀ c ∈ text, accepts c = true) (run rest : List Char) :
    tokensFrom (gather run) (text ++ rest) = tokensFrom (gather (text.reverse ++ run)) rest := by
  induction text generalizing run with
  | nil => rfl
  | cons c text ih =>
    obtain ⟨hc, ht⟩ := List.forall_mem_cons.1 h
    rw [List.cons_append, tokensFrom_cons_nil (hg run c hc), ih ht, List.reverse_cons,
      List.append_assoc, List.singleton_append]

end Machine

section Runs
variable {gather : List Char → Gathering} {accepts : Char → Bool}
  {token? : List Char → Option Token} {text run rest : List Char} {token : Token} {c : Char}

/-- A run goes on as long as its characters are accepted and is then judged as a whole. -/
structure IsRun (gather : List Char → Gathering) (accepts : Char → Bool)
    (token? : List Char → Option Token) : Prop where
  step (run : List Char) (c : Char) : (gather run).step c =
    if accepts c then some ([], gather (c :: run))
    else (start c).bind fun started =>
      (token? run.reverse).map fun token => (token :: started.1, started.2)
  finish (run : List Char) : (gather run).finish = (token? run.reverse).map ([·])

theorem isRun_number : IsRun .number isNumberChar numberToken? where
  step run c := by
    rw [Gathering.step]
    cases start c <;> cases numberToken? run.reverse <;> rfl
  finish _ := rfl

theorem isRun_word : IsRun .word Char.isAlpha wordToken? where
  step run c := by
    rw [Gathering.step]
    cases start c <;> cases wordToken? run.reverse <;> rfl
  finish _ := rfl

/-- A gathered token is complete when the text ends or a character begins something else. -/
theorem IsRun.tokensFrom_complete (h : IsRun gather accepts token?)
    (ht : token? run.reverse = some token) (hr : ∀ c ∈ rest.head?, accepts c = false) :
    tokensFrom (gather run) rest = (tokensFrom .nothing rest).map (token :: ·) := by
  cases rest with
  | nil => rw [tokensFrom, h.finish, ht]; rfl
  | cons c rest =>
    have hc : ¬ accepts c = true := Bool.eq_false_iff.1 (hr c rfl)
    rw [tokensFrom_step, tokensFrom_step, h.step, if_neg hc, ht, Gathering.step]
    simp [Option.map_bind, Option.bind_assoc, Function.comp_def]

theorem IsRun.cutsInto (h : IsRun gather accepts token?) (hc : start c = some ([], gather [c]))
    (hm : ∀ c ∈ text, accepts c = true) (ht : token? (c :: text) = some token)
    (hd : ∀ rest, Delimited rest → ∀ c ∈ rest.head?, accepts c = false) :
    CutsInto (c :: text) [token] := by
  intro rest hr
  have hs : Gathering.nothing.step c = some ([], gather [c]) := hc
  have hg : ∀ run c, accepts c = true → (gather run).step c = some ([], gather (c :: run)) :=
    fun run c ha => by rw [h.step, if_pos ha]
  rw [List.cons_append, tokensFrom_cons_nil hs, tokensFrom_gather hg hm, ← List.reverse_cons]
  exact h.tokensFrom_complete (by rwa [List.reverse_reverse]) (hd rest hr)

theorem cutsInto_word (hc : start c = some ([], .word [c])) (hm : text.all Char.isAlpha = true)
    (ht : wordToken? (c :: text) = some token) : CutsInto (c :: text) [token] :=
  isRun_word.cutsInto hc (List.all_eq_true.1 hm) ht fun _ hr c hc => (hr c hc).2

theorem cutsInto_number (hc : start c = some ([], .number [c]))
    (hm : ∀ c ∈ text, isNumberChar c = true) (ht : numberToken? (c :: text) = some token) :
    CutsInto (c :: text) [token] :=
  isRun_number.cutsInto hc hm ht fun _ hr c hc => (hr c hc).1

end Runs

section NumberTexts

theorem isNumberChar_of_isDigit {c : Char} (h : c.isDigit = true) : isNumberChar c = true := by
  simp [isNumberChar, h]

theorem AreDigits.isNumberChar {digits : List Char} (h : AreDigits digits) :
    ∀ c ∈ digits, isNumberChar c = true :=
  fun c hc => isNumberChar_of_isDigit (h.2 c hc)

theorem IsFraction.isNumberChar {fraction : List Char} (h : IsFraction fraction) :
    ∀ c ∈ fraction, isNumberChar c = true := by
  obtain ⟨digits, hd, rfl⟩ := h
  exact List.forall_mem_cons.2 ⟨rfl, hd.isNumberChar⟩

theorem isNumberChar_sign {sign : List Char} (h : sign ∈ [[], ['+'], ['-']]) :
    ∀ c ∈ sign, isNumberChar c = true := by
  simp only [List.mem_cons, List.not_mem_nil, or_false] at h
  rcases h with rfl | rfl | rfl <;> exact List.all_eq_true.1 rfl

theorem IsExponent.isNumberChar {exponent : List Char} (h : IsExponent exponent) :
    ∀ c ∈ exponent, isNumberChar c = true := by
  obtain ⟨mark, hm, sign, hs, digits, hd, rfl⟩ := h
  have hmark : Json.isNumberChar mark = true := by
    simp only [List.mem_cons, List.not_mem_nil, or_false] at hm
    rcases hm with rfl | rfl <;> rfl
  exact List.forall_mem_cons.2
    ⟨hmark, List.forall_mem_append.2 ⟨isNumberChar_sign hs, hd.isNumberChar⟩⟩

theorem start_digit {c : Char} (h : c.isDigit = true) : start c = some ([], .number [c]) := by
  have hs : ¬ isSpace c = true := by
    intro hs
    simp only [isSpace, Bool.or_eq_true, beq_iff_eq] at hs
    rcases hs with ((rfl | rfl) | rfl) | rfl <;> contradiction
  unfold start
  rw [if_neg hs, if_pos (by rw [h, Bool.true_or])]

/-- Characters that are gathered as one number. -/
def IsNumberRun (text : List Char) : Prop :=
  ∃ c more, text = c :: more ∧ start c = some ([], .number [c]) ∧
    ∀ c ∈ more, isNumberChar c = true

theorem AreDigits.isNumberRun {digits rest : List Char} (hd : AreDigits digits)
    (hr : ∀ c ∈ rest, Json.isNumberChar c = true) : IsNumberRun (digits ++ rest) := by
  obtain ⟨d, more, rfl, hdigit⟩ := hd.exists_cons
  have hm := (List.forall_mem_cons.1 hd.isNumberChar).2
  exact ⟨d, more ++ rest, rfl, start_digit hdigit, List.forall_mem_append.2 ⟨hm, hr⟩⟩

theorem isNumberRun_of_writes {text : List Char} {value : Value} (h : WritesNumber text value) :
    IsNumberRun text := by
  cases h with
  | natural hd =>
    have hrun := hd.1.isNumberRun (List.forall_mem_nil _)
    rwa [List.append_nil] at hrun
  | @negative digits hd _ => exact ⟨'-', digits, rfl, rfl, hd.1.isNumberChar⟩
  | negativeZero => exact ⟨'-', _, rfl, rfl, List.all_eq_true.1 rfl⟩
  | @decimal sign digits fraction exponent hs hd hf he _ =>
    have hfraction : ∀ c ∈ fraction, isNumberChar c = true := by
      rcases hf with rfl | hf
      · simp
      · exact hf.isNumberChar
    have hexponent : ∀ c ∈ exponent, isNumberChar c = true := by
      rcases he with rfl | he
      · simp
      · exact he.isNumberChar
    have hrest := List.forall_mem_append.2 ⟨hfraction, hexponent⟩
    simp only [List.mem_cons, List.not_mem_nil, or_false] at hs
    rw [List.append_assoc, List.append_assoc]
    rcases hs with rfl | rfl
    · exact hd.1.isNumberRun hrest
    · exact ⟨'-', digits ++ (fraction ++ exponent), rfl, rfl,
        List.forall_mem_append.2 ⟨hd.1.isNumberChar, hrest⟩⟩

theorem cutsInto_writesNumber {text : List Char} {value : Value} (h : WritesNumber text value) :
    ∃ token, scalarToken? value = some token ∧ CutsInto text [token] := by
  obtain ⟨token, hs, ht⟩ := numberToken?_of_writes h
  obtain ⟨c, more, rfl, hc, hm⟩ := isNumberRun_of_writes h
  exact ⟨token, hs, cutsInto_number hc hm ht⟩

end NumberTexts

section Strings
variable {body rest : List Char} {units : List Nat}

theorem string_step {c : Char} (hq : c ≠ '"') (hb : c ≠ '\\') (run : List Char) :
    (Gathering.string run).step c = some ([], .string (c :: run)) := by
  simp [step, hq, hb]

/-- An escape takes the next character as it is. -/
theorem tokensFrom_escape (c : Char) (run rest : List Char) :
    tokensFrom (.string run) ('\\' :: c :: rest) =
      tokensFrom (.string (c :: '\\' :: run)) rest := by
  calc tokensFrom (.string run) ('\\' :: c :: rest)
    _ = tokensFrom (.escape ('\\' :: run)) (c :: rest) := tokensFrom_cons_nil rfl
    _ = tokensFrom (.string (c :: '\\' :: run)) rest := tokensFrom_cons_nil rfl

theorem hex_ne {c : Char} (h : Text.digitOf? 16 c ≠ none) : c ≠ '"' ∧ c ≠ '\\' := by
  constructor <;> rintro rfl <;> exact h (by decide)

theorem tokensFrom_unit {piece : List Char} {n : Nat} (h : WritesUnit piece n)
    (run rest : List Char) :
    tokensFrom (.string run) (piece ++ rest) =
      tokensFrom (.string (piece.reverse ++ run)) rest := by
  cases h with
  | plain hc =>
    obtain ⟨-, hq, hb⟩ := isPlain_iff.1 hc
    exact tokensFrom_cons_nil (string_step hq hb run)
  | letter _ => exact tokensFrom_escape _ run rest
  | @number a b c d n hn =>
    have hd : ∀ x ∈ [a, b, c, d], x ≠ '"' ∧ x ≠ '\\' := fun x hx =>
      hex_ne (Text.digitOf?_ne_none hn x hx)
    have hs : ∀ run c, (decide (c ≠ '"' ∧ c ≠ '\\')) = true →
        (Gathering.string run).step c = some ([], .string (c :: run)) := fun run c hc =>
      string_step (of_decide_eq_true hc).1 (of_decide_eq_true hc).2 run
    calc tokensFrom (.string run) ('\\' :: 'u' :: ([a, b, c, d] ++ rest))
      _ = tokensFrom (.string ('u' :: '\\' :: run)) ([a, b, c, d] ++ rest) :=
        tokensFrom_escape 'u' run _
      _ = tokensFrom (.string ([a, b, c, d].reverse ++ 'u' :: '\\' :: run)) rest :=
        tokensFrom_gather hs (fun x hx => decide_eq_true (hd x hx)) _ rest

theorem tokensFrom_units (h : WritesUnits body units) (run rest : List Char) :
    tokensFrom (.string run) (body ++ rest) = tokensFrom (.string (body.reverse ++ run)) rest := by
  induction h generalizing run with
  | nil => rfl
  | cons hp _ ih =>
    rw [List.append_assoc, tokensFrom_unit hp, ih, List.reverse_append, List.append_assoc]

theorem cutsInto_literal {text : List Char} {s : Literal} (h : WritesLiteral text s) :
    CutsInto text [.string s] := by
  intro rest _
  obtain ⟨body, units, rfl, hw, hs⟩ := h
  have hclose : (Gathering.string body.reverse).step '"' = some ([.string s], .nothing) := by
    simp [step, stringToken?_of_writes hw hs]
  calc tokensFrom .nothing ('"' :: (body ++ ['"']) ++ rest)
    _ = tokensFrom (.string []) (body ++ ['"'] ++ rest) := tokensFrom_cons_nil rfl
    _ = tokensFrom (.string body.reverse) ('"' :: rest) := by
      rw [List.append_assoc, tokensFrom_units hw, List.append_nil, List.singleton_append]
    _ = (tokensFrom .nothing rest).map ([.string s] ++ ·) := tokensFrom_cons hclose

end Strings

section CutsInto
variable {text more : List Char} {tokens others : List Token} {c : Char}

theorem cutsInto_nil : CutsInto [] [] := fun _ _ => Option.map_id'.symm

theorem CutsInto.cons {first : List Token} (hc : start c = some (first, .nothing))
    (h : CutsInto text tokens) : CutsInto (c :: text) (first ++ tokens) := by
  intro rest hr
  have hs : Gathering.nothing.step c = some (first, .nothing) := hc
  rw [List.cons_append, tokensFrom_cons hs, h rest hr, Option.map_map]
  simp [Function.comp_def]

theorem CutsInto.mark {token : Token} (hc : start c = some ([token], .nothing))
    (h : CutsInto text tokens) : CutsInto (c :: text) (token :: tokens) :=
  h.cons hc

theorem CutsInto.append (h : CutsInto text tokens) (hm : CutsInto more others)
    (hd : Delimited more) : CutsInto (text ++ more) (tokens ++ others) := by
  intro rest hr
  rw [List.append_assoc, h _ (delimited_append hd hr), hm rest hr, Option.map_map]
  simp [Function.comp_def]

theorem CutsInto.behind_blanks {before : List Char} (hb : before ⊆ blanks)
    (h : CutsInto text tokens) : CutsInto (before ++ text) tokens := by
  induction before with
  | nil => exact h
  | cons c before ih =>
    obtain ⟨hc, hb⟩ := List.cons_subset.1 hb
    exact (ih hb).cons (start_blank hc)

/-- Blanks around a text change nothing. -/
theorem CutsInto.padded {before after : List Char} (hb : before ⊆ blanks)
    (h : CutsInto text tokens) (ha : after ⊆ blanks) :
    CutsInto (before ++ text ++ after) tokens := by
  have hafter := cutsInto_nil.behind_blanks ha
  rw [List.append_nil] at hafter
  have hall := (h.behind_blanks hb).append hafter (delimited_blanks ha)
  rwa [List.append_nil] at hall

end CutsInto

end AlAssistant.Json
