import AlAssistant.Proofs.Json.TokenRun

/-!
# Every JSON text is read

A text that writes a value is cut into tokens from which that value is read, whatever tokens stand
behind them, with two units of fuel for each of its tokens. Lists in brackets and in braces are
taken element by element in the same way.
-/
namespace AlAssistant.Json

/-- The tokens of one value. -/
def Yields (tokens : List Token) (value : Value) : Prop :=
  ∀ rest fuel, 2 * tokens.length ≤ fuel → readValue fuel (tokens ++ rest) = some (value, rest)

/-- The text of one value, and its tokens with it. -/
def Reads (text : List Char) (value : Value) : Prop :=
  ∃ tokens, CutsInto text tokens ∧ Yields tokens value

section Values
variable {value : Value} {tokens rest : List Token} {fuel : Nat}

theorem yields_scalar {token : Token} (h : scalarToken? value = some token) :
    Yields [token] value := by
  intro rest fuel hf
  cases fuel with
  | zero => contradiction
  | succ fuel =>
    cases value with
    | array items => contradiction
    | object members => contradiction
    | _ =>
      obtain rfl := Option.some.inj h
      rfl

theorem readItems_closeBracket : readItems fuel (.closeBracket :: rest) = none := by
  cases fuel with
  | zero => rfl
  | succ fuel => cases fuel <;> rfl

/-- Items in brackets are an array. -/
theorem readValue_array {items : List Value} (h : readItems fuel tokens = some (items, rest)) :
    readValue (fuel + 1) (.openBracket :: tokens) = some (.array items, rest) := by
  unfold readValue
  split <;> simp_all [readItems_closeBracket]

theorem readValue_object {members : List (Literal × Value)}
    (h : readMembers fuel tokens = some (members, rest)) :
    readValue (fuel + 1) (.openBrace :: tokens) = some (.object members, rest) := by
  have hclose : ∀ rest, readMembers fuel (.closeBrace :: rest) = none := by
    intro rest
    cases fuel <;> rfl
  unfold readValue
  split <;> simp_all

end Values

section Lists
variable {α : Type} {read : Nat → List Token → Option (List α × List Token)} {closing : Token}

/-- One element of a list, before the closing mark or before a comma and others. -/
structure TakesElement (read : Nat → List Token → Option (List α × List Token)) (closing : Token)
    (tokens : List Token) (a : α) : Prop where
  last (rest : List Token) (fuel : Nat) : 2 * tokens.length ≤ fuel →
    read (fuel + 1) (tokens ++ closing :: rest) = some ([a], rest)
  more {rest behind : List Token} {others : List α} {fuel : Nat} : 2 * tokens.length ≤ fuel →
    read fuel rest = some (others, behind) →
      read (fuel + 1) (tokens ++ .comma :: rest) = some (a :: others, behind)

/-- Elements with commas between them and a closing mark behind them. -/
theorem exists_tokens_of_elements {c : Char}
    (hc : Gathering.start c = some ([closing], .nothing)) (hd : Delimited [c])
    {elements : List (List Char × α)} (hn : elements ≠ [])
    (h : ∀ element ∈ elements, ∃ tokens, CutsInto element.1 tokens ∧
      TakesElement read closing tokens element.2) :
    ∃ tokens, CutsInto ([','].intercalate (elements.map (·.1)) ++ [c]) tokens ∧
      ∀ rest fuel, 2 * tokens.length ≤ fuel →
        read fuel (tokens ++ rest) = some (elements.map (·.2), rest) := by
  induction elements with
  | nil => contradiction
  | cons element elements ih =>
    obtain ⟨⟨tokens, hcut, htake⟩, hothers⟩ := List.forall_mem_cons.1 h
    cases elements with
    | nil =>
      refine ⟨tokens ++ [closing], ?_, fun rest fuel hf => ?_⟩
      · have hmark := cutsInto_nil.mark hc
        simpa using hcut.append hmark hd
      · cases fuel with
        | zero => simp at hf
        | succ fuel =>
          rw [List.append_assoc]
          exact htake.last rest fuel (by simp at hf; omega)
    | cons next elements =>
      obtain ⟨others, hcuts, hreads⟩ := ih (by simp) hothers
      refine ⟨tokens ++ .comma :: others, ?_, fun rest fuel hf => ?_⟩
      · have hcomma : CutsInto _ (.comma :: others) := hcuts.mark (c := ',') rfl
        simpa using hcut.append hcomma (delimited_cons rfl rfl)
      · cases fuel with
        | zero => simp at hf
        | succ fuel =>
          rw [List.append_assoc]
          exact htake.more (by simp at hf; omega) (hreads rest fuel (by simp at hf; omega))

end Lists

section Elements
variable {text : List Char} {value : Value} {tokens : List Token}

theorem Yields.takesItem (h : Yields tokens value) :
    TakesElement readItems .closeBracket tokens value where
  last rest fuel hf := by rw [readItems, h _ _ hf]
  more hf hothers := by simp only [readItems, h _ _ hf, hothers, Option.map_some]

theorem Yields.takesMember (h : Yields tokens value) (key : Literal) :
    TakesElement readMembers .closeBrace (.string key :: .colon :: tokens) (key, value) where
  last rest fuel hf := by
    have hv := h (.closeBrace :: rest) fuel (by simp at hf; omega)
    rw [List.cons_append, List.cons_append, readMembers, hv]
  more {rest _ _ fuel} hf hothers := by
    have hv := h (.comma :: rest) fuel (by simp at hf; omega)
    simp only [List.cons_append, readMembers, hv, hothers, Option.map_some]

theorem reads_scalar {token : Token} (hc : CutsInto text [token])
    (hs : scalarToken? value = some token) : Reads text value :=
  ⟨[token], hc, yields_scalar hs⟩

theorem Reads.padded {before after : List Char} (hb : before ⊆ blanks) (h : Reads text value)
    (ha : after ⊆ blanks) : Reads (before ++ text ++ after) value := by
  obtain ⟨tokens, hcut, hyields⟩ := h
  exact ⟨tokens, hcut.padded hb ha, hyields⟩

/-- What follows an opening mark, up to the closing one. -/
theorem reads_enclosed {c : Char} {opening : Token}
    (hc : Gathering.start c = some ([opening], .nothing)) (hcut : CutsInto text tokens)
    (hread : ∀ rest fuel, 2 * tokens.length ≤ fuel →
      readValue (fuel + 1) (opening :: (tokens ++ rest)) = some (value, rest)) :
    Reads (c :: text) value := by
  refine ⟨opening :: tokens, hcut.mark hc, fun rest fuel hf => ?_⟩
  cases fuel with
  | zero => contradiction
  | succ fuel => exact hread rest fuel (by simp at hf; omega)

/-- Nothing but blanks between two marks. -/
theorem reads_empty {c d : Char} {opening closing : Token} {inside : List Char}
    (hc : Gathering.start c = some ([opening], .nothing))
    (hd : Gathering.start d = some ([closing], .nothing)) (hi : inside ⊆ blanks)
    (hread : ∀ rest fuel, readValue (fuel + 1) (opening :: closing :: rest) = some (value, rest)) :
    Reads (c :: (inside ++ [d])) value :=
  reads_enclosed hc ((cutsInto_nil.mark hd).behind_blanks hi) fun rest fuel _ => hread rest fuel

theorem reads_array {items : List (List Char × Value)} (hn : items ≠ [])
    (h : ∀ item ∈ items, Reads item.1 item.2) :
    Reads ('[' :: ([','].intercalate (items.map (·.1)) ++ [']'])) (.array (items.map (·.2))) := by
  obtain ⟨tokens, hcut, hread⟩ := exists_tokens_of_elements (c := ']') rfl
    (delimited_cons rfl rfl) hn fun item hi => by
      obtain ⟨tokens, hcut, hyields⟩ := h item hi
      exact ⟨tokens, hcut, hyields.takesItem⟩
  exact reads_enclosed rfl hcut fun rest fuel hf => readValue_array (hread rest fuel hf)

theorem cutsInto_member {member : WrittenMember} (hk : member.HasKey)
    (hv : CutsInto member.valueText tokens) :
    CutsInto member.text (.string member.key :: .colon :: tokens) := by
  obtain ⟨before, text, after, hb, hl, ha, he⟩ := hk
  have hcolon : CutsInto (':' :: member.valueText) (.colon :: tokens) := hv.mark rfl
  rw [WrittenMember.text, he]
  exact ((cutsInto_literal hl).padded hb ha).append hcolon (delimited_cons rfl rfl)

theorem reads_object {members : List WrittenMember} (hn : members ≠ [])
    (hk : ∀ member ∈ members, member.HasKey)
    (hv : ∀ member ∈ members, Reads member.valueText member.value) :
    Reads ('{' :: ([','].intercalate (members.map (·.text)) ++ ['}']))
      (.object (members.map fun member => (member.key, member.value))) := by
  have helements : ∀ element ∈ members.map fun member => (member.text, (member.key, member.value)),
      ∃ tokens, CutsInto element.1 tokens ∧
        TakesElement readMembers .closeBrace tokens element.2 := by
    intro element he
    obtain ⟨member, hm, rfl⟩ := List.mem_map.1 he
    obtain ⟨tokens, hcut, hyields⟩ := hv member hm
    exact ⟨_, cutsInto_member (hk member hm) hcut, hyields.takesMember member.key⟩
  obtain ⟨tokens, hcut, hread⟩ := exists_tokens_of_elements (c := '}') rfl
    (delimited_cons rfl rfl) (by simpa using hn) helements
  rw [List.map_map] at hcut hread
  exact reads_enclosed rfl hcut fun rest fuel hf => readValue_object (hread rest fuel hf)

theorem reads_of_writes (h : Writes text value) : Reads text value := by
  induction h with
  | padded hb _ ha ih => exact ih.padded hb ha
  | null => exact reads_scalar (cutsInto_word rfl rfl rfl) rfl
  | bool b => cases b <;> exact reads_scalar (cutsInto_word rfl rfl rfl) rfl
  | number hn =>
    obtain ⟨token, hs, hcut⟩ := cutsInto_writesNumber hn
    exact reads_scalar hcut hs
  | string hl => exact reads_scalar (cutsInto_literal hl) rfl
  | emptyArray hi => exact reads_empty rfl rfl hi fun _ _ => rfl
  | array hn _ ih => exact reads_array hn ih
  | emptyObject hi => exact reads_empty rfl rfl hi fun _ _ => rfl
  | object hn hk _ ih => exact reads_object hn hk ih

end Elements

/-- The value of a text is the one that it writes. -/
theorem ofText?_of_writes {text : String} {value : Value} (h : Writes text.toList value) :
    Value.ofText? text = some value := by
  obtain ⟨tokens, hcut, hyields⟩ := reads_of_writes h
  have ht : tokens? text.toList = some tokens := by
    have hall := hcut [] delimited_nil
    rw [List.append_nil] at hall
    simpa [tokens?, tokensFrom, Gathering.finish] using hall
  have hv := hyields [] (2 * tokens.length + 1) (Nat.le_succ _)
  rw [List.append_nil] at hv
  rw [Value.ofText?, ht, Option.bind_some, Value.ofTokens?, hv]

end AlAssistant.Json
