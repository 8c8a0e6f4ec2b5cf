import AlAssistant.Proofs.Text.Trim
import AlAssistant.Xliff.Note

/-!
# Values are cut out of their note

Whatever blanks, commas and quotes a value loses, it stays a contiguous part of the note that
gives it.
-/
namespace AlAssistant.Xliff

open AlAssistant.Text

theorem cleanValue_isInfix (raw : List Char) : cleanValue raw <:+: raw := by
  have hcomma (value : List Char) :
      (if value.getLast? = some ',' then value.dropLast else value) <:+: value := by
    split
    · exact (List.dropLast_prefix value).isInfix
    · exact List.infix_rfl
  unfold cleanValue
  exact (stripQuotes_isInfix _).trans ((trimEnd_isPrefix _).isInfix.trans
    ((hcomma _).trans (trim_isInfix raw)))

theorem suffix_of_codeHere? {text code rest : List Char}
    (h : codeHere? text = some (code, rest)) : rest <:+ text := by
  unfold codeHere? at h
  split at h
  · next a b c tail ht =>
    split at h
    · cases h
      refine List.IsSuffix.trans ⟨[a, b, c, '='], ?_⟩ (trimStart_isSuffix text)
      rw [ht]
      rfl
    · cases h
  · cases h

theorem infix_of_nextCode? {text before code rest : List Char}
    (h : nextCode? text = some (before, code, rest)) : before <+: text ∧ rest <:+ text := by
  induction text generalizing before with
  | nil => cases h
  | cons c text ih =>
    unfold nextCode? at h
    split at h
    · next heq =>
      cases h
      refine ⟨List.nil_prefix, ?_⟩
      split at heq
      · exact (suffix_of_codeHere? heq).trans (List.suffix_cons c text)
      · cases heq
    · obtain ⟨⟨b, d, r⟩, hn, he⟩ := Option.map_eq_some_iff.1 h
      cases he
      obtain ⟨hb, hr⟩ := ih hn
      exact ⟨List.cons_prefix_cons.2 ⟨rfl, hb⟩, hr.trans (List.suffix_cons c text)⟩

theorem value_infix_of_mem_pairsFrom {code text : List Char} {pair : NotePair}
    (h : pair ∈ pairsFrom code text) : pair.value <:+: text := by
  fun_induction pairsFrom code text with
  | case1 code text hn =>
    obtain rfl := List.mem_singleton.1 h
    exact cleanValue_isInfix text
  | case2 code text raw next rest hn ih =>
    obtain ⟨hraw, hrest⟩ := infix_of_nextCode? hn
    rcases List.mem_cons.1 h with rfl | h
    · exact (cleanValue_isInfix raw).trans hraw.isInfix
    · exact (ih h).trans hrest.isInfix

theorem value_infix_of_mem_notePairs {note : List Char} {pair : NotePair}
    (h : pair ∈ notePairs note) : pair.value <:+: note := by
  unfold notePairs at h
  split at h
  · next hc => exact (value_infix_of_mem_pairsFrom h).trans (suffix_of_codeHere? hc).isInfix
  · split at h
    · next hn => exact (value_infix_of_mem_pairsFrom h).trans (infix_of_nextCode? hn).2.isInfix
    · cases h

theorem infix_of_noteValue? {note code value : List Char}
    (h : noteValue? note code = some value) : value <:+: note := by
  obtain ⟨pair, hp, rfl⟩ := Option.map_eq_some_iff.1 h
  exact value_infix_of_mem_notePairs (List.mem_of_find?_eq_some hp)

end AlAssistant.Xliff
