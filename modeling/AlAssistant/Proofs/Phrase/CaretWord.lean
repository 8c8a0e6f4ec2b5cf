import AlAssistant.Proofs.Phrase.Blank
import AlAssistant.Proofs.Phrase.QuotedName

/-!
# What a caret picks

A caret is a byte offset of its line. Where the offset lies on a pair of quotes, from the opening to
the closing one, the caret picks the text between them. Everywhere else it picks the longest run of
name characters that has the offset inside or at an end, and nothing if no name character stands
next to it.
-/
namespace AlAssistant.Phrase

open AlAssistant.Text

/-- Two quotes that belong together when the quotes of a line are paired off from the left, and what
stands before, between and behind them. -/
structure IsPair (line before name behind : List Char) : Prop where
  line_eq : line = before ++ '"' :: (name ++ '"' :: behind)
  paired : before.count '"' % 2 = 0
  quote_notMem : '"' ∉ name

/-- The offset lies between the quotes around a name, the place of each quote included. -/
def IsNameAt (line : List Char) (offset : Nat) (name : List Char) : Prop :=
  ∃ before behind, IsPair line before name behind ∧
    byteLength before ≤ offset ∧ offset ≤ byteLength (before ++ '"' :: name)

/-- A run of name characters that contains or touches an offset. -/
structure IsRunAt (line : List Char) (offset : Nat) (before run behind : List Char) : Prop where
  line_eq : line = before ++ (run ++ behind)
  nameChars : ∀ c ∈ run, isNameChar c = true
  first_le : byteLength before ≤ offset
  le_last : offset ≤ byteLength (before ++ run)

/-- A run at an offset that no other run there is longer than. -/
def IsLongestRunAt (line : List Char) (offset : Nat) (run : List Char) : Prop :=
  run ≠ [] ∧ (∃ before behind, IsRunAt line offset before run behind) ∧
    ∀ before other behind, IsRunAt line offset before other behind → other.length ≤ run.length

/-- No name character stands directly before or behind an offset between two characters. -/
def StandsAlone (line : List Char) (offset : Nat) : Prop :=
  ∃ left right, line = left ++ right ∧ byteLength left = offset ∧
    left.getLast?.any isNameChar = false ∧ right.head?.any isNameChar = false

/-- A part of a line with the offset inside or at an end, or directly before its opening quote. -/
def LiesAround (line : List Char) (offset : Nat) (word : List Char) : Prop :=
  ∃ before behind, line = before ++ (word ++ behind) ∧ offset ≤ byteLength (before ++ word) ∧
    (byteLength before ≤ offset ∨ byteLength before = offset + 1 ∧ before.getLast? = some '"')

section Pairs
variable {line name : List Char} {caret column : Nat}

/-- The parts of a line between its quotes lead to a pair of them. -/
theorem exists_isPair_of_quotedAt? {parts : List (List Char)} (hp : ∀ part ∈ parts, '"' ∉ part)
    (h : quotedAt? caret parts = some name) :
    ∃ before behind, IsPair (['"'].intercalate parts) before name behind ∧
      before.length ≤ caret ∧ caret ≤ before.length + 1 + name.length := by
  fun_induction quotedAt? caret parts with
  | case1 => cases h
  | case2 caret outside inside next parts start stop hstart hstop =>
    obtain rfl := Option.some.inj h
    refine ⟨outside, ['"'].intercalate (next :: parts), ⟨?_, ?_, hp _ (by simp)⟩, ?_, hstop⟩
    · simp [List.intercalate_cons_cons]
    · rw [List.count_eq_zero.2 (hp outside (by simp))]
    · exact Nat.le_of_not_lt hstart
  | case3 caret outside inside next parts start stop hstart hstop ih =>
    have hrest : ∀ part ∈ next :: parts, '"' ∉ part := fun part hm =>
      hp part (List.mem_cons_of_mem _ (List.mem_cons_of_mem _ hm))
    obtain ⟨before, behind, hpair, hf, hl⟩ := ih hrest h
    have hcount : (outside ++ '"' :: (inside ++ '"' :: before)).count '"' =
        before.count '"' + 2 := by
      have ho := List.count_eq_zero.2 (hp outside (by simp))
      have hi := List.count_eq_zero.2 (hp inside (by simp))
      simp only [List.count_append, List.count_cons_self, ho, hi]
      omega
    have hlen : (outside ++ '"' :: (inside ++ '"' :: before)).length =
        stop + 1 + before.length := by
      simp only [List.length_append, List.length_cons, stop, start]
      omega
    refine ⟨outside ++ '"' :: (inside ++ '"' :: before), behind,
      ⟨?_, ?_, hpair.quote_notMem⟩, ?_, ?_⟩
    · rw [List.intercalate_cons_cons, List.intercalate_cons_cons, hpair.line_eq]
      simp
    · rw [hcount, Nat.add_mod_right]
      exact hpair.paired
    · omega
    · omega
  | case4 => cases h

theorem IsPair.before_isPrefix {before behind : List Char} (h : IsPair line before name behind) :
    before <+: line := ⟨_, h.line_eq.symm⟩

theorem IsPair.name_isPrefix {before behind : List Char} (h : IsPair line before name behind) :
    before ++ '"' :: name <+: line := ⟨'"' :: behind, by rw [h.line_eq]; simp⟩

/-- The name that a caret picks by its quotes is the one between the pair that it lies on. -/
theorem quotedAt?_eq_some_iff :
    quotedAt? (charIndex line column) (splitOnChar '"' line) = some name ↔
      IsNameAt line (byteOffset line column) name := by
  constructor
  · intro h
    obtain ⟨before, behind, hpair, hf, hl⟩ :=
      exists_isPair_of_quotedAt? (fun part hm => separator_notMem_part hm) h
    rw [intercalate_splitOnChar] at hpair
    refine ⟨before, behind, hpair, ?_, ?_⟩
    · exact (byteLength_le_byteOffset_iff hpair.before_isPrefix).2 hf
    · rw [byteOffset_le_byteLength_iff hpair.name_isPrefix]
      simp only [List.length_append, List.length_cons]
      omega
  · rintro ⟨before, behind, hpair, hf, hl⟩
    rw [byteLength_le_byteOffset_iff hpair.before_isPrefix] at hf
    rw [byteOffset_le_byteLength_iff hpair.name_isPrefix] at hl
    simp only [List.length_append, List.length_cons] at hl
    have hname := quotedAt?_name before behind hpair.quote_notMem hpair.paired hf (by omega)
    rwa [← hpair.line_eq] at hname

end Pairs

section Runs
variable {line before run behind word : List Char} {caret column : Nat}

/-- Around a run of name characters at a caret there are those directly before and behind it. -/
theorem nameAround_of_run (hr : ∀ c ∈ run, isNameChar c = true) (hf : before.length ≤ caret)
    (hl : caret ≤ before.length + run.length) :
    nameAround (before ++ (run ++ behind)) caret =
      (before.reverse.takeWhile isNameChar).reverse ++ (run ++ behind.takeWhile isNameChar) := by
  obtain ⟨n, rfl⟩ := Nat.exists_eq_add_of_le hf
  have hn : n ≤ run.length := by omega
  have hleft : (before ++ (run ++ behind)).take (before.length + n) = before ++ run.take n := by
    rw [List.take_length_add_append, List.take_append_of_le_length hn]
  have hright : (before ++ (run ++ behind)).drop (before.length + n) = run.drop n ++ behind := by
    rw [List.drop_length_add_append, List.drop_append_of_le_length hn]
  have hfirst : ∀ c ∈ (run.take n).reverse, isNameChar c = true := fun c hc =>
    hr c (List.mem_of_mem_take (List.mem_reverse.1 hc))
  have hlast : ∀ c ∈ run.drop n, isNameChar c = true := fun c hc =>
    hr c (List.mem_of_mem_drop hc)
  rw [nameAround, hleft, hright, List.reverse_append, List.takeWhile_append_of_pos hfirst,
    List.takeWhile_append_of_pos hlast, List.reverse_append, List.reverse_reverse]
  simp only [List.append_assoc]
  rw [← List.append_assoc (run.take n), List.take_append_drop]

theorem isRunAt_iff :
    IsRunAt line (byteOffset line column) before run behind ↔
      line = before ++ (run ++ behind) ∧ (∀ c ∈ run, isNameChar c = true) ∧
        before.length ≤ charIndex line column ∧
        charIndex line column ≤ before.length + run.length := by
  have hf : line = before ++ (run ++ behind) → before <+: line := fun h => ⟨_, h.symm⟩
  have hl : line = before ++ (run ++ behind) → before ++ run <+: line := fun h =>
    ⟨behind, by rw [h, List.append_assoc]⟩
  constructor
  · rintro ⟨he, hr, hfirst, hlast⟩
    rw [byteLength_le_byteOffset_iff (hf he)] at hfirst
    rw [byteOffset_le_byteLength_iff (hl he), List.length_append] at hlast
    exact ⟨he, hr, hfirst, hlast⟩
  · rintro ⟨he, hr, hfirst, hlast⟩
    refine ⟨he, hr, ?_, ?_⟩
    · rwa [byteLength_le_byteOffset_iff (hf he)]
    · rwa [byteOffset_le_byteLength_iff (hl he), List.length_append]

/-- The name characters around a caret are a run there. -/
theorem exists_isRunAt_nameAround (line : List Char) (column : Nat) :
    ∃ before behind, IsRunAt line (byteOffset line column) before
      (nameAround line (charIndex line column)) behind := by
  have hlen : ((line.take (charIndex line column)).reverse.takeWhile isNameChar).length +
      ((line.take (charIndex line column)).reverse.dropWhile isNameChar).length =
        charIndex line column := by
    rw [← List.length_append, List.takeWhile_append_dropWhile, List.length_reverse,
      length_take_charIndex]
  refine ⟨((line.take (charIndex line column)).reverse.dropWhile isNameChar).reverse,
    (line.drop (charIndex line column)).dropWhile isNameChar, isRunAt_iff.2 ⟨?_, ?_, ?_, ?_⟩⟩
  · rw [nameAround, List.append_assoc, List.takeWhile_append_dropWhile, ← List.append_assoc,
      ← List.reverse_append, List.takeWhile_append_dropWhile, List.reverse_reverse,
      List.take_append_drop]
  · exact fun c hc => isNameChar_of_mem_nameAround hc
  · rw [List.length_reverse]
    omega
  · rw [nameAround, List.length_append, List.length_reverse, List.length_reverse]
    omega

/-- No run at a caret is longer than the name characters around it, and one that is as long is
just these. -/
theorem IsRunAt.length_le (h : IsRunAt line (byteOffset line column) before run behind) :
    run.length ≤ (nameAround line (charIndex line column)).length ∧
      (run.length = (nameAround line (charIndex line column)).length →
        run = nameAround line (charIndex line column)) := by
  obtain ⟨he, hr, hf, hl⟩ := isRunAt_iff.1 h
  have hname := @nameAround_of_run before run behind _ hr hf hl
  rw [← he] at hname
  rw [hname]
  constructor
  · simp only [List.length_append]
    omega
  · intro hlen
    simp only [List.length_append] at hlen
    have hfront : (before.reverse.takeWhile isNameChar).reverse = [] :=
      List.eq_nil_of_length_eq_zero (by omega)
    have hback : behind.takeWhile isNameChar = [] := List.eq_nil_of_length_eq_zero (by omega)
    rw [hfront, hback, List.nil_append, List.append_nil]

theorem isLongestRunAt_iff :
    IsLongestRunAt line (byteOffset line column) word ↔
      word ≠ [] ∧ word = nameAround line (charIndex line column) := by
  constructor
  · rintro ⟨hn, ⟨before, behind, hrun⟩, hmax⟩
    obtain ⟨first, last, haround⟩ := exists_isRunAt_nameAround line column
    have hlen := Nat.le_antisymm hrun.length_le.1 (hmax _ _ _ haround)
    exact ⟨hn, hrun.length_le.2 hlen⟩
  · rintro ⟨hn, rfl⟩
    exact ⟨hn, exists_isRunAt_nameAround line column, fun _ _ _ h => h.length_le.1⟩

theorem nameAround_eq_nil_iff :
    nameAround line (charIndex line column) = [] ↔
      StandsAlone line (byteOffset line column) := by
  have hnone : ∀ text : List Char, text.takeWhile isNameChar = [] ↔
      text.head?.any isNameChar = false := by
    intro text
    cases text with
    | nil => simp
    | cons c text => cases hc : isNameChar c <;> simp [hc]
  have halone : nameAround line (charIndex line column) = [] ↔
      (line.take (charIndex line column)).getLast?.any isNameChar = false ∧
        (line.drop (charIndex line column)).head?.any isNameChar = false := by
    rw [nameAround, List.append_eq_nil_iff, List.reverse_eq_nil_iff, hnone, hnone,
      List.head?_reverse]
  rw [halone]
  constructor
  · rintro ⟨hl, hr⟩
    exact ⟨_, _, (List.take_append_drop _ line).symm, rfl, hl, hr⟩
  · rintro ⟨left, right, he, hb, hl, hr⟩
    have hleft : line.take (charIndex line column) = left :=
      take_charIndex_of_byteLength ⟨right, he.symm⟩ hb
    have hright : line.drop (charIndex line column) = right := by
      have h := (List.take_append_drop (charIndex line column) line).trans he
      rw [hleft] at h
      exact List.append_cancel_left h
    rw [hleft, hright]
    exact ⟨hl, hr⟩

end Runs

section Picking
variable {line word : List Char} {column : Nat}

theorem wordAt?_of_isNameAt (h : IsNameAt line (byteOffset line column) word) :
    wordAt? line column = some word := by
  unfold wordAt?
  simp only [quotedAt?_eq_some_iff.2 h]

/-- Apart from the pairs of quotes a caret picks the name characters around it. -/
theorem wordAt?_of_not_isNameAt (h : ∀ name, ¬ IsNameAt line (byteOffset line column) name) :
    wordAt? line column =
      if nameAround line (charIndex line column) = [] then none
      else some (nameAround line (charIndex line column)) := by
  have hq : quotedAt? (charIndex line column) (splitOnChar '"' line) = none := by
    rw [Option.eq_none_iff_forall_ne_some]
    exact fun name hn => h name (quotedAt?_eq_some_iff.1 hn)
  unfold wordAt?
  simp only [hq, List.isEmpty_iff]

theorem liesAround_of_wordAt? (h : wordAt? line column = some word) :
    LiesAround line (byteOffset line column) word := by
  by_cases hname : ∃ name, IsNameAt line (byteOffset line column) name
  · obtain ⟨name, hname⟩ := hname
    obtain rfl := Option.some.inj ((wordAt?_of_isNameAt hname).symm.trans h)
    obtain ⟨before, behind, hpair, hf, hl⟩ := hname
    have hquote : byteLength (before ++ ['"']) = byteLength before + 1 := byteLength_append _ _
    refine ⟨before ++ ['"'], '"' :: behind, ?_, ?_, ?_⟩
    · rw [hpair.line_eq, List.append_assoc]
      rfl
    · rwa [List.append_assoc]
    · rcases Nat.lt_or_ge (byteOffset line column) (byteLength before + 1) with ho | ho
      · exact .inr ⟨by omega, List.getLast?_concat⟩
      · exact .inl (by omega)
  · rw [wordAt?_of_not_isNameAt (not_exists.1 hname)] at h
    split at h
    · cases h
    · obtain rfl := Option.some.inj h
      obtain ⟨before, behind, hrun⟩ := exists_isRunAt_nameAround line column
      exact ⟨before, behind, hrun.line_eq, hrun.le_last, .inl hrun.first_le⟩

end Picking

/-- A caret on a pair of quotes picks the text between them. Any other caret picks the longest run
of name characters that it stands in or next to, and nothing exactly when it stands next to none.
What is picked is a part of the line around the caret and holds no quote. -/
theorem wordAt?_follows_caret (line : List Char) (column : Nat) :
    (∀ name, IsNameAt line (byteOffset line column) name → wordAt? line column = some name) ∧
    ((∀ name, ¬ IsNameAt line (byteOffset line column) name) →
      (∀ word, wordAt? line column = some word ↔
        IsLongestRunAt line (byteOffset line column) word) ∧
      (wordAt? line column = none ↔ StandsAlone line (byteOffset line column))) ∧
    ∀ word, wordAt? line column = some word →
      '"' ∉ word ∧ LiesAround line (byteOffset line column) word := by
  refine ⟨fun name h => wordAt?_of_isNameAt h, fun h => ?_, fun word h => ?_⟩
  · rw [wordAt?_of_not_isNameAt h, ← nameAround_eq_nil_iff]
    constructor
    · intro word
      rw [isLongestRunAt_iff]
      split
      · next hn => simp [hn]
      · next hn =>
        rw [Option.some.injEq]
        exact ⟨fun he => ⟨he ▸ hn, he.symm⟩, fun he => he.2.symm⟩
    · split
      · next hn => simp [hn]
      · next hn => simp [hn]
  · exact ⟨quote_notMem_of_wordAt? h, liesAround_of_wordAt? h⟩

/-- One caret stands on a closing quote, the other in a word behind a quote that is never closed. -/
theorem wordAt?_follows_caret_unclosed :
    let line := "Get(\"Nr. 😀\", \"größe".toList
    (IsNameAt line (byteOffset line 11) "Nr. 😀".toList ∧
      wordAt? line 11 = some "Nr. 😀".toList) ∧
    (∀ name, ¬ IsNameAt line (byteOffset line 17) name) ∧
      IsLongestRunAt line (byteOffset line 17) "größe".toList ∧
      wordAt? line 17 = some "größe".toList := by
  intro line
  have hname : IsNameAt line (byteOffset line 11) "Nr. 😀".toList :=
    quotedAt?_eq_some_iff.1 (by decide)
  have hnone : ∀ name, ¬ IsNameAt line (byteOffset line 17) name := by
    intro name h
    have hq : quotedAt? (charIndex line 17) (splitOnChar '"' line) = none := by decide
    exact absurd (hq.symm.trans (quotedAt?_eq_some_iff.2 h)) (by simp)
  have hrun : IsLongestRunAt line (byteOffset line 17) "größe".toList :=
    isLongestRunAt_iff.2 ⟨by decide, by decide⟩
  have hfirst := (wordAt?_follows_caret line 11).1 _ hname
  have hsecond := (((wordAt?_follows_caret line 17).2.1 hnone).1 _).2 hrun
  exact ⟨⟨hname, hfirst⟩, hnone, hrun, hsecond⟩

end AlAssistant.Phrase
