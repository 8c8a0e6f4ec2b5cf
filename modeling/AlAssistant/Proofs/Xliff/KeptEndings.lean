import AlAssistant.Proofs.Text.Endings
import AlAssistant.Proofs.Xliff.Unchanged
import AlAssistant.Proofs.Xliff.WrittenNote

/-!
# An insertion keeps the line endings

A value is cut out of its note at visible characters, so it has the endings of the note, and it is
put between two tags. A new line ends as the lines of the text do, and its indentation ends none.
So if all lines of a text end in one way, those of the filled text do as well.
-/
namespace AlAssistant.Xliff

open AlAssistant.Text

section Values
variable {windows : Bool} {text code value : List Char}

theorem uniform_cleanValue (h : Uniform windows text) : Uniform windows (cleanValue text) := by
  have hcomma : ∀ value : List Char, Uniform windows value →
      Uniform windows (if value.getLast? = some ',' then value.dropLast else value) := by
    intro value hv
    split
    · exact hv.of_isPrefix (List.dropLast_prefix value)
    · exact hv
  exact ((hcomma _ h.trim).of_isPrefix (trimEnd_isPrefix _)).stripQuotes

/-- Behind a code the value begins anew. -/
theorem uniform_of_codeHere? {rest : List Char} (h : Uniform windows text)
    (hc : codeHere? text = some (code, rest)) : Uniform windows rest := by
  obtain ⟨-, blanks, -, rfl⟩ := codeHere?_eq_some_iff.1 hc
  exact ((uniform_append_iff (by decide) (by decide)).1 h).2

theorem uniform_of_nextCode? {before rest : List Char} (h : Uniform windows text)
    (hn : nextCode? text = some (before, code, rest)) :
    Uniform windows before ∧ Uniform windows rest := by
  obtain ⟨-, behind, rfl, hc⟩ := nextCode?_eq_some_iff.1 hn
  obtain ⟨hb, hr⟩ := (uniform_append_iff (by decide) (by decide)).1 h
  exact ⟨hb, uniform_of_codeHere? hr hc⟩

theorem uniform_of_mem_pairsFrom {pair : NotePair} (h : Uniform windows text)
    (hp : pair ∈ pairsFrom code text) : Uniform windows pair.value := by
  fun_induction pairsFrom code text with
  | case1 code text hn =>
    obtain rfl := List.mem_singleton.1 hp
    exact uniform_cleanValue h
  | case2 code text raw next rest hn ih =>
    obtain ⟨hraw, hrest⟩ := uniform_of_nextCode? h hn
    rcases List.mem_cons.1 hp with rfl | hp
    · exact uniform_cleanValue hraw
    · exact ih hrest hp

theorem uniform_of_noteValue? (h : Uniform windows text) (hv : noteValue? text code = some value) :
    Uniform windows value := by
  obtain ⟨pair, hp, rfl⟩ := Option.map_eq_some_iff.1 hv
  have hm := List.mem_of_find?_eq_some hp
  unfold notePairs at hm
  split at hm
  · next hc => exact uniform_of_mem_pairsFrom (uniform_of_codeHere? h hc) hm
  · split at hm
    · next hn => exact uniform_of_mem_pairsFrom (uniform_of_nextCode? h hn).2 hm
    · cases hm

/-- The content of a note stands between two tags of its unit. -/
theorem uniform_of_developerNote? (h : Uniform windows text)
    (hd : developerNote? text = some value) : Uniform windows value := by
  obtain ⟨note, hf, hc⟩ := Option.bind_eq_some_iff.1 hd
  obtain ⟨before, after, hw⟩ := infix_of_mem_elements (List.mem_of_find?_eq_some hf)
  cases note with
  | selfClosing attributes => cases hc
  | full attributes content =>
    obtain rfl : content = value := Option.some.inj hc
    have ht : text = (before ++ '<' :: noteName ++ attributes) ++
        '>' :: (content ++ '<' :: ('/' :: noteName ++ ['>'] ++ after)) := by
      rw [← hw]
      simp [Element.render, endTag]
    exact (uniform_between_tags_iff.1 (ht ▸ h)).2.1

end Values

section Splices
variable {windows : Bool} {code ending above value : List Char} {s : Splice}

theorem feed_notMem_lastIndent (text : List Char) : '\n' ∉ lastIndent text := fun h => by
  simpa using List.mem_takeWhile_imp h

theorem uniform_filledTarget {attributes a b : List Char} (ha : Uniform windows a)
    (ht : Uniform windows ("target".toList ++ attributes)) (hv : Uniform windows value)
    (hb : Uniform windows b) :
    Uniform windows (a ++ ("<target".toList ++ attributes ++
      '>' :: (value ++ "</target>".toList ++ b))) := by
  have hclose : Uniform windows "/target".toList := uniform_of_notMem (by decide)
  have h : Uniform windows (a ++ '<' :: (("target".toList ++ attributes) ++
      '>' :: (value ++ '<' :: ("/target".toList ++ '>' :: b)))) := by
    rw [uniform_append_iff (by decide) (by decide), uniform_between_tags_iff,
      uniform_append_iff (by decide) (by decide)]
    exact ⟨ha, ht, hv, hclose, hb⟩
  simpa using h

/-- A change of a unit leaves the text around it with its endings. -/
theorem Splice.Inserts.uniform_new (h : s.Inserts ending above value) (he : Uniform windows ending)
    (hv : Uniform windows value) {a b : List Char} (ho : Uniform windows (a ++ s.old ++ b)) :
    Uniform windows (a ++ s.new ++ b) := by
  cases h with
  | newLine lead tag content after ht =>
    have hold : Uniform windows ((a ++ lead ++ tag ++ content ++ "</source".toList) ++
        '>' :: (after ++ b)) := by
      simpa [Splice.old] using ho
    obtain ⟨hfront, hrest⟩ := (uniform_append_iff (by decide) (by decide)).1 hold
    have hline : Uniform windows (ending ++ lastIndent (above ++ lead)) :=
      he.append_of_notMem (feed_notMem_lastIndent _)
    have hstart : Uniform windows ((a ++ lead ++ tag ++ content ++ "</source".toList) ++
        '>' :: (ending ++ lastIndent (above ++ lead))) :=
      (uniform_append_iff (by decide) (by decide)).2 ⟨hfront, hline⟩
    have htarget : Uniform windows ("target".toList ++ []) := uniform_of_notMem (by decide)
    simpa [Splice.new] using uniform_filledTarget hstart htarget hv hrest
  | placeholder lead tag content after ht hc =>
    obtain ⟨attributes, rfl, -⟩ := ht
    have hold : Uniform windows ((a ++ lead ++ '<' :: targetName ++ attributes) ++
        '>' :: (content ++ '<' :: ("/target>".toList ++ after ++ b))) := by
      simpa [Splice.old] using ho
    obtain ⟨hfront, -, hrest⟩ := uniform_between_tags_iff.1 hold
    simpa [Splice.new] using uniform_between_tags_iff.2 ⟨hfront, hv, hrest⟩
  | selfClosing lead attributes after hg hw =>
    have hold : Uniform windows ((a ++ lead) ++ '<' :: (("target".toList ++ attributes ++ ['/']) ++
        '>' :: (after ++ b))) := by
      simpa [Splice.old] using ho
    obtain ⟨hfront, hold⟩ := (uniform_append_iff (by decide) (by decide)).1 hold
    obtain ⟨htag, hrest⟩ := (uniform_append_iff (by decide) (by decide)).1 hold
    -- what is trimmed off the attributes stands at their end
    have htarget : Uniform windows ("target".toList ++ trimEnd attributes) := by
      refine htag.of_isPrefix ?_
      rw [List.append_assoc, List.prefix_append_right_inj]
      exact (trimEnd_isPrefix attributes).trans (List.prefix_append attributes ['/'])
    simpa [Splice.new] using uniform_filledTarget hfront htarget hv hrest

end Splices

section Runs
variable {windows : Bool} {code ending text : List Char}

/-- An element begins with a visible character. -/
theorem uniform_of_render {name a b : List Char} {element : Element}
    (h : Uniform windows (a ++ element.render name ++ b)) :
    Uniform windows (element.render name) := by
  obtain ⟨rest, hr⟩ : ∃ rest, element.render name = '<' :: rest := by
    cases element <;> exact ⟨_, rfl⟩
  rw [hr, List.append_assoc, List.cons_append] at h
  have hb := ((uniform_append_iff (by decide) (by decide)).1 h).2
  rw [hr]
  exact (@uniform_append_iff windows [] rest '<' (by decide) (by decide)).2
    ⟨uniform_of_notMem List.not_mem_nil, hb.of_isPrefix (List.prefix_append rest b)⟩

/-- Unit by unit, the text filled so far and the rest of the text have one style of endings. -/
theorem uniform_insertFrom (he : Uniform windows ending) {lineBefore : List Char}
    (done : List Char) (h : Uniform windows (done ++ text)) :
    Uniform windows (done ++ (insertFrom code ending lineBefore text).text) := by
  fun_induction insertFrom code ending lineBefore text generalizing done with
  | case1 lineBefore text hf => exact h
  | case2 lineBefore text found hf unitText above rest ih =>
    have ht : text = found.before ++ unitText ++ found.after := (text_of_find? hf).symm
    have hall : Uniform windows (done ++ found.before ++ unitText ++ found.after) := by
      simpa only [ht, List.append_assoc] using h
    cases hs : unitSplice? code ending above unitText with
    | none =>
      simpa [Insertion.behindUnit, Insertion.behind] using ih _ hall
    | some s =>
      obtain ⟨value, -, hv, hi⟩ := inserts_of_unitSplice? hs
      obtain ⟨noteText, hd, hn⟩ := Option.bind_eq_some_iff.1 hv
      have hvalue : Uniform windows value :=
        uniform_of_noteValue? (uniform_of_developerNote? (uniform_of_render hall) hd) hn
      have hnew : Uniform windows (done ++ found.before ++ s.new ++ found.after) :=
        hi.uniform_new he hvalue (by rwa [old_of_unitSplice? hs])
      simpa [Insertion.behindUnit, Insertion.behind] using ih _ hnew

end Runs

/-- An insertion brings no Windows ending into a text without one, and into a text that ends all
its lines so it brings no other. -/
theorem insertNotes_keeps_line_endings {fileName text code : String}
    (hc : codeOfFile fileName = .ok code) :
    ∃ result, insertNotes fileName text = .ok result ∧
      (¬ ['\r', '\n'] <:+: text.toList → ¬ ['\r', '\n'] <:+: result.text) ∧
      (['\r', '\n'] <:+: text.toList → NoBareFeed text.toList → NoBareFeed result.text) := by
  unfold insertNotes
  rw [hc]
  refine ⟨_, rfl, fun hn => ?_, fun hw hf => ?_⟩
  · have he : Uniform false (lineEnding text.toList) := uniform_lineEnding (by simpa using hn)
    exact uniform_false_iff.1 (uniform_insertFrom he [] (uniform_false_iff.2 hn))
  · have he : Uniform true (lineEnding text.toList) := uniform_lineEnding (by simpa using hw)
    exact uniform_true_iff.1 (uniform_insertFrom he [] (uniform_true_iff.2 hf))

/-- The attributes of the target end in a line break, and the value has one in its quotes. -/
theorem insertNotes_keeps_line_endings_quoted :
    let text := "<trans-unit><target\r\n/><note from='Developer'>DEU=\"b\r\nc\"</note></trans-unit>"
    codeOfFile "App.de-DE.xlf" = .ok "DEU" ∧ ['\r', '\n'] <:+: text.toList ∧
      NoBareFeed text.toList ∧
      ∃ result, insertNotes "App.de-DE.xlf" text = .ok result ∧ NoBareFeed result.text ∧
        "<trans-unit><target>b\r\nc</target>".toList <+: result.text := by
  intro text
  have hc : codeOfFile "App.de-DE.xlf" = .ok "DEU" := by decide +kernel
  have hw : ['\r', '\n'] <:+: text.toList := by decide +kernel
  have hf : NoBareFeed text.toList := by decide +kernel
  have hfilled : ((insertNotes "App.de-DE.xlf" text).toOption.any fun result =>
      decide ("<trans-unit><target>b\r\nc</target>".toList <+: result.text)) = true := by
    decide +kernel
  obtain ⟨result, hr, -, hkept⟩ := insertNotes_keeps_line_endings hc
  rw [hr] at hfilled
  exact ⟨hc, hw, hf, result, hr, hkept hw hf, of_decide_eq_true hfilled⟩

end AlAssistant.Xliff
