import AlAssistant.Proofs.Text.Seam
import AlAssistant.Xliff.Insertion

/-!
# The language of a named file

A translated file is named after its application, with the tag of its locale in front of the
extension. The tag is sought everywhere in that name, row by row of the table, so a row whose tag
happens to stand in the name of the application is taken when it comes before the row of the
file. This is the only way in which another language can get in.
-/
namespace AlAssistant.Xliff

open AlAssistant.Text

/-- The name of the file that holds the translation of an application. -/
def translatedName (application : String) (locale : String × String) : String :=
  application ++ "." ++ locale.1 ++ ".xlf"

/-- Whether the tag of a locale stands in a name, in any case. -/
def tagIn (locale : String × String) (name : String) : Bool :=
  occursIn (asciiLower locale.1.toList) (asciiLower name.toList)

section Table

theorem code_injective :
    ∀ row ∈ locales, ∀ other ∈ locales, row.2 = other.2 → row = other := by
  decide +kernel

theorem tag_injective : ∀ row ∈ locales, ∀ other ∈ locales,
    asciiLower row.1.toList = asciiLower other.1.toList → row = other := by
  decide +kernel

theorem length_tag : ∀ row ∈ locales, (asciiLower row.1.toList).length = 5 := by
  decide +kernel

theorem dot_notMem_tag : ∀ row ∈ locales, '.' ∉ asciiLower row.1.toList := by
  decide +kernel

/-- The end of a translated name does not look like the end of a generated one. -/
theorem generated_apart : ∀ row ∈ locales,
    occursIn ".g.xlf".toList ('.' :: (asciiLower row.1.toList ++ ".xlf".toList)) = false ∧
      ∀ k < 6, 0 < k →
        ¬ ".g.xlf".toList.drop k <+: '.' :: (asciiLower row.1.toList ++ ".xlf".toList) := by
  decide +kernel

end Table

section Name
variable {application : String} {locale row : String × String}

theorem asciiLower_translatedName (application : String) (locale : String × String) :
    asciiLower (translatedName application locale).toList =
      asciiLower application.toList ++
        '.' :: (asciiLower locale.1.toList ++ ".xlf".toList) := by
  have hd : asciiLower ".".toList = ['.'] := rfl
  have hx : asciiLower ".xlf".toList = ".xlf".toList := by decide
  simp only [translatedName, asciiLower, String.toList_append, List.map_append] at hd hx ⊢
  rw [hd, hx]
  simp

/-- A tag stands in a translated name if it is the tag of the file or stands in the name of the
application. -/
theorem tagIn_translatedName (hl : locale ∈ locales) (hr : row ∈ locales) :
    tagIn row (translatedName application locale) =
      (decide (row = locale) || tagIn row application) := by
  have hdot := dot_notMem_tag row hr
  have hx : ".xlf".toList = '.' :: "xlf".toList := rfl
  have hext : ¬ asciiLower row.1.toList <:+: "xlf".toList := by
    intro hi
    have hle := hi.length_le
    rw [length_tag row hr] at hle
    exact absurd hle (by decide)
  have htag : asciiLower row.1.toList <:+: asciiLower locale.1.toList ↔ row = locale := by
    constructor
    · intro hi
      exact tag_injective row hr locale hl
        (hi.eq_of_length ((length_tag row hr).trans (length_tag locale hl).symm))
    · rintro rfl
      exact List.infix_rfl
  rw [Bool.eq_iff_iff]
  simp only [tagIn, asciiLower_translatedName, occursIn_iff, Bool.or_eq_true, decide_eq_true_eq]
  rw [hx, infix_append_cons_iff hdot, infix_append_cons_iff hdot, htag]
  simp only [hext, or_false]
  exact or_comm

/-- The first row of the table that is the row of the file or has its tag in the name of the
application. -/
def takenRow? (application : String) (locale : String × String) : Option (String × String) :=
  locales.find? fun row => decide (row = locale) || tagIn row application

theorem languageCode?_translatedName (hl : locale ∈ locales) :
    languageCode? (translatedName application locale) =
      (takenRow? application locale).map (·.2) := by
  have hf : locales.filter (tagIn · (translatedName application locale)) =
      locales.filter fun row => decide (row = locale) || tagIn row application :=
    List.filter_congr fun row hr => tagIn_translatedName hl hr
  unfold takenRow?
  rw [← List.head?_filter, ← hf, List.head?_filter]
  rfl

theorem exists_takenRow? (hl : locale ∈ locales) :
    ∃ row ∈ locales, takenRow? application locale = some row := by
  cases h : takenRow? application locale with
  | none =>
    have hn := List.find?_eq_none.1 h locale hl
    simp at hn
  | some row => exact ⟨row, List.mem_of_find?_eq_some h, rfl⟩

/-- The row of the file is taken when no earlier one is. -/
theorem takenRow?_eq_self_iff (hl : locale ∈ locales) :
    takenRow? application locale = some locale ↔
      ∀ earlier ∈ locales.takeWhile (· ≠ locale), tagIn earlier application = false := by
  obtain ⟨front, back, hs, hn⟩ := List.eq_append_cons_of_mem hl
  have hfront : locales.takeWhile (· ≠ locale) = front := by
    rw [hs, List.takeWhile_append_of_pos fun row hr => by simpa using ne_of_mem_of_not_mem hr hn]
    simp
  have htaken : takenRow? application locale =
      (front.find? fun row => decide (row = locale) || tagIn row application).or (some locale) := by
    rw [takenRow?, hs, List.find?_append]
    simp
  rw [htaken, hfront]
  constructor
  · intro h earlier he
    cases hf : front.find? fun row => decide (row = locale) || tagIn row application with
    | none => simpa [ne_of_mem_of_not_mem he hn] using List.find?_eq_none.1 hf earlier he
    | some row =>
      rw [hf, Option.some_or, Option.some.injEq] at h
      exact absurd (h ▸ List.mem_of_find?_eq_some hf) hn
  · intro h
    have hf : front.find? (fun row => decide (row = locale) || tagIn row application) = none := by
      refine List.find?_eq_none.2 fun row hr => ?_
      simp [ne_of_mem_of_not_mem hr hn, h row hr]
    rw [hf, Option.none_or]

theorem occursIn_generated (hl : locale ∈ locales) :
    occursIn ".g.xlf".toList (asciiLower (translatedName application locale).toList) =
      occursIn ".g.xlf".toList (asciiLower application.toList) := by
  obtain ⟨hend, hseam⟩ := generated_apart locale hl
  rw [Bool.eq_iff_iff, asciiLower_translatedName]
  simp only [occursIn_iff]
  constructor
  · intro hi
    refine Classical.byContradiction fun ha => ?_
    refine not_isInfix_append ha (fun he => ?_) (fun x y hx hy hm _ hp => ?_) hi
    · rw [occursIn_iff.2 he] at hend
      cases hend
    · have hlen : x.length + y.length = 6 := by
        rw [← List.length_append, ← hm]
        rfl
      have hy' : y = ".g.xlf".toList.drop x.length := by rw [hm, List.drop_left]
      have hxl := List.length_pos_iff.2 hx
      have hyl := List.length_pos_iff.2 hy
      exact hseam x.length (by omega) hxl (hy' ▸ hp)
  · intro hi
    exact hi.trans (List.prefix_append _ _).isInfix

theorem codeOfFile_translatedName (hl : locale ∈ locales) {row : String × String}
    (hr : takenRow? application locale = some row) :
    codeOfFile (translatedName application locale) =
      if occursIn ".g.xlf".toList (asciiLower application.toList) then
        .error (.generatedFile (translatedName application locale))
      else .ok row.2 := by
  have hend : endsWith ".xlf".toList (asciiLower (translatedName application locale).toList) =
      true := by
    rw [asciiLower_translatedName, endsWith, ← List.cons_append, ← List.append_assoc,
      List.reverse_append, dropStart?_append]
    rfl
  unfold codeOfFile
  simp only [hend, occursIn_generated hl, languageCode?_translatedName hl, hr, Option.map_some]
  rfl

end Name

/-- The code of a translated file belongs to the first row that is its own or has its tag in the
name of the application. It is its own unless an earlier row has. Notes are read with that code
only, if the name is not taken for that of a generated file. -/
theorem code_of_translatedName (application : String) {locale : String × String}
    (hl : locale ∈ locales) :
    ∃ row, takenRow? application locale = some row ∧
      languageCode? (translatedName application locale) = some row.2 ∧
      (row.2 = locale.2 ↔
        ∀ earlier ∈ locales.takeWhile (· ≠ locale), tagIn earlier application = false) ∧
      ∀ text, insertNotes (translatedName application locale) text =
        if occursIn ".g.xlf".toList (asciiLower application.toList) then
          .error (.generatedFile (translatedName application locale))
        else .ok (insertFrom row.2.toList (lineEnding text.toList) [] text.toList) := by
  obtain ⟨row, hr, ht⟩ := @exists_takenRow? application locale hl
  refine ⟨row, ht, ?_, ?_, fun text => ?_⟩
  · rw [languageCode?_translatedName hl, ht, Option.map_some]
  · rw [← takenRow?_eq_self_iff hl, ht, Option.some.injEq]
    exact ⟨code_injective row hr locale hl, congrArg Prod.snd⟩
  · unfold insertNotes
    rw [codeOfFile_translatedName hl ht]
    cases occursIn ".g.xlf".toList (asciiLower application.toList) <;> rfl

theorem code_of_translatedName_swedish :
    ("sv-SE", "SVE") ∈ locales ∧
      ∃ row, takenRow? "Base" ("sv-SE", "SVE") = some row ∧
        languageCode? (translatedName "Base" ("sv-SE", "SVE")) = some row.2 ∧
        (row.2 = "SVE" ↔
          ∀ earlier ∈ locales.takeWhile (· ≠ ("sv-SE", "SVE")), tagIn earlier "Base" = false) ∧
        ∀ text, insertNotes (translatedName "Base" ("sv-SE", "SVE")) text =
          if occursIn ".g.xlf".toList (asciiLower "Base".toList) then
            .error (.generatedFile (translatedName "Base" ("sv-SE", "SVE")))
          else .ok (insertFrom row.2.toList (lineEnding text.toList) [] text.toList) :=
  have hl : ("sv-SE", "SVE") ∈ locales := by decide
  ⟨hl, code_of_translatedName "Base" hl⟩

/-- An application may be called so that German is taken for the German of Switzerland, and the
notes for the latter are put in. -/
theorem application_named_like_tag :
    ("de-DE", "DEU") ∈ locales ∧
      languageCode? (translatedName "Trade-Check" ("de-DE", "DEU")) = some "DES" ∧
      (insertNotes (translatedName "Trade-Check" ("de-DE", "DEU"))
          "<trans-unit><target/><note from='Developer'>DEU=a,DES=b</note></trans-unit>").toOption =
        some ⟨("<trans-unit><target>b</target>" ++
          "<note from='Developer'>DEU=a,DES=b</note></trans-unit>").toList, 1⟩ := by
  decide +kernel

end AlAssistant.Xliff
