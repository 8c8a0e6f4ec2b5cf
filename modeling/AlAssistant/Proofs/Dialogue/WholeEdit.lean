import AlAssistant.Dialogue.Commands
import AlAssistant.Proofs.Dialogue.Events
import AlAssistant.Proofs.Text.Lines

/-!
# Inserting notes by one edit

The range of a whole text begins before its first character and stops behind its last one, so an
edit of that range leaves the new text and nothing of the old one. Inserting notes sends one such
edit when there is something to insert, none otherwise, and tells the user once how it went.
-/
namespace AlAssistant

namespace Text

/-- The column behind the last part of a text is the end of the text. -/
theorem positionIndex_stop (text : List Char) :
    positionIndex text ⟨(splitOnChar '\n' text).length - 1,
      units ((splitOnChar '\n' text).getLast?.getD [])⟩ = text.length := by
  by_cases h : '\n' ∈ text
  · obtain ⟨part, rest, he, hp⟩ := List.eq_append_cons_of_mem h
    have shorter : rest.length < text.length := by
      simp only [he, List.length_append, List.length_cons]
      omega
    have ih := positionIndex_stop rest
    obtain ⟨first, parts, hs⟩ := exists_splitOnChar '\n' rest
    rw [hs] at ih
    rw [he, splitOnChar_part hp, hs, List.length_cons, List.getLast?_cons_cons]
    have hl : (first :: parts).length + 1 - 1 = (first :: parts).length - 1 + 1 := by simp
    rw [hl, positionIndex_feed hp, ih, List.length_append, List.length_cons]
    omega
  · rw [splitOnChar_of_notMem h]
    have hc := charIndex_units text []
    simpa [positionIndex, splitOnChar_of_notMem h] using hc
termination_by text.length

/-- An edit of the whole range replaces the whole text. -/
theorem apply_fullRange (text newText : String) :
    TextEdit.apply ⟨fullRange text, newText⟩ text = newText := by
  have hstart : positionIndex text.toList (fullRange text).start = 0 :=
    positionIndex_start text.toList
  have hstop : positionIndex text.toList (fullRange text).stop = text.toList.length :=
    positionIndex_stop text.toList
  simp only [TextEdit.apply, hstart, hstop]
  simp

example : fullRange "a\r\n😀" = ⟨⟨0, 0⟩, ⟨1, 2⟩⟩ := by decide

end Text

namespace Dialogue

/-- Whether the editor applies the next edit. -/
def Answers.applies (answers : Answers) : Bool := answers.edits.headD true

section Insertion
variable {uri : Url} {text : String} {exchange : Exchange}

theorem fst_applyEdit (uri : Url) (edit : TextEdit) (exchange : Exchange) :
    (applyEdit uri edit exchange).1 = exchange.answers.applies := by
  cases h : exchange.answers.edits <;> simp [applyEdit, Answers.applies, record, h]

/-- The end of a dialogue that tells the user how it went. -/
def conclude (kind : MessageKind) (message : String) (updated : Nat) : Dialogue Nat := do
  tell kind message
  return updated

@[simp] theorem conclude_apply (kind : MessageKind) (message : String) (updated : Nat)
    (exchange : Exchange) :
    conclude kind message updated exchange =
      (updated, ⟨exchange.answers, exchange.events ++ [.message kind message]⟩) := rfl

theorem insertNotes_of_error {refusal : Xliff.Refusal}
    (h : Xliff.insertNotes uri.fileName text = .error refusal) :
    insertNotes uri text = conclude .warning refusal.message 0 := by
  unfold insertNotes
  rw [h]
  rfl

theorem insertNotes_of_unchanged {insertion : Xliff.Insertion}
    (h : Xliff.insertNotes uri.fileName text = .ok insertion) (hu : insertion.updated = 0) :
    insertNotes uri text = conclude .info "No translations to insert" 0 := by
  unfold insertNotes
  rw [h]
  simp only [Xliff.Insertion.isUnchanged, hu]
  rfl

theorem insertNotes_of_updated {insertion : Xliff.Insertion}
    (h : Xliff.insertNotes uri.fileName text = .ok insertion) (hu : insertion.updated ≠ 0) :
    insertNotes uri text =
      (applyEdit uri ⟨Text.fullRange text, String.ofList insertion.text⟩ >>= fun applied =>
        if applied then conclude .info (insertedText insertion.updated) insertion.updated
        else conclude .error "Failed to insert translations" 0) := by
  unfold insertNotes
  rw [h]
  simp only [Xliff.Insertion.isUnchanged, beq_eq_false_iff_ne.2 hu]
  rfl

end Insertion

/-- Inserting notes sends one message and at most one edit. There is an edit exactly when the
document has units to update; it turns the text into the filled one, and the number of units is
the answer if the editor applies it. -/
theorem insertNotes_edits_once (uri : Url) (text : String) (exchange : Exchange) :
    let outcome := insertNotes uri text exchange
    ∃ (sent : Option TextEdit) (kind : MessageKind) (message : String),
      outcome.2.events =
        exchange.events ++ sent.toList.map (Event.edit uri) ++ [.message kind message] ∧
      match Xliff.insertNotes uri.fileName text with
      | .error _ => sent = none ∧ outcome.1 = 0
      | .ok insertion =>
        sent.map (fun edit => edit.apply text) =
            (if insertion.updated = 0 then none else some (String.ofList insertion.text)) ∧
          outcome.1 = if exchange.answers.applies then insertion.updated else 0 := by
  intro outcome
  cases hi : Xliff.insertNotes uri.fileName text with
  | error refusal =>
    have ho : outcome = conclude .warning refusal.message 0 exchange :=
      congrFun (insertNotes_of_error hi) exchange
    rw [ho, conclude_apply]
    exact ⟨none, .warning, refusal.message, by simp, rfl, rfl⟩
  | ok insertion =>
    by_cases hu : insertion.updated = 0
    · have ho : outcome = conclude .info "No translations to insert" 0 exchange :=
        congrFun (insertNotes_of_unchanged hi hu) exchange
      rw [ho, conclude_apply]
      exact ⟨none, .info, "No translations to insert", by simp, by simp [hu], by simp [hu]⟩
    · let edit : TextEdit := ⟨Text.fullRange text, String.ofList insertion.text⟩
      have happly : edit.apply text = String.ofList insertion.text := Text.apply_fullRange text _
      have ho := congrFun (insertNotes_of_updated hi hu) exchange
      rw [bind_apply, fst_applyEdit] at ho
      simp only [outcome, ho]
      -- the edit is the same whether it is applied or not
      cases exchange.answers.applies with
      | true =>
        exact ⟨some edit, .info, insertedText insertion.updated, by simp [edit],
          by simp [hu, happly], by simp⟩
      | false =>
        exact ⟨some edit, .error, "Failed to insert translations", by simp [edit],
          by simp [hu, happly], by simp⟩

end Dialogue

end AlAssistant
