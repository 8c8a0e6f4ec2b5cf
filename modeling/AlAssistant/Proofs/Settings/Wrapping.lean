import AlAssistant.Server.Step

/-!
# Settings under a key

A client may send settings on their own or under one key of a wrapping record. A wrapped
payload is read like a bare one as long as it decodes. One that does not is never refused: the
wrapping record is then read as settings itself, its only key is unknown, and every field takes
its default. A malformed wrapped payload therefore resets the settings in force, while a
malformed bare one leaves them alone.
-/
namespace AlAssistant.Settings

open AlAssistant.Json AlAssistant.Server

/-- A payload under the key that wraps settings. -/
def wrap (payload : Value) : Value := .record [("alHelper", payload)]

/-- The parameters of a notification that carries settings. -/
def configurationParams (payload : Value) : Value := .record [("settings", payload)]

theorem ofWrapped?_wrap (payload : Value) : ofWrapped? (wrap payload) = ofValue? payload := by
  rfl

/-- Read without the wrapping in mind, the key is unknown and nothing is given. -/
theorem ofValue?_wrap (payload : Value) : ofValue? (wrap payload) = some default := by
  rfl

theorem ofMessage?_wrap (payload : Value) :
    ofMessage? (wrap payload) = some ((ofValue? payload).getD default) := by
  unfold ofMessage?
  rw [ofWrapped?_wrap, ofValue?_wrap]
  cases ofValue? payload <;> rfl

theorem faults_default : default.faults = [] := by decide +kernel

theorem update_default (manager : Manager) :
    (manager.update default).2 = { manager with current := default } := by
  have hc : check default = .ok default := by
    unfold check isValid
    rw [faults_default]
    rfl
  unfold Manager.update
  rw [hc]

/-- A notification that carries settings acts on what they decode to. -/
theorem notify_configurationChanged (payload : Value) (state : State)
    (exchange : Dialogue.Exchange) :
    notify .configurationChanged (configurationParams payload) state exchange =
      (match ofMessage? payload with
        | none => state
        | some settings => { state with manager := (state.manager.update settings).2 },
        exchange) := by
  have hs : Protocol.sentSettings? (configurationParams payload) = some payload := rfl
  unfold notify
  rw [hs, Option.bind_some]
  cases ofMessage? payload <;> rfl

/-- Wrapped and bare settings agree exactly on the payloads that decode. Any other wrapped
payload is taken for the defaults and puts them in force. -/
theorem wrapped_agrees_iff_decodes (payload : Value) :
    (ofMessage? (wrap payload) = ofValue? payload ↔ (ofValue? payload).isSome) ∧
      ∀ (state : State) (exchange : Dialogue.Exchange),
        notify .configurationChanged (configurationParams (wrap payload)) state exchange =
          (match ofValue? payload with
            | some settings => { state with manager := (state.manager.update settings).2 }
            | none => { state with manager := { state.manager with current := default } },
            exchange) := by
  constructor
  · rw [ofMessage?_wrap]
    cases ofValue? payload <;> simp
  · intro state exchange
    rw [notify_configurationChanged, ofMessage?_wrap]
    cases ofValue? payload with
    | some settings => rfl
    | none => simp [update_default]

/-- A switch given as a text. -/
def textForSwitch : Value :=
  .record [("translation", .record [("hover", .text "yes")])]

/-- A payload that is refused on its own is accepted under the key, and hovers that were
switched on are off again. -/
theorem malformed_wrapped_resets :
    ofValue? textForSwitch = none ∧ ofMessage? textForSwitch = none ∧
      ofMessage? (wrap textForSwitch) = some default ∧
      ∃ state : State, state.config.hover = true ∧ ∀ exchange,
        (notify .configurationChanged (configurationParams textForSwitch) state exchange).1 =
          state ∧
        (notify .configurationChanged (configurationParams (wrap textForSwitch)) state
          exchange).1.config.hover = false := by
  have hv : ofValue? textForSwitch = none := rfl
  have hm : ofMessage? textForSwitch = none := rfl
  let manager : Manager := ⟨⟨{ Translation.default with hover := true }⟩, none⟩
  refine ⟨hv, hm, ?_, ⟨.running, manager, .empty⟩, rfl, fun exchange => ⟨?_, ?_⟩⟩
  · rw [ofMessage?_wrap, hv]
    rfl
  · rw [notify_configurationChanged, hm]
  · rw [notify_configurationChanged, ofMessage?_wrap, hv]
    simp only [Option.getD_none, update_default]
    rfl

end AlAssistant.Settings
