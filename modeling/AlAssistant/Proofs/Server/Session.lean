import AlAssistant.Proofs.Dialogue.Lookup

/-!
# Sessions with valid settings

Whatever a client sends, a step changes the settings in force by a call of the manager or not at
all. All settings of a session are therefore valid: no search in it fails because of its address,
and every choice it offers has labels that can be read.
-/
namespace AlAssistant

namespace Dialogue

theorem yields_jump {uri : Url} {text : String} {cursor : Nat} {marker : Al.Marker} :
    Yields Event.IsSound (fun _ => True) (jump uri text cursor marker) :=
  yields_bind_pure (yields_select trivial)

theorem insertionFailed_isSound :
    Event.IsSound (.message .error "Failed to insert translations") := by
  intro url cause h
  have hh := head?_failureText (.invalidUrl url cause)
  rw [← h] at hh
  exact absurd hh (by decide)

theorem yields_insertNotes {uri : Url} {text : String} :
    Yields Event.IsSound (fun _ => True) (insertNotes uri text) := by
  unfold insertNotes
  split
  · exact yields_bind_pure (yields_tell trivial)
  · split
    · exact yields_bind_pure (yields_tell trivial)
    · refine yields_bind (yields_applyEdit trivial) fun applied _ => ?_
      split
      · exact yields_bind_pure (yields_tell trivial)
      · exact yields_bind_pure (yields_tell insertionFailed_isSound)

end Dialogue

namespace Server

open AlAssistant.Dialogue AlAssistant.Json AlAssistant.Protocol

section Serving
variable {state : State} {argument : Value}

theorem yields_serveJump {marker : Al.Marker} :
    Yields Event.IsSound (fun _ => True) (serveJump state marker argument) := by
  unfold serveJump
  split
  · exact yields_pure trivial
  · split
    · exact yields_pure trivial
    · exact yields_bind_pure yields_jump

theorem yields_phraseOf :
    Yields Event.IsSound (fun _ => True) (phraseOf state argument) := by
  unfold phraseOf
  split
  · exact yields_pure trivial
  · dsimp only
    split
    · exact yields_pure trivial
    · exact yields_bind_pure (yields_tell trivial)

theorem yields_serveInsertion :
    Yields Event.IsSound (fun _ => True) (serveInsertion state argument) := by
  unfold serveInsertion
  split
  · exact yields_pure trivial
  · split
    · exact yields_bind_pure (yields_tell trivial)
    · exact yields_bind_pure yields_insertNotes

theorem yields_serveTranslation (h : IsUsable state.config) {direction : Portal.Direction} :
    Yields Event.IsSound (fun _ => True) (serveTranslation state direction argument) := by
  refine yields_bind yields_phraseOf fun phrase _ => ?_
  cases phrase with
  | none => exact yields_pure trivial
  | some phrase => exact yields_bind_pure (yields_showTranslation h)

theorem yields_serveCopy (h : IsUsable state.config) :
    Yields Event.IsSound (fun _ => True) (serveCopy state argument) := by
  refine yields_bind yields_phraseOf fun phrase _ => ?_
  cases phrase with
  | none => exact yields_pure trivial
  | some phrase => exact yields_bind_pure (yields_copyTranslation h)

theorem yields_serveCommand (h : IsUsable state.config) {invocation : Invocation} :
    Yields Event.IsSound (fun _ => True) (serveCommand state invocation) := by
  unfold serveCommand
  split
  · exact yields_serveJump
  · exact yields_serveTranslation h
  · exact yields_serveCopy h
  · exact yields_serveInsertion
  · exact yields_pure trivial

theorem yields_serveHover (h : IsUsable state.config) {uri : Url} {position : Position} :
    Yields Event.IsSound (fun _ => True) (serveHover state uri position) := by
  unfold serveHover
  split
  · exact yields_pure trivial
  · split
    · exact yields_pure trivial
    · refine yields_bind (yields_hover h) fun markdown _ => ?_
      cases markdown with
      | none => exact yields_pure trivial
      | some markdown => exact yields_pure trivial

theorem yields_serve (h : IsUsable state.config) {kind : Request} {params : Value} :
    Yields Event.IsSound (fun _ => True) (serve kind params state) := by
  unfold serve
  split
  · split
    · exact yields_pure trivial
    · exact yields_bind_pure (yields_serveHover h)
  · split
    · exact yields_pure trivial
    · exact yields_pure trivial
  · split
    · exact yields_pure trivial
    · exact yields_bind_pure (yields_serveCommand h)
  · exact yields_pure trivial

end Serving

section Stepping
variable {files : Files} {message : Message} {state : State}

/-- The manager of the next state is the one of `state` after calls. -/
abbrev Follows (state next : State) : Prop := state.manager.Reaches next.manager

theorem follows_refl (state : State) : Follows state state := Settings.Manager.reaches_refl _

theorem yields_notify {kind : Notification} {params : Value} :
    Yields Event.IsSound (Follows state) (notify kind params state) := by
  unfold notify
  split
  · split
    · exact yields_pure (follows_refl state)
    · exact yields_bind (yields_log trivial) fun _ _ => yields_pure (follows_refl state)
  · split
    · exact yields_pure (follows_refl state)
    · next settings _ =>
      exact yields_pure (Settings.Manager.reaches_run (.update settings) state.manager)
  · split
    · exact yields_pure (follows_refl state)
    · exact yields_pure (follows_refl state)
  · split
    · exact yields_pure (follows_refl state)
    · split
      · exact yields_pure (follows_refl state)
      · exact yields_pure (follows_refl state)
  · split
    · exact yields_pure (follows_refl state)
    · exact yields_pure (follows_refl state)
  · exact yields_pure (follows_refl state)

/-- A message that is only answered. -/
theorem yields_stay {outcome : Outcome} :
    Yields Event.IsSound (fun ended => Follows state ended.2) (pure (outcome, state)) :=
  yields_pure (follows_refl state)

theorem yields_stepNotification {kind : Notification} :
    Yields Event.IsSound (fun ended => Follows state ended.2)
      (stepNotification kind message state) := by
  unfold stepNotification
  split
  · exact yields_stay
  · split
    · exact yields_stay
    · split
      · exact yields_stay
      · exact yields_bind yields_notify fun _ h => yields_pure h

theorem yields_openSession {opening : Opening} :
    Yields Event.IsSound (fun ended => Follows state ended.2)
      (openSession files state opening) := by
  have hr := Settings.Manager.reaches_run
    (.load files (opening.root.bind Url.filePath?)) state.manager
  unfold openSession
  dsimp only
  split
  · exact yields_pure hr
  · exact yields_bind (yields_log trivial) fun _ _ => yields_pure hr

theorem yields_stepOpening :
    Yields Event.IsSound (fun ended => Follows state ended.2)
      (stepOpening files message state) := by
  unfold stepOpening
  split
  · exact yields_stay
  · split
    · exact yields_stay
    · split
      · exact yields_stay
      · exact yields_openSession

theorem yields_stepRequest (h : IsUsable state.config) {kind : Request} :
    Yields Event.IsSound (fun ended => Follows state ended.2) (stepRequest kind message state) := by
  unfold stepRequest
  split
  · exact yields_stay
  · split
    · exact yields_stay
    · split
      · exact yields_stay
      · refine yields_bind (yields_serve h) fun outcome _ => ?_
        cases outcome with
        | none => exact yields_stay
        | some outcome => exact yields_stay

theorem follows_stepShutdown : Follows state (stepShutdown message state).2 := by
  unfold stepShutdown
  split
  · exact follows_refl state
  · exact follows_refl state

/-- A step with usable settings. -/
theorem yields_step (h : IsUsable state.config) :
    Yields Event.IsSound (fun ended => Follows state ended.2) (step files message state) := by
  unfold step
  split
  · exact yields_stay
  · split
    · exact yields_pure (follows_refl state)
    · exact yields_stepOpening
    · exact yields_pure follows_stepShutdown
    · exact yields_stepNotification
    · exact yields_stepRequest h
    · split
      · exact yields_stay
      · exact yields_stay

end Stepping

/-- The state after messages in a row, each of which finds the files as they are then. -/
def attend : List (Files × Message) → State → Dialogue State
  | [], state => return state
  | (files, message) :: script, state => do
    let (_, next) ← step files message state
    attend script next

/-- A session that starts with valid settings changes them by calls only, and all it asks and
tells is sound. -/
theorem yields_attend {state : State} (h : state.manager.current.isValid = true)
    (script : List (Files × Message)) :
    Yields Event.IsSound (Follows state) (attend script state) := by
  -- over all states, since the step hands its own one on with settings that are valid again
  induction script generalizing state with
  | nil => exact yields_pure (follows_refl state)
  | cons entry script ih =>
    refine yields_bind (yields_step (isUsable_of_isValid h)) fun ended hf => ?_
    exact (ih (hf.isValid h)).mono fun next hn => hf.trans hn

/-- Only valid settings are in force. After any calls of the manager, one more puts what it
offers in force if that is valid, with the root that goes with it, and otherwise changes nothing.
A session changes its settings by such calls only. No search with them fails because of its
address, so a hover over a phrase always asks the portal and no message blames the address; and
each choice has labels, which can all be read. -/
theorem valid_settings_in_force :
    (∀ (calls : List Settings.Call) (call : Settings.Call),
      let before := Settings.Manager.initial.after calls
      let result := (call.run before).1
      let after := (call.run before).2
      after.current.isValid = true ∧
        (∀ rejection, result = .error rejection → after = before) ∧
        (result = .ok () → call.Offers after.current ∧ after.root = call.root before) ∧
        (result = .ok () ↔ ∃ settings, call.Offers settings ∧ settings.isValid = true)) ∧
    ∀ (script : List (Files × Message)) (exchange : Exchange),
      let state := (attend script .initial exchange).1
      (∃ calls, Settings.Manager.initial.after calls = state.manager) ∧
        state.manager.current.isValid = true ∧
        (∀ phrase direction product limit asked url cause,
          (search state.config phrase direction product limit asked).1 ≠
            .error (.invalidUrl url cause)) ∧
        (∀ text position phrase asked, Phrase.hovered? text position = some phrase →
          ∃ url, IsSearch state.config phrase .forward state.config.productId url ∧
            (hover state.config text position asked).2.events = asked.events ++ [.request url]) ∧
        ∃ events, (attend script .initial exchange).2.events = exchange.events ++ events ∧
          ∀ event ∈ events, event.IsSound := by
  have hi := Settings.Manager.isValid_initial
  constructor
  · intro calls call before result after
    have hb := Settings.Manager.isValid_after hi calls
    exact ⟨Settings.Call.isValid_run hb, fun _ => Settings.Call.run_of_error,
      Settings.Call.run_of_ok, Settings.Call.run_eq_ok_iff⟩
  · intro script exchange state
    have ha : Yields Event.IsSound (Follows .initial) (attend script .initial) :=
      yields_attend hi script
    obtain ⟨hf, he⟩ := ha exchange
    have hv : state.manager.current.isValid = true := hf.isValid hi
    have hu : IsUsable state.config := isUsable_of_isValid hv
    refine ⟨hf, hv, ?_, fun text position phrase asked hp => events_hover hu hp asked, he⟩
    intro phrase direction product limit asked url cause h
    exact (yields_search hu asked).1 _ h url cause rfl

end Server

end AlAssistant
