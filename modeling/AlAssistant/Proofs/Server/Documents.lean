import AlAssistant.Proofs.Server.Session

/-!
# Open documents in a session

Only the notifications that open, change and close a document touch its text. After any messages a
document is open with the text of the last message that gave it one, unless it was closed since.
A request leaves the whole state as it is.
-/
namespace AlAssistant

namespace DocumentStore

theorem get?_erase (store : DocumentStore) (uri other : Url) :
    (store.erase uri).get? other = if other = uri then none else store.get? other := by
  change List.lookup other (store.entries.filter (·.1 != uri)) =
    if other = uri then none else List.lookup other store.entries
  induction store.entries with
  | nil => simp
  | cons entry entries ih =>
    obtain ⟨key, text⟩ := entry
    by_cases hk : key = uri
    · subst hk
      rw [List.filter_cons_of_neg (by simp), ih]
      by_cases ho : other = key
      · simp only [if_pos ho]
      · simp only [if_neg ho, List.lookup_cons, beq_eq_false_iff_ne.2 ho]
    · rw [List.filter_cons_of_pos (by simpa using hk), List.lookup_cons, List.lookup_cons, ih]
      by_cases ho : other = key
      · subst ho
        simp only [beq_self_eq_true, if_neg hk]
      · simp only [beq_eq_false_iff_ne.2 ho]

theorem get?_insert (store : DocumentStore) (uri : Url) (text : String) (other : Url) :
    (store.insert uri text).get? other = if other = uri then some text else store.get? other := by
  have he := store.get?_erase uri other
  change List.lookup other ((uri, text) :: (store.erase uri).entries) = _
  rw [List.lookup_cons]
  by_cases ho : other = uri
  · simp [ho]
  · rw [if_neg ho] at he ⊢
    rw [beq_eq_false_iff_ne.2 ho]
    exact he

end DocumentStore

namespace Server

open AlAssistant.Dialogue AlAssistant.Json AlAssistant.Protocol

/-- A message gives a document its text: that with which it is opened, or the last of its
changes. -/
inductive Message.Sets (uri : Url) (text : String) : Message → Prop
  | opened {params : Value} : openedDocument? params = some ⟨uri, text⟩ →
      Sets uri text ⟨"textDocument/didOpen", some params, true⟩
  | changed {params : Value} {changes : List String} :
      changedDocument? params = some (uri, changes) → changes.getLast? = some text →
      Sets uri text ⟨"textDocument/didChange", some params, true⟩

/-- A message closes a document. -/
inductive Message.Closes (uri : Url) : Message → Prop
  | closed {params : Value} : closedDocument? params = some uri →
      Closes uri ⟨"textDocument/didClose", some params, true⟩

/-- A message is about the text of a document. -/
def Message.Touches (uri : Url) (message : Message) : Prop :=
  (∃ text, message.Sets uri text) ∨ message.Closes uri

theorem Message.Sets.method {uri : Url} {text : String} {message : Message}
    (h : message.Sets uri text) :
    message.method = "textDocument/didOpen" ∨ message.method = "textDocument/didChange" := by
  cases h with
  | opened => exact .inl rfl
  | changed => exact .inr rfl

theorem Message.Closes.method {uri : Url} {message : Message} (h : message.Closes uri) :
    message.method = "textDocument/didClose" := by
  cases h with
  | closed => rfl

/-- What a message can do to the state as far as documents are concerned. -/
inductive Moved (message : Message) (state : State) : State → Prop
  | kept {next : State} : next.documents = state.documents →
      (message.method ≠ "shutdown" → message.method ≠ "exit" → state.phase = .running →
        next.phase = .running) → Moved message state next
  | set {uri : Url} {text : String} : message.Sets uri text →
      Moved message state (state.setText uri text)
  | closed {uri : Url} : message.Closes uri → Moved message state (state.close uri)

section Methods
variable {name : String}

theorem mem_servedMethods {method : Method} (h : Method.ofName name = method)
    (hr : ∀ shape, method ≠ .request (.unserved shape)) (hn : method ≠ .notification .unused)
    (hu : method ≠ .unknown) : (name, method) ∈ servedMethods := by
  unfold Method.ofName at h
  split at h
  · next served hl =>
    obtain ⟨before, after, hs, -⟩ := List.lookup_eq_some_iff.1 hl
    rw [hs, ← h]
    simp
  · split at h
    · exact absurd h.symm (hr _)
    · split at h
      · exact absurd h.symm hn
      · exact absurd h.symm hu

end Methods

section Steps
variable {files : Files} {message : Message} {state : State} {uri : Url} {text : String}

theorem moved_refl (message : Message) (state : State) : Moved message state state :=
  .kept rfl fun _ _ h => h

theorem gives_notify {kind : Notification} {params : Value}
    (hk : Method.ofName message.method = .notification kind) (hn : message.isNotification = true)
    (hp : message.params = some params) :
    Gives (Moved message state) (notify kind params state) := by
  obtain ⟨method, _, _⟩ := message
  subst hn hp
  unfold notify
  split
  · split
    · exact gives_pure (moved_refl _ state)
    · exact gives_bind_of_forall fun _ => gives_pure (moved_refl _ state)
  · split
    · exact gives_pure (moved_refl _ state)
    · exact gives_pure (.kept rfl fun _ _ h => h)
  · have hm := mem_servedMethods hk (by simp) (by simp) (by simp)
    obtain rfl : method = "textDocument/didOpen" := by simpa [servedMethods] using hm
    split
    · exact gives_pure (moved_refl _ state)
    · next hd => exact gives_pure (.set (.opened hd))
  · have hm := mem_servedMethods hk (by simp) (by simp) (by simp)
    obtain rfl : method = "textDocument/didChange" := by simpa [servedMethods] using hm
    split
    · exact gives_pure (moved_refl _ state)
    · next hd =>
      split
      · exact gives_pure (moved_refl _ state)
      · next hl => exact gives_pure (.set (.changed hd hl))
  · have hm := mem_servedMethods hk (by simp) (by simp) (by simp)
    obtain rfl : method = "textDocument/didClose" := by simpa [servedMethods] using hm
    split
    · exact gives_pure (moved_refl _ state)
    · next hd => exact gives_pure (.closed (.closed hd))
  · exact gives_pure (moved_refl _ state)

theorem gives_stay {outcome : Outcome} :
    Gives (fun ended => Moved message state ended.2) (pure (outcome, state)) :=
  gives_pure (moved_refl message state)

theorem gives_stepNotification {kind : Notification}
    (hk : Method.ofName message.method = .notification kind) :
    Gives (fun ended => Moved message state ended.2) (stepNotification kind message state) := by
  unfold stepNotification
  split
  · exact gives_stay
  · split
    · exact gives_stay
    · next hn =>
      split
      · exact gives_stay
      · next params hp =>
        exact gives_bind (gives_notify hk (by simpa using hn) hp) fun _ h => gives_pure h

theorem gives_stepOpening :
    Gives (fun ended => Moved message state ended.2) (stepOpening files message state) := by
  unfold stepOpening
  split
  · exact gives_stay
  · split
    · exact gives_stay
    · split
      · exact gives_stay
      · unfold openSession
        dsimp only
        split
        · exact gives_pure (.kept rfl fun _ _ _ => rfl)
        · exact gives_bind_of_forall fun _ => gives_pure (.kept rfl fun _ _ _ => rfl)

theorem moved_stepShutdown (hm : message.method = "shutdown") :
    Moved message state (stepShutdown message state).2 := by
  unfold stepShutdown
  split
  · exact moved_refl message state
  · exact .kept rfl fun hne => absurd hm hne

/-- A request is answered from the state as it is. -/
theorem gives_stepRequest {kind : Request} :
    Gives (fun ended => ended.2 = state) (stepRequest kind message state) := by
  unfold stepRequest
  split
  · exact gives_pure rfl
  · split
    · exact gives_pure rfl
    · split
      · exact gives_pure rfl
      · refine gives_bind_of_forall fun outcome => ?_
        cases outcome with
        | none => exact gives_pure rfl
        | some outcome => exact gives_pure rfl

theorem gives_step_of_request {kind : Request} (hk : Method.ofName message.method = .request kind) :
    Gives (fun ended => ended.2 = state) (step files message state) := by
  unfold step
  rw [hk]
  split
  · exact gives_pure rfl
  · exact gives_stepRequest

/-- Every message moves the state in one of three ways. -/
theorem gives_step :
    Gives (fun ended => Moved message state ended.2) (step files message state) := by
  unfold step
  split
  · exact gives_stay
  · split
    · next hm =>
      have hm := mem_servedMethods hm (by simp) (by simp) (by simp)
      have hm : message.method = "exit" := by simpa [servedMethods] using hm
      exact gives_pure (.kept rfl fun _ hne => absurd hm hne)
    · exact gives_stepOpening
    · next hm =>
      have hm := mem_servedMethods hm (by simp) (by simp) (by simp)
      have hm : message.method = "shutdown" := by simpa [servedMethods] using hm
      exact gives_pure (moved_stepShutdown hm)
    · next hk => exact gives_stepNotification hk
    · exact Gives.mono gives_stepRequest fun ended he => he ▸ moved_refl message state
    · split
      · exact gives_stay
      · exact gives_stay

variable (files) (exchange : Exchange)

theorem step_of_sets (hphase : state.phase = .running) (h : message.Sets uri text) :
    (step files message state exchange).1.2 = state.setText uri text := by
  cases h with
  | opened hd =>
    have hm : Method.ofName "textDocument/didOpen" = .notification .documentOpened := rfl
    simp [step, stepNotification, notify, hm, hphase, hd]
    rfl
  | changed hd hl =>
    have hm : Method.ofName "textDocument/didChange" = .notification .documentChanged := rfl
    simp [step, stepNotification, notify, hm, hphase, hd, hl]
    rfl

theorem step_of_closes (hphase : state.phase = .running) (h : message.Closes uri) :
    (step files message state exchange).1.2 = state.close uri := by
  cases h with
  | closed hd =>
    have hm : Method.ofName "textDocument/didClose" = .notification .documentClosed := rfl
    simp [step, stepNotification, notify, hm, hphase, hd]
    rfl

/-- A message that is not about a document leaves its text as it is. -/
theorem text?_step_of_not_touches (h : ¬ message.Touches uri) :
    (step files message state exchange).1.2.text? uri = state.text? uri := by
  have hm : Moved message state (step files message state exchange).1.2 := gives_step exchange
  generalize (step files message state exchange).1.2 = next at hm ⊢
  cases hm with
  | kept hd => exact congrArg (·.get? uri) hd
  | @set other text hs =>
    have hne : uri ≠ other := fun he => h (.inl ⟨text, he ▸ hs⟩)
    exact (state.documents.get?_insert other text uri).trans (if_neg hne)
  | @closed other hc =>
    have hne : uri ≠ other := fun he => h (.inr (he ▸ hc))
    exact (state.documents.get?_erase other uri).trans (if_neg hne)

theorem phase_step (hphase : state.phase = .running) (hs : message.method ≠ "shutdown")
    (he : message.method ≠ "exit") : (step files message state exchange).1.2.phase = .running := by
  have hm : Moved message state (step files message state exchange).1.2 := gives_step exchange
  generalize (step files message state exchange).1.2 = next at hm ⊢
  cases hm with
  | kept _ hp => exact hp hs he hphase
  | set => exact hphase
  | closed => exact hphase

theorem text?_step_of_sets (hphase : state.phase = .running) (h : message.Sets uri text) :
    (step files message state exchange).1.2.text? uri = some text := by
  rw [step_of_sets files exchange hphase h]
  exact (state.documents.get?_insert uri text uri).trans (if_pos rfl)

theorem text?_step_of_closes (hphase : state.phase = .running) (h : message.Closes uri) :
    (step files message state exchange).1.2.text? uri = none := by
  rw [step_of_closes files exchange hphase h]
  exact (state.documents.get?_erase uri uri).trans (if_pos rfl)

end Steps

section Scripts
variable {state : State} {script : List (Files × Message)} {uri : Url}

/-- Messages that neither shut the session down nor end it. -/
def StaysOpen (script : List (Files × Message)) : Prop :=
  ∀ entry ∈ script, entry.2.method ≠ "shutdown" ∧ entry.2.method ≠ "exit"

theorem attend_cons (entry : Files × Message) (script : List (Files × Message)) (state : State)
    (exchange : Exchange) : attend (entry :: script) state exchange =
      attend script (step entry.1 entry.2 state exchange).1.2
        (step entry.1 entry.2 state exchange).2 := rfl

theorem attend_append (earlier later : List (Files × Message)) (state : State)
    (exchange : Exchange) : attend (earlier ++ later) state exchange =
      attend later (attend earlier state exchange).1 (attend earlier state exchange).2 := by
  induction earlier generalizing state exchange with
  | nil => rfl
  | cons entry earlier ih => rw [List.cons_append, attend_cons, ih, attend_cons]

theorem phase_attend (hphase : state.phase = .running) (hs : StaysOpen script)
    (exchange : Exchange) : (attend script state exchange).1.phase = .running := by
  induction script generalizing state exchange with
  | nil => exact hphase
  | cons entry script ih =>
    obtain ⟨he, hs⟩ := List.forall_mem_cons.1 hs
    rw [attend_cons]
    exact ih (phase_step _ _ hphase he.1 he.2) hs _

theorem text?_attend_of_not_touches (h : ∀ entry ∈ script, ¬ entry.2.Touches uri)
    (state : State) (exchange : Exchange) :
    (attend script state exchange).1.text? uri = state.text? uri := by
  induction script generalizing state exchange with
  | nil => rfl
  | cons entry script ih =>
    obtain ⟨he, hs⟩ := List.forall_mem_cons.1 h
    rw [attend_cons, ih hs, text?_step_of_not_touches _ _ he]

/-- The last message about a document decides on its text. -/
theorem text?_attend_of_last {earlier later : List (Files × Message)} {entry : Files × Message}
    (hphase : state.phase = .running) (hs : StaysOpen (earlier ++ entry :: later))
    (hl : ∀ entry ∈ later, ¬ entry.2.Touches uri) (exchange : Exchange) :
    ∃ before asked, before.phase = .running ∧
      (attend (earlier ++ entry :: later) state exchange).1.text? uri =
        (step entry.1 entry.2 before asked).1.2.text? uri := by
  have he : StaysOpen earlier := fun entry he => hs entry (List.mem_append_left _ he)
  refine ⟨(attend earlier state exchange).1, (attend earlier state exchange).2,
    phase_attend hphase he exchange, ?_⟩
  rw [attend_append, attend_cons, text?_attend_of_not_touches hl]

theorem text?_attend_of_sets {earlier later : List (Files × Message)} {entry : Files × Message}
    {text : String} (hphase : state.phase = .running) (hs : StaysOpen (earlier ++ entry :: later))
    (he : entry.2.Sets uri text) (hl : ∀ entry ∈ later, ¬ entry.2.Touches uri)
    (exchange : Exchange) :
    (attend (earlier ++ entry :: later) state exchange).1.text? uri = some text := by
  obtain ⟨before, asked, hp, ht⟩ := text?_attend_of_last hphase hs hl exchange
  rw [ht, text?_step_of_sets _ _ hp he]

theorem text?_attend_of_closes {earlier later : List (Files × Message)} {entry : Files × Message}
    (hphase : state.phase = .running) (hs : StaysOpen (earlier ++ entry :: later))
    (he : entry.2.Closes uri) (hl : ∀ entry ∈ later, ¬ entry.2.Touches uri)
    (exchange : Exchange) :
    (attend (earlier ++ entry :: later) state exchange).1.text? uri = none := by
  obtain ⟨before, asked, hp, ht⟩ := text?_attend_of_last hphase hs hl exchange
  rw [ht, text?_step_of_closes _ _ hp he]

/-- A script has a last message about a document, if it has any. -/
theorem exists_last (uri : Url) (script : List (Files × Message)) :
    (∀ entry ∈ script, ¬ entry.2.Touches uri) ∨
      ∃ earlier entry later, script = earlier ++ entry :: later ∧ entry.2.Touches uri ∧
        ∀ entry ∈ later, ¬ entry.2.Touches uri := by
  induction script with
  | nil => exact .inl fun entry h => absurd h List.not_mem_nil
  | cons entry script ih =>
    rcases ih with hn | ⟨earlier, last, later, rfl, ht, hl⟩
    · by_cases he : entry.2.Touches uri
      · exact .inr ⟨[], entry, script, rfl, he, hn⟩
      · exact .inl (List.forall_mem_cons.2 ⟨he, hn⟩)
    · exact .inr ⟨entry :: earlier, last, later, rfl, ht, hl⟩

/-- From no open documents on, a document is open as the last message about it left it. -/
theorem text?_attend_cases (hphase : state.phase = .running) (hempty : state.documents = .empty)
    (hs : StaysOpen script) (exchange : Exchange) (uri : Url) :
    let after := (attend script state exchange).1
    (∃ earlier entry later text, script = earlier ++ entry :: later ∧ entry.2.Sets uri text ∧
        (∀ entry ∈ later, ¬ entry.2.Touches uri) ∧ after.text? uri = some text) ∨
      after.text? uri = none ∧ ((∀ entry ∈ script, ¬ entry.2.Touches uri) ∨
        ∃ earlier entry later, script = earlier ++ entry :: later ∧ entry.2.Closes uri ∧
          ∀ entry ∈ later, ¬ entry.2.Touches uri) := by
  intro after
  rcases exists_last uri script with hn | ⟨earlier, entry, later, rfl, ⟨text, he⟩ | he, hl⟩
  · refine .inr ⟨?_, .inl hn⟩
    rw [text?_attend_of_not_touches hn, State.text?, hempty]
    rfl
  · exact .inl ⟨earlier, entry, later, text, rfl, he, hl,
      text?_attend_of_sets hphase hs he hl exchange⟩
  · exact .inr ⟨text?_attend_of_closes hphase hs he hl exchange,
      .inr ⟨earlier, entry, later, rfl, he, hl⟩⟩

/-- In a running session a document is open with the text of the last message that gave it one,
whatever other messages came and whatever the editor and the portal answered, unless a later one
closed it; a document that no message opened or changed since it was closed is not open. Messages
that are not about a document leave its text as it is, and a request leaves the whole state, with
the settings in force, as it is. -/
theorem documents_follow_messages (hphase : state.phase = .running)
    (hempty : state.documents = .empty) (hs : StaysOpen script) (exchange : Exchange) (uri : Url) :
    let after := (attend script state exchange).1
    (∀ text, after.text? uri = some text ↔
      ∃ earlier entry later, script = earlier ++ entry :: later ∧ entry.2.Sets uri text ∧
        ∀ message ∈ later, ¬ message.2.Touches uri) ∧
    (after.text? uri = none ↔
      ∀ earlier entry later text, script = earlier ++ entry :: later → entry.2.Sets uri text →
        ∃ message ∈ later, message.2.Closes uri) ∧
    (∀ files message state exchange, ¬ message.Touches uri →
      (step files message state exchange).1.2.text? uri = state.text? uri) ∧
    ∀ files message kind state exchange, Method.ofName message.method = .request kind →
      (step files message state exchange).1.2 = state := by
  intro after
  refine ⟨fun text => ⟨fun h => ?_, ?_⟩, ⟨fun h => ?_, fun h => ?_⟩, ?_, ?_⟩
  · rcases text?_attend_cases hphase hempty hs exchange uri with
      ⟨earlier, entry, later, found, hsplit, he, hl, hf⟩ | ⟨hn, -⟩
    · obtain rfl : found = text := Option.some.inj (hf.symm.trans h)
      exact ⟨earlier, entry, later, hsplit, he, hl⟩
    · cases hn.symm.trans h
  · rintro ⟨earlier, entry, later, rfl, he, hl⟩
    exact text?_attend_of_sets hphase hs he hl exchange
  · rintro earlier entry later text rfl he
    -- what comes last behind the text decides: only a close leaves the document without one
    rcases exists_last uri later with hl | ⟨between, last, behind, rfl, ⟨found, hf⟩ | hc, hl⟩
    · cases h.symm.trans (text?_attend_of_sets hphase hs he hl exchange)
    · have hsplit : earlier ++ entry :: (between ++ last :: behind) =
          (earlier ++ entry :: between) ++ last :: behind := by simp
      rw [hsplit] at hs
      have hsome := text?_attend_of_sets hphase hs hf hl exchange
      rw [← hsplit] at hsome
      cases h.symm.trans hsome
    · exact ⟨last, by simp, hc⟩
  · rcases text?_attend_cases hphase hempty hs exchange uri with
      ⟨earlier, entry, later, text, hsplit, he, hl, -⟩ | ⟨hn, -⟩
    · obtain ⟨message, hm, hc⟩ := h earlier entry later text hsplit he
      exact absurd (.inr hc) (hl message hm)
    · exact hn
  · exact fun files message state exchange => text?_step_of_not_touches files exchange
  · exact fun files message kind state exchange hk => gives_step_of_request hk exchange

end Scripts

/-- Two changes of a document. -/
def twoChanges : Value :=
  .record [
    ("textDocument", .record [("uri", .text "file:///work/Run.al"), ("version", .nat 2)]),
    ("contentChanges", .array [.record [("text", .text "var")], .record [("text", .text "begin")]])]

/-- The end of another document. -/
def otherClose : Value :=
  .record [("textDocument", .record [("uri", .text "file:///work/Old.al")])]

/-- A document that was never opened has the last text of its changes, whatever comes behind. -/
theorem documents_follow_messages_unopened :
    let files : Files := .none
    let script : List (Files × Message) :=
      [(files, ⟨"textDocument/didChange", some twoChanges, true⟩),
       (files, ⟨"textDocument/hover", none, false⟩),
       (files, ⟨"textDocument/didClose", some otherClose, true⟩)]
    ∃ uri, Url.ofText? "file:///work/Run.al" = some uri ∧
      (attend script ⟨.running, .initial, .empty⟩ ⟨⟨[], [], [], []⟩, []⟩).1.text? uri =
        some "begin" := by
  intro files script
  let uri : Url := ⟨"file".toList, [], [], some .empty, none,
    .segments ["work".toList, "Run.al".toList], none, none⟩
  have hs : StaysOpen script := by simp [StaysOpen, script]
  have hchanged : changedDocument? twoChanges = some (uri, ["var", "begin"]) := by decide +kernel
  have hclosed : closedDocument? otherClose ≠ some uri := by decide +kernel
  have hlater : ∀ entry ∈ script.tail, ¬ entry.2.Touches uri := by
    refine List.forall_mem_cons.2 ⟨?_, List.forall_mem_singleton.2 ?_⟩
    · rintro (⟨text, h⟩ | h)
      · exact absurd h.method (by decide)
      · exact absurd h.method (by decide)
    · rintro (⟨text, h⟩ | h)
      · exact absurd h.method (by decide)
      · cases h with
        | closed hc => exact hclosed hc
  have htexts := @documents_follow_messages ⟨.running, .initial, .empty⟩ script rfl rfl hs
    ⟨⟨[], [], [], []⟩, []⟩ uri
  exact ⟨uri, by decide +kernel,
    (htexts.1 "begin").2 ⟨[], _, _, rfl, .changed hchanged rfl, hlater⟩⟩

end Server

end AlAssistant
