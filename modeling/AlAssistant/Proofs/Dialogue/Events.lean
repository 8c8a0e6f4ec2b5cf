import AlAssistant.Dialogue.Basic

/-!
# What a dialogue records

A dialogue hands the answers to come and the events so far on from one question to the next, and
only ever adds events. If all events of its parts are of a kind, its own events are; what a part
answers may be used for the parts behind it. Where the events do not matter, it is enough to say
what a dialogue gives.
-/
namespace AlAssistant.Dialogue

section Running
variable {α β : Type} {exchange : Exchange}

theorem pure_apply (a : α) (exchange : Exchange) :
    (pure a : Dialogue α) exchange = (a, exchange) := rfl

theorem bind_apply (dialogue : Dialogue α) (next : α → Dialogue β) (exchange : Exchange) :
    (dialogue >>= next) exchange = next (dialogue exchange).1 (dialogue exchange).2 := rfl

theorem fetch_of_cons {url : Url} {reply : Reply} {pages : List Reply}
    (h : exchange.answers.pages = reply :: pages) :
    fetch url exchange =
      (reply, ⟨{ exchange.answers with pages := pages }, exchange.events ++ [.request url]⟩) := by
  simp [fetch, record, h]

theorem choose_of_cons {text : String} {labels : List String} {choice : Option String}
    {choices : List (Option String)} (h : exchange.answers.choices = choice :: choices) :
    choose text labels exchange =
      (choice,
        ⟨{ exchange.answers with choices := choices },
          exchange.events ++ [.choice text labels]⟩) := by
  simp [choose, record, h]

end Running

section Recording
variable (exchange : Exchange)

@[simp] theorem events_fetch (url : Url) :
    (fetch url exchange).2.events = exchange.events ++ [.request url] := by
  cases h : exchange.answers.pages <;> simp [fetch, record, h]

@[simp] theorem events_tell (kind : MessageKind) (text : String) :
    (tell kind text exchange).2.events = exchange.events ++ [.message kind text] := rfl

@[simp] theorem events_log (kind : MessageKind) (text : String) :
    (log kind text exchange).2.events = exchange.events ++ [.log kind text] := rfl

@[simp] theorem events_choose (text : String) (labels : List String) :
    (choose text labels exchange).2.events = exchange.events ++ [.choice text labels] := by
  cases h : exchange.answers.choices <;> simp [choose, record, h]

@[simp] theorem events_applyEdit (uri : Url) (edit : TextEdit) :
    (applyEdit uri edit exchange).2.events = exchange.events ++ [.edit uri edit] := by
  cases h : exchange.answers.edits <;> simp [applyEdit, record, h]

@[simp] theorem events_select (uri : Url) (range : Range) :
    (select uri range exchange).2.events = exchange.events ++ [.selection uri range] := by
  cases h : exchange.answers.selections <;> simp [select, record, h]

end Recording

section Yielding
variable {α β : Type} {allowed : Event → Prop} {post : α → Prop} {after : β → Prop}

/-- Whatever it is answered, all events of the dialogue are allowed and its result satisfies
`post`. -/
def Yields (allowed : Event → Prop) (post : α → Prop) (dialogue : Dialogue α) : Prop :=
  ∀ exchange, post (dialogue exchange).1 ∧
    ∃ events, (dialogue exchange).2.events = exchange.events ++ events ∧
      ∀ event ∈ events, allowed event

theorem Yields.mono {post' : α → Prop} {dialogue : Dialogue α} (h : Yields allowed post dialogue)
    (hp : ∀ a, post a → post' a) : Yields allowed post' dialogue :=
  fun exchange => (h exchange).imp_left (hp _)

theorem yields_pure {a : α} (h : post a) : Yields allowed post (pure a : Dialogue α) :=
  fun exchange => ⟨h, [], (List.append_nil exchange.events).symm, by simp⟩

theorem yields_bind {dialogue : Dialogue α} {next : α → Dialogue β}
    (hd : Yields allowed post dialogue) (hn : ∀ a, post a → Yields allowed after (next a)) :
    Yields allowed after (dialogue >>= next) := by
  intro exchange
  obtain ⟨hp, events, he, ha⟩ := hd exchange
  obtain ⟨hq, more, hm, hb⟩ := hn _ hp (dialogue exchange).2
  refine ⟨hq, events ++ more, ?_, ?_⟩
  · rw [bind_apply, hm, he, List.append_assoc]
  · exact fun event h => (List.mem_append.1 h).elim (ha event) (hb event)

/-- What follows from an answer without a question adds no event. -/
theorem yields_bind_pure {dialogue : Dialogue α} {value : α → β}
    (h : Yields allowed (fun _ => True) dialogue) :
    Yields allowed (fun _ => True) (dialogue >>= fun a => pure (value a)) :=
  yields_bind h fun _ _ => yields_pure trivial

theorem yields_of_event {dialogue : Dialogue α} {event : Event}
    (he : ∀ exchange, (dialogue exchange).2.events = exchange.events ++ [event])
    (ha : allowed event) : Yields allowed (fun _ => True) dialogue :=
  fun exchange => ⟨trivial, [event], he exchange, by simpa using ha⟩

theorem yields_fetch {url : Url} (ha : allowed (.request url)) :
    Yields allowed (fun _ => True) (fetch url) :=
  yields_of_event (fun exchange => events_fetch exchange url) ha

theorem yields_tell {kind : MessageKind} {text : String} (ha : allowed (.message kind text)) :
    Yields allowed (fun _ => True) (tell kind text) :=
  yields_of_event (fun exchange => events_tell exchange kind text) ha

theorem yields_log {kind : MessageKind} {text : String} (ha : allowed (.log kind text)) :
    Yields allowed (fun _ => True) (log kind text) :=
  yields_of_event (fun exchange => events_log exchange kind text) ha

theorem yields_choose {text : String} {labels : List String} (ha : allowed (.choice text labels)) :
    Yields allowed (fun _ => True) (choose text labels) :=
  yields_of_event (fun exchange => events_choose exchange text labels) ha

theorem yields_applyEdit {uri : Url} {edit : TextEdit} (ha : allowed (.edit uri edit)) :
    Yields allowed (fun _ => True) (applyEdit uri edit) :=
  yields_of_event (fun exchange => events_applyEdit exchange uri edit) ha

theorem yields_select {uri : Url} {range : Range} (ha : allowed (.selection uri range)) :
    Yields allowed (fun _ => True) (select uri range) :=
  yields_of_event (fun exchange => events_select exchange uri range) ha

end Yielding

section Giving
variable {α β : Type} {post : α → Prop} {after : β → Prop}

/-- Whatever it is answered, the result of the dialogue satisfies `post`. -/
def Gives (post : α → Prop) (dialogue : Dialogue α) : Prop :=
  ∀ exchange, post (dialogue exchange).1

theorem Gives.mono {post' : α → Prop} {dialogue : Dialogue α} (h : Gives post dialogue)
    (hp : ∀ a, post a → post' a) : Gives post' dialogue :=
  fun exchange => hp _ (h exchange)

theorem gives_pure {a : α} (h : post a) : Gives post (pure a : Dialogue α) :=
  fun _ => h

theorem gives_bind {dialogue : Dialogue α} {next : α → Dialogue β}
    (hd : Gives post dialogue) (hn : ∀ a, post a → Gives after (next a)) :
    Gives after (dialogue >>= next) :=
  fun exchange => hn _ (hd exchange) _

/-- What is given for every answer does not depend on how it is asked for. -/
theorem gives_bind_of_forall {dialogue : Dialogue α} {next : α → Dialogue β}
    (hn : ∀ a, Gives after (next a)) : Gives after (dialogue >>= next) :=
  fun _ => hn _ _

end Giving

end AlAssistant.Dialogue
