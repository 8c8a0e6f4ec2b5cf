import AlAssistant.Proofs.Dialogue.Course

/-!
# Entry points of a lookup

A translation is shown, copied or hovered over. Showing and copying do the whole lookup and add
one message when it found something; copying takes the first candidate. A hover makes the first
attempt of the forward lookup and no more, and lists what the lookup would find.
-/
namespace AlAssistant.Dialogue

open AlAssistant.Portal
open AlAssistant.Settings (Translation)

section Attempts
variable {config : Translation} {phrase : String} {direction : Direction} {reply : Reply}

/-- What a reply makes of a search for a product. -/
def Attempt.ofReply (config : Translation) (phrase : String) (direction : Direction)
    (reply : Reply) (product : Nat) : Attempt :=
  match searchUrl config.searchUrl phrase direction (languageNumber config.targetLanguage)
    product with
  | .error error => ⟨product, none, .error error⟩
  | .ok url =>
    ⟨product, some url, match reply with
      | .status code => .error (.status code)
      | .lost cause => .error (.transport cause)
      | .page html => .ok (candidates html direction (candidateLimit config))⟩

theorem Attempt.Made.eq_ofReply {attempt : Attempt}
    (h : attempt.Made config phrase direction reply) :
    attempt = .ofReply config phrase direction reply attempt.product := by
  cases h with
  | unusable he => simp only [ofReply, searchUrl, he]
  | refused hs hr =>
    subst hr
    rw [ofReply, hs]
  | lost hs hr =>
    subst hr
    rw [ofReply, hs]
  | answered hs hr =>
    subst hr
    rw [ofReply, hs]

/-- Settings, phrase, reply and product determine an attempt. -/
theorem Attempt.Made.unique {a b : Attempt} (ha : a.Made config phrase direction reply)
    (hb : b.Made config phrase direction reply) (h : a.product = b.product) : a = b :=
  calc
    a = .ofReply config phrase direction reply a.product := ha.eq_ofReply
    _ = .ofReply config phrase direction reply b.product := by rw [h]
    _ = b := hb.eq_ofReply.symm

theorem Course.Runs.last_of_found {answers : Answers} {course : Course}
    (h : course.Runs config phrase direction answers) (hf : course.first.outcome ≠ .ok []) :
    course.last = course.first := by
  have hs : course.second.isSome ≠ true := fun hs => hf (h.second_iff.1 hs).1
  unfold Course.last
  rw [Option.not_isSome_iff_eq_none.1 hs]
  rfl

end Attempts

section Messages
variable (config : Translation) (phrase : String) (direction : Direction) (exchange : Exchange)

/-- The message that shows candidates, if there are any. -/
def shownMessage (phrase : String) (found : List String) : List Event :=
  if found = [] then [] else [.message .info (phrase ++ ": " ++ " | ".intercalate found)]

/-- The message that names a copied candidate, if there is one. -/
def copiedMessage (found : List String) : List Event :=
  found.head?.toList.map fun first => .message .info ("Copied '" ++ first ++ "' to the clipboard")

theorem showTranslation_eq :
    showTranslation config phrase direction exchange =
      let looked := lookup config phrase direction exchange
      (looked.1, ⟨looked.2.answers, looked.2.events ++ shownMessage phrase looked.1⟩) := by
  unfold showTranslation
  rw [bind_apply]
  generalize lookup config phrase direction exchange = looked
  obtain ⟨found, next⟩ := looked
  cases found with
  | nil => simp [shownMessage, pure_apply]
  | cons first more => simp [shownMessage, bind_apply, pure_apply, tell, record]

theorem copyTranslation_eq :
    copyTranslation config phrase exchange =
      let looked := lookup config phrase .forward exchange
      (looked.1.head?, ⟨looked.2.answers, looked.2.events ++ copiedMessage looked.1⟩) := by
  unfold copyTranslation
  rw [bind_apply]
  generalize lookup config phrase .forward exchange = looked
  obtain ⟨found, next⟩ := looked
  cases found with
  | nil => simp [copiedMessage, pure_apply]
  | cons first more => simp [copiedMessage, bind_apply, pure_apply, tell, record]

end Messages

/-- What asks the portal or the user. -/
def Event.isQuestion : Event → Bool
  | .request _ => true
  | .choice _ _ => true
  | _ => false

/-- The requests and choices among events. -/
def questions (events : List Event) : List Event := events.filter Event.isQuestion

theorem questions_append_shownMessage (events : List Event) (phrase : String)
    (found : List String) :
    questions (events ++ shownMessage phrase found) = questions events := by
  unfold questions shownMessage
  split <;> simp [Event.isQuestion]

theorem questions_append_copiedMessage (events : List Event) (found : List String) :
    questions (events ++ copiedMessage found) = questions events := by
  unfold questions copiedMessage
  cases found <;> simp [Event.isQuestion]

/-- The line of a hover that a candidate is on. -/
def hoverEntry (language candidate : String) : String :=
  "**" ++ language ++ "**: " ++ candidate ++ "\n"

/-- A hover goes as the first attempt of a lookup. -/
theorem hover_of_phrase (config : Translation) {phrase text : String} {position : Position}
    (hp : Phrase.hovered? text position = some phrase) (exchange : Exchange) :
    ∃ attempt : Attempt, attempt.product = config.productId ∧
      attempt.Made config phrase .forward exchange.answers.page ∧
      hover config text position exchange =
        (if attempt.found = [] then none
          else some (hoverText phrase config.targetLanguage attempt.found),
        ⟨attempt.left exchange.answers, exchange.events ++ attempt.events⟩) := by
  obtain ⟨attempt, hi, hm, hs⟩ :=
    exists_search config phrase .forward config.productId exchange
  refine ⟨attempt, hi, hm, ?_⟩
  unfold hover
  rw [hp]
  dsimp only
  rw [bind_apply, hs]
  cases ho : attempt.outcome with
  | error error => simp [pure_apply, Attempt.found, ho, Except.toOption]
  | ok found => cases found <;> simp [pure_apply, Attempt.found, ho, Except.toOption]

/-- Showing, copying and hovering agree with the lookup they start. -/
theorem entry_points_agree (config : Translation) (exchange : Exchange) :
    (∀ phrase direction,
      let looked := lookup config phrase direction exchange
      let shown := showTranslation config phrase direction exchange
      shown.1 = looked.1 ∧ shown.2.answers = looked.2.answers ∧
        shown.2.events = looked.2.events ++ if looked.1 = [] then []
          else [.message .info (phrase ++ ": " ++ " | ".intercalate looked.1)]) ∧
    (∀ phrase,
      let shown := showTranslation config phrase .forward exchange
      let copied := copyTranslation config phrase exchange
      copied.1 = shown.1.head? ∧ copied.2.answers = shown.2.answers ∧
        questions copied.2.events = questions shown.2.events) ∧
    ∀ text position,
      let hovered := hover config text position exchange
      match Phrase.hovered? text position with
      | none => hovered = (none, exchange)
      | some phrase =>
        let looked := lookup config phrase .forward exchange
        ∃ course : Course, course.Runs config phrase .forward exchange.answers ∧
          looked.2.events = exchange.events ++ course.events config phrase ∧
          hovered.2.events = exchange.events ++ course.first.events ∧
          match course.first.outcome with
          | .ok (candidate :: more) =>
            looked.1 = candidate :: more ∧
              hovered.1 = some ("**Translation:** \x60" ++ phrase ++ "\x60\n\n" ++
                String.join (looked.1.map (hoverEntry config.targetLanguage)))
          | _ => hovered.1 = none := by
  refine ⟨fun phrase direction => ?_, fun phrase => ?_, fun text position => ?_⟩
  · rw [showTranslation_eq]
    exact ⟨rfl, rfl, rfl⟩
  · rw [showTranslation_eq, copyTranslation_eq]
    refine ⟨rfl, rfl, ?_⟩
    rw [questions_append_shownMessage, questions_append_copiedMessage]
  · intro hovered
    cases hp : Phrase.hovered? text position with
    | none => simp only [hovered, hover, hp, pure_apply]
    | some phrase =>
      obtain ⟨attempt, hi, hm, hh⟩ := hover_of_phrase config hp exchange
      obtain ⟨course, hr, he, hf⟩ := exists_course config phrase .forward exchange
      obtain rfl : course.first = attempt :=
        hr.first_made.unique hm (hr.first_product.trans hi.symm)
      refine ⟨course, hr, he, by simp only [hovered, hh], ?_⟩
      cases ho : course.first.outcome with
      | error error => simp [hovered, hh, Attempt.found, ho, Except.toOption]
      | ok found =>
        cases found with
        | nil => simp [hovered, hh, Attempt.found, ho, Except.toOption]
        | cons candidate more =>
          have hfound : course.first.found = candidate :: more := by
            simp [Attempt.found, ho, Except.toOption]
          have hl : (lookup config phrase .forward exchange).1 = candidate :: more := by
            rw [hf, hr.last_of_found (by simp [ho]), hfound]
          refine ⟨hl, ?_⟩
          rw [hl]
          simp only [hovered, hh, hfound]
          rfl

end AlAssistant.Dialogue
