import AlAssistant.Proofs.Dialogue.Lookup
import AlAssistant.Proofs.Portal.Candidates

/-!
# The course of a lookup

A lookup attempts one search or two. Between them stands one choice, and at the end at most one
message. The attempts tell everything: the first decides whether there is a choice, the label that
is chosen decides whether there is a second, and the last one decides on the message and the
result. Nothing is asked of the settings here; even the address may be unusable.
-/
namespace AlAssistant.Dialogue

open AlAssistant.Portal
open AlAssistant.Settings (Translation Product)

namespace Answers

/-- The reply to the next request. -/
def page (answers : Answers) : Reply := answers.pages.headD (.status 503)

/-- The label that is chosen next, nothing if the choice is dismissed. -/
def choice? (answers : Answers) : Option String := answers.choices.headD none

/-- The answers that are left when a request has been answered. -/
def afterPage (answers : Answers) : Answers := { answers with pages := answers.pages.tail }

end Answers

/-- A search for a product: the request it makes, if any, and what comes of it. -/
structure Attempt where
  product : Nat
  request : Option Url
  outcome : Except LookupError (List String)

namespace Attempt

/-- How a search goes with a reply to come. An address that cannot be used is not asked. -/
inductive Made (config : Translation) (phrase : String) (direction : Direction) (reply : Reply) :
    Attempt → Prop
  | unusable {product : Nat} {cause : Url.Error} :
      Url.ofText config.searchUrl = .error cause →
      Made config phrase direction reply
        ⟨product, none, .error (.invalidUrl config.searchUrl cause)⟩
  | refused {product code : Nat} {url : Url} :
      IsSearch config phrase direction product url → reply = .status code →
      Made config phrase direction reply ⟨product, some url, .error (.status code)⟩
  | lost {product : Nat} {url : Url} {cause : String} :
      IsSearch config phrase direction product url → reply = .lost cause →
      Made config phrase direction reply ⟨product, some url, .error (.transport cause)⟩
  | answered {product : Nat} {url : Url} {html : String} :
      IsSearch config phrase direction product url → reply = .page html →
      Made config phrase direction reply
        ⟨product, some url, .ok (candidates html direction (candidateLimit config))⟩

def events (attempt : Attempt) : List Event := attempt.request.toList.map .request

/-- The message that tells why an attempt failed. -/
def failure (attempt : Attempt) : List Event :=
  match attempt.outcome with
  | .error error => [.message .error (failureText error)]
  | .ok _ => []

/-- The candidates that an attempt found, none if it failed. -/
def found (attempt : Attempt) : List String := attempt.outcome.toOption.getD []

/-- The answers that an attempt leaves. -/
def left (attempt : Attempt) (answers : Answers) : Answers :=
  match attempt.request with
  | none => answers
  | some _ => answers.afterPage

end Attempt

/-- The attempts of a lookup, the second one with the product that was chosen for it. -/
structure Course where
  first : Attempt
  second : Option (Product × Attempt)

namespace Course

def attempts (course : Course) : List Attempt := course.first :: course.second.toList.map (·.2)

def last (course : Course) : Attempt := (course.second.map (·.2)).getD course.first

/-- The user has to choose when the first attempt succeeded and found nothing. -/
def prompts (config : Translation) (phrase : String) (course : Course) : List Event :=
  match course.first.outcome with
  | .ok [] => [.choice (fallbackQuestion phrase) (config.fallbackProducts.map (·.label))]
  | _ => []

/-- The message that tells that the second attempt found nothing. -/
def nothingFound (phrase : String) (course : Course) : List Event :=
  match course.second with
  | none => []
  | some (product, attempt) =>
    match attempt.outcome with
    | .ok [] => [.message .info (nothingFoundText phrase product)]
    | _ => []

/-- All that a lookup does to the world outside, in order. -/
def events (config : Translation) (phrase : String) (course : Course) : List Event :=
  course.first.events ++ course.prompts config phrase ++
    course.second.toList.flatMap (·.2.events) ++ course.last.failure ++ course.nothingFound phrase

end Course

/-- The first product with the label that is chosen. -/
def IsChosen (config : Translation) (answers : Answers) (product : Product) : Prop :=
  answers.choice? = some product.label ∧
    ∃ earlier later, config.fallbackProducts = earlier ++ product :: later ∧
      ∀ other ∈ earlier, other.label ≠ product.label

/-- How a lookup goes with these answers to come. -/
structure Course.Runs (config : Translation) (phrase : String) (direction : Direction)
    (answers : Answers) (course : Course) : Prop where
  first_product : course.first.product = config.productId
  first_made : course.first.Made config phrase direction answers.page
  second_iff : course.second.isSome = true ↔ course.first.outcome = .ok [] ∧
    ∃ label ∈ config.fallbackProducts.map (·.label), answers.choice? = some label
  second_made : ∀ product attempt, course.second = some (product, attempt) →
    IsChosen config answers product ∧ attempt.product = product.id ∧
      attempt.Made config phrase direction answers.afterPage.page

section Choosing
variable {config : Translation} {answers : Answers} {product : Product}

/-- The product that the choice is for, if it is for any. -/
def chosen? (config : Translation) (answers : Answers) : Option Product :=
  answers.choice?.bind fun label => config.fallbackProducts.find? (·.label == label)

theorem chosen?_eq_some_iff : chosen? config answers = some product ↔
    IsChosen config answers product := by
  unfold chosen? IsChosen
  rw [Option.bind_eq_some_iff]
  constructor
  · rintro ⟨label, hl, hf⟩
    obtain ⟨hm, earlier, later, hs, hn⟩ := List.find?_eq_some_iff_append.1 hf
    obtain rfl : product.label = label := by simpa using hm
    exact ⟨hl, earlier, later, hs, by simpa using hn⟩
  · rintro ⟨hl, earlier, later, hs, hn⟩
    refine ⟨product.label, hl, List.find?_eq_some_iff_append.2 ⟨by simp, earlier, later, hs, ?_⟩⟩
    simpa using hn

theorem isSome_chosen?_iff : (chosen? config answers).isSome = true ↔
    ∃ label ∈ config.fallbackProducts.map (·.label), answers.choice? = some label := by
  unfold chosen?
  cases answers.choice? with
  | none => simp
  | some label => simp

end Choosing

section Asking

@[simp] theorem Answers.choice?_afterPage (answers : Answers) :
    answers.afterPage.choice? = answers.choice? := rfl

theorem fetch_eq (url : Url) (exchange : Exchange) : fetch url exchange =
    (exchange.answers.page, ⟨exchange.answers.afterPage, exchange.events ++ [.request url]⟩) := by
  obtain ⟨⟨pages, choices, edits, selections⟩, events⟩ := exchange
  cases pages with
  | nil => rfl
  | cons reply pages => rfl

theorem choose_eq (text : String) (labels : List String) (exchange : Exchange) :
    ∃ next, choose text labels exchange = (exchange.answers.choice?, next) ∧
      next.answers.page = exchange.answers.page ∧
      next.events = exchange.events ++ [.choice text labels] := by
  obtain ⟨⟨pages, choices, edits, selections⟩, events⟩ := exchange
  cases choices with
  | nil => exact ⟨_, rfl, rfl, rfl⟩
  | cons choice choices => exact ⟨_, rfl, rfl, rfl⟩

end Asking

section Attempts
variable {config : Translation} {phrase : String} {direction : Direction} {attempt : Attempt}

theorem Attempt.Made.requestedProduct? {reply : Reply}
    (h : attempt.Made config phrase direction reply) {url : Url} (hu : attempt.request = some url) :
    requestedProduct? url = some (toString attempt.product) := by
  cases h with
  | unusable _ => cases hu
  | refused hs _ =>
    obtain rfl := Option.some.inj hu
    exact requestedProduct?_searchUrl hs
  | lost hs _ =>
    obtain rfl := Option.some.inj hu
    exact requestedProduct?_searchUrl hs
  | answered hs _ =>
    obtain rfl := Option.some.inj hu
    exact requestedProduct?_searchUrl hs

theorem Attempt.Made.left_of_ok {reply : Reply} {found : List String} {answers : Answers}
    (h : attempt.Made config phrase direction reply) (ho : attempt.outcome = .ok found) :
    attempt.left answers = answers.afterPage := by
  cases h with
  | unusable _ => cases ho
  | refused _ _ => cases ho
  | lost _ _ => cases ho
  | answered _ _ => rfl

theorem Attempt.Made.found_bounds {reply : Reply} (h : attempt.Made config phrase direction reply) :
    attempt.found.length ≤ candidateLimit config ∧ attempt.found.Nodup := by
  cases h with
  | unusable _ => exact ⟨Nat.zero_le _, List.nodup_nil⟩
  | refused _ _ => exact ⟨Nat.zero_le _, List.nodup_nil⟩
  | lost _ _ => exact ⟨Nat.zero_le _, List.nodup_nil⟩
  | answered _ _ => exact ⟨length_candidates_le _ _ _, nodup_candidates _ _ _⟩

variable (config phrase direction)

theorem exists_search (product : Nat) (exchange : Exchange) :
    ∃ attempt : Attempt, attempt.product = product ∧
      attempt.Made config phrase direction exchange.answers.page ∧
      search config phrase direction product (candidateLimit config) exchange =
        (attempt.outcome, ⟨attempt.left exchange.answers, exchange.events ++ attempt.events⟩) := by
  cases hs : searchUrl config.searchUrl phrase direction (languageNumber config.targetLanguage)
      product with
  | error error =>
    obtain ⟨cause, hu, rfl⟩ := searchUrl_eq_error_iff.1 hs
    refine ⟨_, rfl, .unusable hu, ?_⟩
    simp [search, hs, pure_apply, Attempt.left, Attempt.events]
  | ok url =>
    rw [search_eq_fetch hs, bind_apply, fetch_eq]
    cases hr : exchange.answers.page with
    | status code => exact ⟨_, rfl, .refused hs rfl, rfl⟩
    | lost cause => exact ⟨_, rfl, .lost hs rfl, rfl⟩
    | page html => exact ⟨_, rfl, .answered hs rfl, rfl⟩

theorem exists_searchOrTell (product : Nat) (exchange : Exchange) :
    ∃ attempt : Attempt, attempt.product = product ∧
      attempt.Made config phrase direction exchange.answers.page ∧
      searchOrTell config phrase direction product exchange = (attempt.outcome.toOption,
        ⟨attempt.left exchange.answers, exchange.events ++ attempt.events ++ attempt.failure⟩) := by
  obtain ⟨attempt, hp, hm, hs⟩ := exists_search config phrase direction product exchange
  refine ⟨attempt, hp, hm, ?_⟩
  cases ho : attempt.outcome with
  | error error =>
    rw [searchOrTell_of_error (hs.trans (by rw [ho])), Attempt.failure, ho]
    rfl
  | ok found =>
    rw [searchOrTell_of_ok (hs.trans (by rw [ho])), Attempt.failure, ho, List.append_nil]
    rfl

theorem exists_searchChosen (product : Product) (first : Attempt) (exchange : Exchange) :
    ∃ attempt : Attempt, attempt.product = product.id ∧
      attempt.Made config phrase direction exchange.answers.page ∧
      let course : Course := ⟨first, some (product, attempt)⟩
      (searchChosen config phrase direction product exchange).1 = attempt.found ∧
        (searchChosen config phrase direction product exchange).2.events =
          exchange.events ++ attempt.events ++ attempt.failure ++ course.nothingFound phrase := by
  obtain ⟨attempt, hp, hm, hs⟩ := exists_searchOrTell config phrase direction product.id exchange
  refine ⟨attempt, hp, hm, ?_⟩
  dsimp only
  unfold searchChosen
  rw [bind_apply, hs]
  cases ho : attempt.outcome with
  | error error => simp [Except.toOption, pure_apply, ho, Course.nothingFound, Attempt.found]
  | ok found =>
    cases found with
    | nil =>
      simp only [Course.nothingFound, Attempt.found, ho]
      exact ⟨rfl, rfl⟩
    | cons candidate more =>
      simp [Except.toOption, pure_apply, ho, Course.nothingFound, Attempt.found]

/-- Behind the choice a lookup is over, or it goes on with the product that was chosen. -/
theorem exists_searchFallback (exchange : Exchange) :
    ∃ next : Exchange, next.answers.page = exchange.answers.page ∧
      next.events = exchange.events ++
        [.choice (fallbackQuestion phrase) (config.fallbackProducts.map (·.label))] ∧
      searchFallback config phrase direction exchange =
        match chosen? config exchange.answers with
        | none => ([], next)
        | some product => searchChosen config phrase direction product next := by
  obtain ⟨next, hc, hp, he⟩ := choose_eq (fallbackQuestion phrase)
    (config.fallbackProducts.map (·.label)) exchange
  refine ⟨next, hp, he, ?_⟩
  unfold searchFallback chosen?
  rw [bind_apply, hc]
  cases exchange.answers.choice? with
  | none => rfl
  | some label =>
    dsimp only [Option.bind_some]
    cases config.fallbackProducts.find? (·.label == label) with
    | none => rfl
    | some product => rfl

/-- The part of a lookup behind a first attempt that found nothing. -/
theorem exists_second {first : Attempt} (ho : first.outcome = .ok []) (exchange : Exchange) :
    ∃ second : Option (Product × Attempt),
      (second.isSome = true ↔
        ∃ label ∈ config.fallbackProducts.map (·.label), exchange.answers.choice? = some label) ∧
      (∀ product attempt, second = some (product, attempt) →
        IsChosen config exchange.answers product ∧ attempt.product = product.id ∧
          attempt.Made config phrase direction exchange.answers.page) ∧
      let course : Course := ⟨first, second⟩
      (searchFallback config phrase direction exchange).1 = course.last.found ∧
        (searchFallback config phrase direction exchange).2.events =
          exchange.events ++ course.prompts config phrase ++
            course.second.toList.flatMap (·.2.events) ++ course.last.failure ++
            course.nothingFound phrase := by
  obtain ⟨next, hp, he, hs⟩ := exists_searchFallback config phrase direction exchange
  rw [hs, ← isSome_chosen?_iff]
  cases hc : chosen? config exchange.answers with
  | none =>
    refine ⟨none, by simp, by simp, ?_⟩
    simp [he, ho, Course.last, Course.prompts, Course.nothingFound, Attempt.found,
      Attempt.failure, Except.toOption]
  | some product =>
    obtain ⟨attempt, ha, hm, hf, hev⟩ :=
      exists_searchChosen config phrase direction product first next
    rw [hp] at hm
    refine ⟨some (product, attempt), by simp, ?_, hf, ?_⟩
    · rintro _ _ ⟨⟩
      exact ⟨chosen?_eq_some_iff.1 hc, ha, hm⟩
    · exact hev.trans (by simp [he, ho, Course.last, Course.prompts])

section Alone
variable {config phrase direction} {first : Attempt}

/-- An attempt that failed or found something is a course by itself. -/
theorem Course.runs_alone {answers : Answers} (hp : first.product = config.productId)
    (hm : first.Made config phrase direction answers.page) (ho : first.outcome ≠ .ok []) :
    Course.Runs config phrase direction answers ⟨first, none⟩ where
  first_product := hp
  first_made := hm
  second_iff := iff_of_false Bool.false_ne_true fun h => ho h.1
  second_made := fun _ _ h => by contradiction

theorem Course.events_alone (ho : first.outcome ≠ .ok []) :
    Course.events config phrase ⟨first, none⟩ = first.events ++ first.failure := by
  have hp : Course.prompts config phrase ⟨first, none⟩ = [] := by
    unfold Course.prompts
    split
    · next h => exact absurd h ho
    · rfl
  rw [Course.events, hp]
  simp [Course.last, Course.nothingFound]

end Alone

theorem exists_course (exchange : Exchange) :
    ∃ course : Course, course.Runs config phrase direction exchange.answers ∧
      (lookup config phrase direction exchange).2.events =
        exchange.events ++ course.events config phrase ∧
      (lookup config phrase direction exchange).1 = course.last.found := by
  obtain ⟨first, hp, hm, hs⟩ :=
    exists_searchOrTell config phrase direction config.productId exchange
  unfold lookup
  rw [bind_apply, hs]
  cases ho : first.outcome with
  | error error =>
    have hne : first.outcome ≠ .ok [] := by simp [ho]
    refine ⟨_, Course.runs_alone hp hm hne, ?_, ?_⟩
    · rw [Course.events_alone hne, ← List.append_assoc]
      rfl
    · simp [Except.toOption, pure_apply, Course.last, Attempt.found, ho]
  | ok found =>
    cases found with
    | nil =>
      obtain ⟨second, hi, hsec, hr, hev⟩ := exists_second config phrase direction ho
        ⟨first.left exchange.answers, exchange.events ++ first.events ++ first.failure⟩
      rw [hm.left_of_ok ho] at *
      refine ⟨⟨first, second⟩, ⟨hp, hm, ?_, hsec⟩, ?_, hr⟩
      · simpa [ho] using hi
      · exact hev.trans (by simp [Course.events, Attempt.failure, ho])
    | cons candidate more =>
      have hne : first.outcome ≠ .ok [] := by simp [ho]
      refine ⟨_, Course.runs_alone hp hm hne, ?_, ?_⟩
      · rw [Course.events_alone hne, ← List.append_assoc]
        rfl
      · simp [Except.toOption, pure_apply, Course.last, Attempt.found, ho]

theorem Course.last_mem_attempts (course : Course) : course.last ∈ course.attempts := by
  obtain ⟨first, second⟩ := course
  cases second with
  | none => exact List.mem_cons_self
  | some chosen => exact List.mem_cons_of_mem first List.mem_cons_self

variable {config phrase direction} in
theorem Course.Runs.exists_made {answers : Answers} {course : Course}
    (h : course.Runs config phrase direction answers) (hm : attempt ∈ course.attempts) :
    ∃ reply, attempt.Made config phrase direction reply := by
  rcases List.mem_cons.1 hm with rfl | hm
  · exact ⟨_, h.first_made⟩
  · obtain ⟨⟨product, second⟩, hs, rfl⟩ := List.mem_map.1 hm
    exact ⟨_, (h.second_made product second (Option.mem_toList.1 hs)).2.2⟩

/-- Whatever the settings and the answers are, a lookup follows a course: it does what the attempts
of the course ask for, and nothing else. Each request is for the product of its attempt. The result
is what the last attempt found, distinct candidates up to the limit. -/
theorem lookup_follows_course (exchange : Exchange) :
    let outcome := lookup config phrase direction exchange
    ∃ course : Course, course.Runs config phrase direction exchange.answers ∧
      outcome.2.events = exchange.events ++ course.events config phrase ∧
      outcome.1 = course.last.found ∧
      (∀ attempt ∈ course.attempts, ∀ url, attempt.request = some url →
        requestedProduct? url = some (toString attempt.product)) ∧
      outcome.1.length ≤ max 1 config.maxTranslations ∧ outcome.1.Nodup := by
  intro outcome
  obtain ⟨course, hr, he, hf⟩ := exists_course config phrase direction exchange
  obtain ⟨reply, hm⟩ := hr.exists_made course.last_mem_attempts
  have hb := hm.found_bounds
  rw [← hf] at hb
  refine ⟨course, hr, he, hf, ?_, hb⟩
  intro attempt ha url hu
  obtain ⟨_, hm⟩ := hr.exists_made ha
  exact hm.requestedProduct? hu

end Attempts

end AlAssistant.Dialogue
