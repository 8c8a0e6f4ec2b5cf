import AlAssistant.Proofs.Dialogue.Events
import AlAssistant.Proofs.Portal.SearchUrl
import AlAssistant.Proofs.Settings.InForce

/-!
# Lookups with usable settings

With an address that can be searched, every search makes its request, and only the request can
make it fail. With products that can be read, every choice that is offered can be made.
-/
namespace AlAssistant.Dialogue

open AlAssistant.Portal
open AlAssistant.Settings (Translation Product IsSearchAddress IsReadable)

/-- What lookups need of their settings. -/
structure IsUsable (config : Translation) : Prop where
  address : IsSearchAddress config.searchUrl
  products : config.fallbackProducts ≠ []
  readable : ∀ product ∈ config.fallbackProducts, IsReadable product.label

theorem isUsable_of_isValid {settings : Settings} (h : settings.isValid = true) :
    IsUsable settings.translation := by
  obtain ⟨-, ha, hp, hr⟩ := Settings.isValid_iff.1 h
  exact ⟨ha, hp, hr⟩

section Search
variable {config : Translation} {phrase : String} {direction : Direction} {product limit : Nat}
  {url : Url}

/-- The URL asks for a phrase in a product. -/
def IsSearch (config : Translation) (phrase : String) (direction : Direction) (product : Nat)
    (url : Url) : Prop :=
  searchUrl config.searchUrl phrase direction (languageNumber config.targetLanguage) product =
    .ok url

theorem exists_isSearch (h : IsSearchAddress config.searchUrl) (phrase : String)
    (direction : Direction) (product : Nat) :
    ∃ url, IsSearch config phrase direction product url := by
  obtain ⟨parsed, hp, _⟩ := h
  exact ⟨_, searchUrl_eq_ok_iff.2 ⟨parsed, hp, rfl⟩⟩

theorem search_eq_fetch (h : IsSearch config phrase direction product url) :
    search config phrase direction product limit = do
      match ← fetch url with
      | .status code => return .error (.status code)
      | .lost cause => return .error (.transport cause)
      | .page html => return .ok (candidates html direction limit) := by
  unfold search
  split
  · next error he => exact absurd (he.symm.trans h) (by simp)
  · next found he =>
    obtain rfl := Except.ok.inj (he.symm.trans h)
    rfl

theorem events_search (h : IsSearch config phrase direction product url) (exchange : Exchange) :
    (search config phrase direction product limit exchange).2.events =
      exchange.events ++ [.request url] := by
  rw [search_eq_fetch h, bind_apply, ← events_fetch]
  cases (fetch url exchange).1 <;> rfl

/-- The search for a chosen product, whose result is final. -/
def searchChosen (config : Translation) (phrase : String) (direction : Direction)
    (product : Product) : Dialogue (List String) := do
  match ← searchOrTell config phrase direction product.id with
  | none => return []
  | some found =>
    if found.isEmpty then tell .info (nothingFoundText phrase product)
    return found

/-- A hover over a phrase asks the portal, and does nothing else. -/
theorem events_hover (h : IsUsable config) {text : String} {position : Position}
    (hp : Phrase.hovered? text position = some phrase) (exchange : Exchange) :
    ∃ url, IsSearch config phrase .forward config.productId url ∧
      (hover config text position exchange).2.events = exchange.events ++ [.request url] := by
  obtain ⟨url, hu⟩ := exists_isSearch h.address phrase .forward config.productId
  have he : (search config phrase .forward config.productId (candidateLimit config)
      exchange).2.events = _ := events_search hu exchange
  refine ⟨url, hu, ?_⟩
  unfold hover
  rw [hp]
  dsimp only
  rw [bind_apply, ← he]
  cases (search config phrase .forward config.productId (candidateLimit config) exchange).1 with
  | error error => rfl
  | ok found =>
    dsimp only
    split <;> rfl

end Search

/-- The text that tells why a lookup failed. -/
def failureText (error : LookupError) : String := "Translation lookup failed: " ++ error.message

section Telling
variable {config : Translation} {phrase : String} {direction : Direction} {product : Nat}
  {exchange next : Exchange}

theorem searchOrTell_of_ok {found : List String}
    (h : search config phrase direction product (candidateLimit config) exchange =
      (.ok found, next)) :
    searchOrTell config phrase direction product exchange = (some found, next) := by
  unfold searchOrTell
  rw [bind_apply, h]
  rfl

theorem searchOrTell_of_error {error : LookupError}
    (h : search config phrase direction product (candidateLimit config) exchange =
      (.error error, next)) :
    searchOrTell config phrase direction product exchange =
      (none, (tell .error (failureText error) next).2) := by
  unfold searchOrTell
  rw [bind_apply, h]
  rfl

end Telling

theorem head?_failureText (error : LookupError) :
    (failureText error).toList.head? = some 'T' := by
  unfold failureText
  rw [String.toList_append]
  rfl

/-- The failure is one of the request and not of the address. -/
def IsOfRequest (error : LookupError) : Prop := ∀ url cause, error ≠ .invalidUrl url cause

theorem head?_message_of_isOfRequest {error : LookupError} (h : IsOfRequest error) :
    error.message.toList.head? = some 'T' := by
  cases error with
  | status code =>
    unfold LookupError.message
    rw [String.toList_append]
    rfl
  | transport cause =>
    unfold LookupError.message
    rw [String.toList_append]
    rfl
  | invalidUrl url cause => exact absurd rfl (h url cause)

theorem head?_message_invalidUrl (url : String) (cause : Url.Error) :
    (LookupError.invalidUrl url cause).message.toList.head? = some 'I' := by
  unfold LookupError.message
  simp only [String.toList_append, List.append_assoc]
  rfl

/-- The messages differ in their first letters already. -/
theorem failureText_ne_invalidUrl {error : LookupError} (h : IsOfRequest error) (url : String)
    (cause : Url.Error) : failureText error ≠ failureText (.invalidUrl url cause) := by
  unfold failureText
  rw [Ne, String.append_right_inj]
  intro hm
  have ht := head?_message_of_isOfRequest h
  rw [hm, head?_message_invalidUrl] at ht
  contradiction

/-- An event that a session with usable settings may record: a choice has labels that can be
read, and no message blames the address. -/
def Event.IsSound : Event → Prop
  | .choice _ labels => labels ≠ [] ∧ ∀ label ∈ labels, IsReadable label
  | .message .error text => ∀ url cause, text ≠ failureText (.invalidUrl url cause)
  | _ => True

section Yields
variable {config : Translation} {phrase : String} {direction : Direction} {product limit : Nat}

/-- Only the request can make a search fail: with a status, or on the way. -/
theorem yields_search (h : IsUsable config) :
    Yields Event.IsSound (fun found => ∀ error, found = .error error → IsOfRequest error)
      (search config phrase direction product limit) := by
  -- the address was checked, so only the fetch is left to fail
  obtain ⟨url, hu⟩ := exists_isSearch h.address phrase direction product
  rw [search_eq_fetch hu]
  refine yields_bind (yields_fetch trivial) fun reply _ => ?_
  cases reply with
  | status code =>
    refine yields_pure fun error he => ?_
    rw [← Except.error.inj he]
    exact fun _ _ => LookupError.noConfusion
  | lost cause =>
    refine yields_pure fun error he => ?_
    rw [← Except.error.inj he]
    exact fun _ _ => LookupError.noConfusion
  | page html => exact yields_pure fun error he => by contradiction

theorem yields_searchOrTell (h : IsUsable config) :
    Yields Event.IsSound (fun _ => True) (searchOrTell config phrase direction product) := by
  refine yields_bind (yields_search h) fun found hf => ?_
  cases found with
  | ok found => exact yields_pure trivial
  | error error => exact yields_bind_pure (yields_tell (failureText_ne_invalidUrl (hf error rfl)))

theorem yields_searchFallback (h : IsUsable config) :
    Yields Event.IsSound (fun _ => True) (searchFallback config phrase direction) := by
  have hl : Event.IsSound
      (.choice (fallbackQuestion phrase) (config.fallbackProducts.map (·.label))) := by
    refine ⟨by simpa using h.products, fun label hm => ?_⟩
    obtain ⟨product, hp, rfl⟩ := List.mem_map.1 hm
    exact h.readable product hp
  refine yields_bind (yields_choose hl) fun choice _ => ?_
  cases choice with
  | none => exact yields_pure trivial
  | some choice =>
    dsimp only
    split
    · exact yields_pure trivial
    · next product _ =>
      refine yields_bind (yields_searchOrTell h) fun found _ => ?_
      cases found with
      | none => exact yields_pure trivial
      | some found =>
        dsimp only
        split
        · exact yields_bind_pure (yields_tell trivial)
        · exact yields_pure trivial

theorem yields_lookup (h : IsUsable config) :
    Yields Event.IsSound (fun _ => True) (lookup config phrase direction) := by
  refine yields_bind (yields_searchOrTell h) fun found _ => ?_
  cases found with
  | none => exact yields_pure trivial
  | some found =>
    dsimp only
    split
    · exact yields_searchFallback h
    · exact yields_pure trivial

theorem yields_showTranslation (h : IsUsable config) :
    Yields Event.IsSound (fun _ => True) (showTranslation config phrase direction) := by
  refine yields_bind (yields_lookup h) fun found _ => ?_
  dsimp only
  split
  · exact yields_bind_pure (yields_tell trivial)
  · exact yields_pure trivial

theorem yields_copyTranslation (h : IsUsable config) :
    Yields Event.IsSound (fun _ => True) (copyTranslation config phrase) := by
  refine yields_bind (yields_lookup h) fun found _ => ?_
  cases found with
  | nil => exact yields_pure trivial
  | cons first more => exact yields_bind_pure (yields_tell trivial)

theorem yields_hover (h : IsUsable config) {text : String} {position : Position} :
    Yields Event.IsSound (fun _ => True) (hover config text position) := by
  unfold hover
  split
  · exact yields_pure trivial
  · refine yields_bind (yields_search h) fun found _ => ?_
    cases found with
    | error error => exact yields_pure trivial
    | ok found =>
      dsimp only
      split
      · exact yields_pure trivial
      · exact yields_pure trivial

end Yields

end AlAssistant.Dialogue
