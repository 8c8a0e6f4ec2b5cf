import AlAssistant.Proofs.Dialogue.Lookup
import Mathlib

/-!
# The product of the second search

A lookup that finds nothing offers products by their labels, and a label is all that the choice
answers with. The second search is therefore for the first product with that label. This is the
product that was offered as long as no product before it has its label; valid settings may
repeat a label.
-/
namespace AlAssistant.Dialogue

open AlAssistant.Portal
open AlAssistant.Settings (Translation Product)

section Search
variable {config : Translation} {phrase : String} {direction : Direction} {product limit : Nat}
  {url : Url} {exchange : Exchange} {html : String} {pages : List Reply}

theorem searchOrTell_of_page (h : IsSearch config phrase direction product url)
    (hp : exchange.answers.pages = .page html :: pages) :
    searchOrTell config phrase direction product exchange =
      (some (candidates html direction (candidateLimit config)),
        ⟨{ exchange.answers with pages := pages }, exchange.events ++ [.request url]⟩) := by
  refine searchOrTell_of_ok ?_
  rw [search_eq_fetch h, bind_apply, fetch_of_cons hp]
  rfl

/-- A search for a chosen product asks for it once. All else it does is to tell how it went. -/
theorem events_searchChosen {product : Product}
    (h : IsSearch config phrase direction product.id url) (exchange : Exchange) :
    ∃ told, (searchChosen config phrase direction product exchange).2.events =
        exchange.events ++ .request url :: told ∧
      ∀ event ∈ told, ∃ kind text, event = .message kind text := by
  have he : (search config phrase direction product.id (candidateLimit config) exchange).2.events =
    exchange.events ++ [.request url] := events_search h exchange
  generalize hs : search config phrase direction product.id (candidateLimit config) exchange =
    searched at he
  obtain ⟨outcome, next⟩ := searched
  replace he : next.events = exchange.events ++ [.request url] := he
  unfold searchChosen
  rw [bind_apply]
  -- a search that fails is told as an error, one that finds nothing as such
  cases outcome with
  | error error =>
    refine ⟨[.message .error (failureText error)], ?_, by simp⟩
    simp [searchOrTell_of_error hs, pure_apply, he]
  | ok found =>
    rw [searchOrTell_of_ok hs]
    cases found with
    | nil =>
      refine ⟨[.message .info (nothingFoundText phrase product)], ?_, by simp⟩
      exact (events_tell next _ _).trans (by simp [he])
    | cons candidate more => exact ⟨[], he, by simp⟩

end Search

section Choice
variable {config : Translation} {phrase : String} {direction : Direction} {first : Url}
  {exchange : Exchange} {html : String} {pages : List Reply} {label : String}
  {choices : List (Option String)} {product : Product}

theorem lookup_of_empty_page (h : IsSearch config phrase direction config.productId first)
    (hp : exchange.answers.pages = .page html :: pages)
    (hn : candidates html direction (candidateLimit config) = []) :
    lookup config phrase direction exchange =
      searchFallback config phrase direction
        ⟨{ exchange.answers with pages := pages }, exchange.events ++ [.request first]⟩ := by
  unfold lookup
  rw [bind_apply, searchOrTell_of_page h hp, hn]
  rfl

theorem searchFallback_of_label (hc : exchange.answers.choices = some label :: choices)
    (hf : config.fallbackProducts.find? (·.label == label) = some product) :
    searchFallback config phrase direction exchange =
      searchChosen config phrase direction product
        ⟨{ exchange.answers with choices := choices }, exchange.events ++
          [.choice (fallbackQuestion phrase) (config.fallbackProducts.map (·.label))]⟩ := by
  unfold searchFallback
  rw [bind_apply, choose_of_cons hc]
  simp only [hf]
  rfl

/-- A lookup that finds nothing and is answered with the label of `product` makes a second
request, for that product. -/
theorem events_lookup_of_label (ha : Settings.IsSearchAddress config.searchUrl)
    (hp : exchange.answers.pages = .page html :: pages)
    (hn : candidates html direction (candidateLimit config) = [])
    (hc : exchange.answers.choices = some label :: choices)
    (hf : config.fallbackProducts.find? (·.label == label) = some product) :
    ∃ first second told,
      IsSearch config phrase direction config.productId first ∧
      IsSearch config phrase direction product.id second ∧
      (lookup config phrase direction exchange).2.events =
        exchange.events ++ .request first ::
          .choice (fallbackQuestion phrase) (config.fallbackProducts.map (·.label)) ::
          .request second :: told ∧
      ∀ event ∈ told, ∃ kind text, event = .message kind text := by
  obtain ⟨first, h₁⟩ := exists_isSearch ha phrase direction config.productId
  obtain ⟨second, h₂⟩ := exists_isSearch ha phrase direction product.id
  have hl := (lookup_of_empty_page h₁ hp hn).trans (searchFallback_of_label hc hf)
  rw [hl]
  obtain ⟨told, ht, hm⟩ := events_searchChosen h₂ _
  exact ⟨first, second, told, h₁, h₂, ht.trans (by simp), hm⟩

end Choice

/-- The first product with the label of the one at `i`. -/
theorem exists_find?_label (products : List Product) {i : Nat} (hi : i < products.length) :
    ∃ j, ∃ hj : j ≤ i,
      products.find? (·.label == products[i].label) = some products[j] ∧
        products[j].label = products[i].label ∧
        ∀ k, ∀ hk : k < j, products[k].label ≠ products[i].label := by
  -- the product at `i` has its own label, so one is found, and none behind `i`
  obtain ⟨product, hf⟩ : ∃ product,
      products.find? (·.label == products[i].label) = some product := by
    rw [← Option.isSome_iff_exists, List.find?_isSome]
    exact ⟨products[i], List.getElem_mem hi, beq_self_eq_true _⟩
  obtain ⟨hl, j, hj, rfl, hk⟩ := List.find?_eq_some_iff_getElem.1 hf
  have hk : ∀ k, ∀ hk : k < j, products[k].label ≠ products[i].label := by simpa using hk
  have hji : j ≤ i := Nat.le_of_not_lt fun hij => hk i hij rfl
  exact ⟨j, hji, hf, by simpa using hl, hk⟩

/-- When nothing was found and the user chose the label of the product at `i`, the second request
is for the first product with that label. It is for the product at `i` itself exactly when both
have one number, as they do when no product before it repeats its label. -/
theorem lookup_searches_first_labelled {settings : Settings} (hv : settings.isValid = true)
    (phrase : String) (direction : Direction) {i : Nat}
    (hi : i < settings.translation.fallbackProducts.length) {exchange : Exchange} {html : String}
    {pages : List Reply} {choices : List (Option String)}
    (hp : exchange.answers.pages = .page html :: pages)
    (hn : candidates html direction (candidateLimit settings.translation) = [])
    (hc : exchange.answers.choices =
      some settings.translation.fallbackProducts[i].label :: choices) :
    let config := settings.translation
    let products := config.fallbackProducts
    ∃ j, ∃ hj : j ≤ i, products[j].label = products[i].label ∧
      (∀ k, ∀ hk : k < j, products[k].label ≠ products[i].label) ∧
      ∃ first second told,
        (lookup config phrase direction exchange).2.events =
          exchange.events ++ .request first ::
            .choice (fallbackQuestion phrase) (products.map (·.label)) ::
            .request second :: told ∧
        (∀ event ∈ told, ∃ kind text, event = .message kind text) ∧
        requestedProduct? first = some (toString config.productId) ∧
        requestedProduct? second = some (toString products[j].id) ∧
        (requestedProduct? second = some (toString products[i].id) ↔
          products[j].id = products[i].id) := by
  intro config products
  obtain ⟨-, ha, -⟩ := Settings.isValid_iff.1 hv
  obtain ⟨j, hj, hf, hl, hk⟩ := exists_find?_label products hi
  obtain ⟨first, second, told, h₁, h₂, he, hm⟩ := events_lookup_of_label ha hp hn hc hf
  have hr := requestedProduct?_searchUrl h₂
  refine ⟨j, hj, hl, hk, first, second, told, he, hm, requestedProduct?_searchUrl h₁, hr, ?_⟩
  rw [hr, Option.some_inj]
  exact Nat.repr_inj

/-- Lookup settings that offer these products. -/
def offering (products : List Product) : Settings :=
  ⟨{ Translation.default with fallbackProducts := products }⟩

/-- A portal that finds nothing, and a user who chooses a label. -/
def choosing (label : String) : Exchange :=
  ⟨⟨[.page "<table></table>", .page "<table></table>"], [some label], [], []⟩, []⟩

/-- Of two products with one label the first is searched, whichever of them was meant. -/
theorem lookup_searches_first_labelled_nav :
    let settings := offering [⟨"NAV", 2⟩, ⟨"Business Central", 3⟩, ⟨"NAV", 3⟩]
    settings.isValid = true ∧
      candidates "<table></table>" .forward (candidateLimit settings.translation) = [] ∧
      ∃ second, .request second ∈
          (lookup settings.translation "Posting Date" .forward (choosing "NAV")).2.events ∧
        requestedProduct? second = some (toString 2) := by
  intro settings
  have hv : settings.isValid = true := by decide +kernel
  have hn : candidates "<table></table>" .forward (candidateLimit settings.translation) = [] := by
    decide +kernel
  obtain ⟨j, hj, -, hk, first, second, told, he, -, -, hr, -⟩ :=
    lookup_searches_first_labelled hv "Posting Date" .forward (i := 2) (by decide)
      (show (choosing "NAV").answers.pages = _ from rfl) hn rfl
  obtain rfl : j = 0 := Nat.eq_zero_of_not_pos fun hpos => hk 0 hpos rfl
  refine ⟨hv, hn, second, ?_, hr⟩
  rw [he]
  simp

/-- A label that is repeated under another number hides the product behind it. -/
theorem repeated_label_hides_product :
    let settings := offering [⟨"NAV", 2⟩, ⟨"NAV", 3⟩]
    let products := settings.translation.fallbackProducts
    settings.isValid = true ∧ products[1]? = some ⟨"NAV", 3⟩ ∧
      candidates "<table></table>" .forward (candidateLimit settings.translation) = [] ∧
      (lookup settings.translation "Posting Date" .forward (choosing "NAV")).2.events.filterMap
        (fun
          | .request url => requestedProduct? url
          | _ => none) = ["0", "2"] := by
  decide +kernel

end AlAssistant.Dialogue
