import AlAssistant.Portal.Search

/-!
# The URL of a search

A search adds its parameters behind those that the configured address has, and the query of that
address may hold anything. The portal reads the parameters as they were given, whatever characters
a phrase is made of, so the product that a request asks for is the one it was made for.
-/
namespace AlAssistant

namespace Portal
variable {base phrase : String} {direction : Direction} {language product : Nat} {url : Url}

theorem searchUrl_eq_ok_iff :
    searchUrl base phrase direction language product = .ok url ↔
      ∃ parsed, Url.ofText base = .ok parsed ∧
        parsed.withParameters (searchParameters phrase direction language product) = url := by
  unfold searchUrl
  cases Url.ofText base with
  | error cause => simp
  | ok parsed => simp

theorem searchUrl_eq_error_iff {error : LookupError} :
    searchUrl base phrase direction language product = .error error ↔
      ∃ cause, Url.ofText base = .error cause ∧ .invalidUrl base cause = error := by
  unfold searchUrl
  cases Url.ofText base with
  | error cause => simp
  | ok parsed => simp

/-- The product that a request is for: the value of the last parameter that names one. -/
def requestedProduct? (url : Url) : Option String := url.pairs.reverse.lookup "productid"

theorem requestedProduct?_searchUrl
    (h : searchUrl base phrase direction language product = .ok url) :
    requestedProduct? url = some (toString product) := by
  obtain ⟨parsed, _, rfl⟩ := searchUrl_eq_ok_iff.1 h
  unfold requestedProduct?
  rw [Url.pairs_withParameters, List.reverse_append]
  rfl

/-- A search at any address adds four parameters behind those of the address and changes nothing
else of it. The phrase decides the value of one of them, and of no other. -/
theorem searchUrl_adds_parameters {base : String} {parsed : Url} (h : Url.ofText base = .ok parsed)
    (phrase : String) (direction : Direction) (language product : Nat) :
    ∃ url, searchUrl base phrase direction language product = .ok url ∧
      url.pairs = parsed.pairs ++
        [("searchTerm", phrase), ("langID", toString language), ("productid", toString product),
          ("Source", if direction = .forward then "true" else "false")] ∧
      url.scheme = parsed.scheme ∧ url.username = parsed.username ∧
      url.password = parsed.password ∧ url.host = parsed.host ∧ url.port = parsed.port ∧
      url.path = parsed.path ∧ url.fragment = parsed.fragment ∧
      ∀ other, ∃ otherUrl, searchUrl base other direction language product = .ok otherUrl ∧
        otherUrl.pairs = url.pairs.set parsed.pairs.length ("searchTerm", other) := by
  have hp (phrase : String) :
      (parsed.withParameters (searchParameters phrase direction language product)).pairs = _ :=
    Url.pairs_withParameters parsed _
  have hs (phrase : String) : searchUrl base phrase direction language product =
      .ok (parsed.withParameters (searchParameters phrase direction language product)) :=
    searchUrl_eq_ok_iff.2 ⟨parsed, h, rfl⟩
  refine ⟨_, hs phrase, ?_, rfl, rfl, rfl, rfl, rfl, rfl, rfl, fun other => ⟨_, hs other, ?_⟩⟩
  · rw [hp]
    cases direction <;> rfl
  · rw [hp, hp, List.set_append_right _ _ (Nat.le_refl _), Nat.sub_self]
    rfl

/-- An address with a fragment and with parameters of its own, one of them no UTF-8. -/
def ownParameters : Url where
  scheme := "https".toList
  username := []
  password := []
  host := some (.domain "example.org".toList)
  port := some 8443
  path := .segments ["find".toList, []]
  query := some "x=%FF&&y=a+b".toList
  fragment := some "top".toList

/-- The parameters of the address stay in front, and a phrase made of delimiters adds just one. -/
theorem searchUrl_adds_parameters_own :
    let base := "HTTPS://Example.org:8443/find/?x=%FF&&y=a+b#top"
    Url.ofText base = .ok ownParameters ∧
      ∃ url, searchUrl base "A&B=1 + 2%#" .reverse 354 3 = .ok url ∧
        url.pairs = [("x", "\uFFFD"), ("y", "a b"), ("searchTerm", "A&B=1 + 2%#"),
          ("langID", "354"), ("productid", "3"), ("Source", "false")] ∧
        url.fragment = some "top".toList := by
  intro base
  have hb : Url.ofText base = .ok ownParameters := by
    have ho : (Url.ofText base).toOption = some ownParameters := by decide +kernel
    cases he : Url.ofText base with
    | error cause => simp [he, Except.toOption] at ho
    | ok url => simpa [he, Except.toOption] using ho
  have hp : ownParameters.pairs = [("x", "\uFFFD"), ("y", "a b")] := by decide +kernel
  obtain ⟨url, hs, hu, -, -, -, -, -, -, hf, -⟩ :=
    searchUrl_adds_parameters hb "A&B=1 + 2%#" .reverse 354 3
  refine ⟨hb, url, hs, ?_, hf⟩
  rw [hu, hp]
  rfl

end Portal

end AlAssistant
