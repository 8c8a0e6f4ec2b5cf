import AlAssistant.Text.CharClass
import AlAssistant.Text.Search

/-!
# Elements

A localization file is read as text. An element is looked for by its name: its start tag
reaches to the first `>`, its content to the first end tag, and a start tag that is not
followed by them is passed over. What was found is kept in its parts, so that the text can be
put together again with one part replaced.
-/
namespace AlAssistant.Xliff

open AlAssistant.Text

/-- What follows the name in a start tag, up to the first `>`, and the text behind it. -/
def startTag? (name text : List Char) : Option (List Char × List Char) := do
  let rest ← dropStart? ('<' :: name) text
  if endsWord rest then cutAt? ['>'] rest else none

def endTag (name : List Char) : List Char := "</".toList ++ name ++ ['>']

/-- An element as it is written. -/
inductive Element where
  | selfClosing (attributes : List Char)
  | full (attributes content : List Char)
deriving DecidableEq, Repr

namespace Element

def attributes : Element → List Char
  | selfClosing attributes => attributes
  | full attributes _ => attributes

/-- The content; a self-closing element has none. -/
def content? : Element → Option (List Char)
  | selfClosing _ => none
  | full _ content => some content

/-- The text of an element. -/
def render (name : List Char) : Element → List Char
  | selfClosing attributes => '<' :: name ++ attributes ++ "/>".toList
  | full attributes content =>
    '<' :: name ++ attributes ++ ['>'] ++ content ++ endTag name

end Element

/-- A slash at the very end of a start tag closes the element. -/
def dropFinalSlash? (tag : List Char) : Option (List Char) :=
  if tag.getLast? = some '/' then some tag.dropLast else none

/-- The element that begins here, and the text behind it. -/
def elementHere? (mayClose : Bool) (name text : List Char) : Option (Element × List Char) := do
  let (tag, rest) ← startTag? name text
  match if mayClose then dropFinalSlash? tag else none with
  | some attributes => return (.selfClosing attributes, rest)
  | none =>
    let (content, rest) ← cutAt? (endTag name) rest
    return (.full tag content, rest)

/-- An element with the text on both sides of it. -/
structure Found where
  before : List Char
  element : Element
  after : List Char
deriving DecidableEq, Repr

/-- The first element with a name. Start tags that end in a slash close themselves if
`mayClose` allows it. -/
def find? (mayClose : Bool) (name : List Char) : List Char → Option Found
  | [] => none
  | c :: text =>
    match elementHere? mayClose name (c :: text) with
    | some (element, after) => some ⟨[], element, after⟩
    | none => (find? mayClose name text).map fun found => { found with before := c :: found.before }

theorem startTag?_length {name text tag rest : List Char}
    (h : startTag? name text = some (tag, rest)) : rest.length < text.length := by
  unfold startTag? at h
  cases hd : dropStart? ('<' :: name) text with
  | none => simp [hd] at h
  | some behind =>
    simp only [hd, Option.bind_eq_bind, Option.bind_some] at h
    split at h
    · have low := cutAt?_length h
      have high := dropStart?_length hd
      simp only [List.length_cons] at high
      omega
    · cases h

theorem elementHere?_length {mayClose : Bool} {name text after : List Char} {element : Element}
    (h : elementHere? mayClose name text = some (element, after)) :
    after.length < text.length := by
  unfold elementHere? at h
  cases ht : startTag? name text with
  | none => simp [ht] at h
  | some found =>
    obtain ⟨tag, rest⟩ := found
    have shorter := startTag?_length ht
    simp only [ht, Option.bind_eq_bind, Option.bind_some] at h
    split at h
    · cases h
      exact shorter
    · cases hc : cutAt? (endTag name) rest with
      | none => simp [hc] at h
      | some parts =>
        obtain ⟨content, behind⟩ := parts
        have := cutAt?_length hc
        simp only [hc, Option.bind_some, Option.pure_def, Option.some.injEq, Prod.mk.injEq] at h
        obtain ⟨_, rfl⟩ := h
        omega

theorem find?_length {mayClose : Bool} {name text : List Char} {found : Found}
    (h : find? mayClose name text = some found) : found.after.length < text.length := by
  induction text generalizing found with
  | nil => cases h
  | cons c text ih =>
    unfold find? at h
    split at h
    · next heq =>
      cases h
      exact elementHere?_length heq
    · cases hn : find? mayClose name text with
      | none => simp [hn] at h
      | some inner =>
        have shorter := ih hn
        simp only [hn, Option.map_some, Option.some.injEq] at h
        subst h
        exact Nat.lt_succ_of_lt shorter

/-- All elements with a name that may close itself, each behind the one before. -/
def elements (name text : List Char) : List Element :=
  match _h : find? true name text with
  | none => []
  | some found => found.element :: elements name found.after
termination_by text.length
decreasing_by exact find?_length _h

/-! ## Elements and the text they come from

An element that was found stands in the text exactly as it is rendered, with the text on both
sides of it unchanged.
-/

theorem eq_of_startTag? {name text tag rest : List Char}
    (h : startTag? name text = some (tag, rest)) :
    text = '<' :: name ++ tag ++ '>' :: rest := by
  unfold startTag? at h
  cases hd : dropStart? ('<' :: name) text with
  | none => simp [hd] at h
  | some behind =>
    simp only [hd, Option.bind_eq_bind, Option.bind_some] at h
    split at h
    · rw [dropStart?_eq_some_iff.1 hd, eq_append_of_cutAt? h]
      simp
    · cases h

theorem eq_of_dropFinalSlash? {tag attributes : List Char}
    (h : dropFinalSlash? tag = some attributes) : tag = attributes ++ ['/'] := by
  unfold dropFinalSlash? at h
  split at h
  · next heq =>
    cases h
    obtain ⟨start, rfl⟩ := List.getLast?_eq_some_iff.1 heq
    simp
  · cases h

/-- The element that begins a text is the start of the text. -/
theorem eq_of_elementHere? {mayClose : Bool} {name text after : List Char} {element : Element}
    (h : elementHere? mayClose name text = some (element, after)) :
    text = element.render name ++ after := by
  unfold elementHere? at h
  cases ht : startTag? name text with
  | none => simp [ht] at h
  | some found =>
    obtain ⟨tag, rest⟩ := found
    have opened := eq_of_startTag? ht
    simp only [ht, Option.bind_eq_bind, Option.bind_some] at h
    split at h
    · next attributes heq =>
      cases h
      split at heq
      · rw [opened, eq_of_dropFinalSlash? heq]
        simp [Element.render]
      · cases heq
    · cases hc : cutAt? (endTag name) rest with
      | none => simp [hc] at h
      | some parts =>
        obtain ⟨content, behind⟩ := parts
        simp only [hc, Option.bind_some, Option.pure_def, Option.some.injEq, Prod.mk.injEq] at h
        obtain ⟨rfl, rfl⟩ := h
        rw [opened, eq_append_of_cutAt? hc]
        simp [Element.render]

/-- The text of what was found, put together again. -/
def Found.text (name : List Char) (found : Found) : List Char :=
  found.before ++ found.element.render name ++ found.after

theorem text_of_find? {mayClose : Bool} {name text : List Char} {found : Found}
    (h : find? mayClose name text = some found) : found.text name = text := by
  induction text generalizing found with
  | nil => cases h
  | cons c text ih =>
    unfold find? at h
    split at h
    · next heq =>
      cases h
      simp [Found.text, eq_of_elementHere? heq]
    · cases hn : find? mayClose name text with
      | none => simp [hn] at h
      | some inner =>
        have whole := ih hn
        simp only [hn, Option.map_some, Option.some.injEq] at h
        subst h
        simpa [Found.text] using whole

end AlAssistant.Xliff
