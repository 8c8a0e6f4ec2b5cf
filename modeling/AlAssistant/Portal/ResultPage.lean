import AlAssistant.Portal.Search

/-!
# Result pages

A result page is a text with table cells in it. Their classes tell which of them hold candidates.
-/
namespace AlAssistant.Portal

open AlAssistant.Text

/-! ## Cells

Table cells with a class are found in the text of a page, whatever else it holds. Tag and
attribute names may be in either case. The attribute has to be the first `class` that is
written with quotes and is followed by the end of the tag and, later, of the cell.
-/

/-- A letter of a name in either case. A long `s` is an `s` as well. -/
def sameLetter (letter c : Char) : Bool :=
  c == letter || c == letter.toUpper || (letter == 's' && c == 'ſ')

def nameTests (name : String) : List (Char → Bool) := name.toList.map sameLetter

def isQuote (c : Char) : Bool := c == '"' || c == '\''

/-- The value of a `class` attribute that begins here, and what follows it. -/
def classHere? (text : List Char) : Option (List Char × List Char) :=
  match (dropMatch? (nameTests "class") text).map trimStart with
  | some ('=' :: rest) =>
    match trimStart rest with
    | quote :: rest =>
      if isQuote quote then
        match rest.dropWhile (!isQuote ·) with
        | _ :: behind => some (rest.takeWhile (!isQuote ·), behind)
        | [] => none
      else none
    | [] => none
  | _ => none

/-- The text behind an end tag of a cell that begins here. -/
def cellEndHere? (text : List Char) : Option (List Char) :=
  match (dropMatch? ((· == '<') :: (· == '/') :: nameTests "td") text).map trimStart with
  | some ('>' :: rest) => some rest
  | _ => none

/-- The text before the first end tag of a cell, and the text behind it. -/
def cutAtCellEnd? : List Char → Option (List Char × List Char)
  | [] => none
  | c :: text =>
    match cellEndHere? (c :: text) with
    | some rest => some ([], rest)
    | none => (cutAtCellEnd? text).map fun (content, rest) => (c :: content, rest)

/-- A cell with the value of its class attribute. -/
structure Cell where
  classText : List Char
  content : List Char
deriving DecidableEq, Repr

/-- The cell whose class attribute begins here, and the text behind the cell. -/
def cellFromClass? (text : List Char) : Option (Cell × List Char) := do
  let (classText, rest) ← classHere? text
  let (_, rest) ← cutAt? ['>'] rest
  let (content, rest) ← cutAtCellEnd? rest
  return (⟨classText, content⟩, rest)

/-- Looks for the class attribute inside a tag; `previous` is the character before. -/
def cellInTag? (previous : Char) : List Char → Option (Cell × List Char)
  | [] => none
  | c :: text =>
    match if isWordChar previous then none else cellFromClass? (c :: text) with
    | some found => some found
    | none => if c = '>' then none else cellInTag? c text

/-- The cell that begins here, and the text behind it. -/
def cellHere? (text : List Char) : Option (Cell × List Char) := do
  let rest ← dropMatch? ((· == '<') :: nameTests "td") text
  if endsWord rest then cellInTag? 'd' rest else none

/-- The first cell with a class, and the text behind it. -/
def findCell? : List Char → Option (Cell × List Char)
  | [] => none
  | c :: text =>
    match cellHere? (c :: text) with
    | some found => some found
    | none => findCell? text

theorem trimStart_length (text : List Char) : (trimStart text).length ≤ text.length :=
  (List.dropWhile_sublist isBlank).length_le

theorem classHere?_length {text value rest : List Char}
    (h : classHere? text = some (value, rest)) : rest.length ≤ text.length := by
  unfold classHere? at h
  cases hd : dropMatch? (nameTests "class") text with
  | none => simp [hd] at h
  | some behind =>
    have first := dropMatch?_length hd
    have second := trimStart_length behind
    simp only [hd, Option.map_some] at h
    split at h
    · next r1 heq =>
      simp only [Option.some.injEq] at heq
      have third := trimStart_length r1
      split at h
      · next quote r2 heq2 =>
        split at h
        · split at h
          · next c r3 heq3 =>
            cases h
            have fourth := (List.dropWhile_sublist (fun c => !isQuote c) (l := r2)).length_le
            rw [heq] at second
            rw [heq2] at third
            rw [heq3] at fourth
            simp only [List.length_cons] at second third fourth
            omega
          · cases h
        · cases h
      · cases h
    · cases h

theorem cellEndHere?_length {text rest : List Char} (h : cellEndHere? text = some rest) :
    rest.length ≤ text.length := by
  unfold cellEndHere? at h
  cases hd : dropMatch? ((· == '<') :: (· == '/') :: nameTests "td") text with
  | none => simp [hd] at h
  | some behind =>
    have first := dropMatch?_length hd
    have second := trimStart_length behind
    simp only [hd, Option.map_some] at h
    split at h
    · next heq =>
      cases h
      simp only [Option.some.injEq] at heq
      rw [heq] at second
      simp only [List.length_cons] at second
      omega
    · cases h

theorem cutAtCellEnd?_length {text content rest : List Char}
    (h : cutAtCellEnd? text = some (content, rest)) : rest.length ≤ text.length := by
  induction text generalizing content with
  | nil => cases h
  | cons c text ih =>
    unfold cutAtCellEnd? at h
    split at h
    · next heq =>
      cases h
      exact cellEndHere?_length heq
    · cases hn : cutAtCellEnd? text with
      | none => simp [hn] at h
      | some found =>
        obtain ⟨_, r⟩ := found
        simp only [hn, Option.map_some, Option.some.injEq, Prod.mk.injEq] at h
        obtain ⟨_, rfl⟩ := h
        exact Nat.le_succ_of_le (ih hn)

theorem cellFromClass?_length {text rest : List Char} {cell : Cell}
    (h : cellFromClass? text = some (cell, rest)) : rest.length ≤ text.length := by
  unfold cellFromClass? at h
  cases h1 : classHere? text with
  | none => simp [h1] at h
  | some found =>
    obtain ⟨value, r1⟩ := found
    cases h2 : cutAt? ['>'] r1 with
    | none => simp [h1, h2] at h
    | some found =>
      obtain ⟨_, r2⟩ := found
      cases h3 : cutAtCellEnd? r2 with
      | none => simp [h1, h2, h3] at h
      | some found =>
        obtain ⟨content, r3⟩ := found
        simp [h1, h2, h3] at h
        obtain ⟨_, rfl⟩ := h
        have := classHere?_length h1
        have := cutAt?_length h2
        have := cutAtCellEnd?_length h3
        omega

theorem cellInTag?_length {previous : Char} {text rest : List Char} {cell : Cell}
    (h : cellInTag? previous text = some (cell, rest)) : rest.length ≤ text.length := by
  induction text generalizing previous with
  | nil => cases h
  | cons c text ih =>
    unfold cellInTag? at h
    split at h
    · next heq =>
      cases h
      split at heq
      · cases heq
      · exact cellFromClass?_length heq
    · split at h
      · cases h
      · exact Nat.le_succ_of_le (ih h)

theorem cellHere?_length {text rest : List Char} {cell : Cell}
    (h : cellHere? text = some (cell, rest)) : rest.length < text.length := by
  unfold cellHere? at h
  cases hd : dropMatch? ((· == '<') :: nameTests "td") text with
  | none => simp [hd] at h
  | some behind =>
    have first := dropMatch?_length hd
    simp only [hd, Option.bind_eq_bind, Option.bind_some] at h
    split at h
    · have := cellInTag?_length h
      simp only [List.length_cons] at first
      omega
    · cases h

theorem findCell?_length {text rest : List Char} {cell : Cell}
    (h : findCell? text = some (cell, rest)) : rest.length < text.length := by
  induction text with
  | nil => cases h
  | cons c text ih =>
    unfold findCell? at h
    split at h
    · next heq =>
      cases h
      exact cellHere?_length heq
    · exact Nat.lt_succ_of_lt (ih h)

/-- The cells of a page that have a class, in order. -/
def cells (page : List Char) : List Cell :=
  match _h : findCell? page with
  | none => []
  | some (cell, rest) => cell :: cells rest
termination_by page.length
decreasing_by exact findCell?_length _h

/-! ## Candidates

The candidates for a phrase are the texts of the cells of one class. The text of a cell is its
content without tags, with character references decoded once and blanks collapsed. Candidates
are distinct and not empty, and the limit keeps the first of them.
-/

/-- Removes tags; `inside` says that one is open. An angle bracket that nothing closes stays. -/
def dropTags (inside : Bool) : List Char → List Char
  | [] => []
  | c :: text =>
    if inside then dropTags (c != '>') text
    else if c == '<' && text.contains '>' then dropTags true text
    else c :: dropTags false text

/-- Character references with names. -/
def namedReferences : List (String × Char) :=
  [("amp", '&'), ("lt", '<'), ("gt", '>'), ("quot", '"'), ("apos", '\''), ("nbsp", ' ')]

/-- The character with a number in digits of a base. -/
def numberedChar? (base : Nat) (digits : List Char) : Option Char :=
  if digits.isEmpty then none
  else (numeral? base digits).bind fun n =>
    if n.isValidChar then some (Char.ofNat n) else none

/-- The character that the name of a reference stands for. -/
def referencedChar? : List Char → Option Char
  | '#' :: 'x' :: digits => numberedChar? 16 digits
  | '#' :: 'X' :: digits => numberedChar? 16 digits
  | '#' :: digits => numberedChar? 10 digits
  | name => namedReferences.lookup (String.ofList name)

/-- Decodes the text behind an ampersand. Without a known reference the ampersand stays. -/
def decodeBehindAmpersand (text : List Char) : List Char :=
  match cutAt? [';'] text with
  | some (name, rest) =>
    match referencedChar? name with
    | some c => c :: rest
    | none => '&' :: text
  | none => '&' :: text

/-- Decodes the character references of a text. -/
def decodeReferences (text : List Char) : List Char :=
  match splitOnChar '&' text with
  | [] => []
  | first :: parts => first ++ parts.flatMap decodeBehindAmpersand

/-- The visible text of a cell. -/
def cellText (content : List Char) : List Char :=
  collapse (decodeReferences (dropTags false content))

def Cell.hasClass (cell : Cell) (name : String) : Bool :=
  (words cell.classText).contains name.toList

/-- The first `limit` candidates of a page. -/
def candidates (page : String) (direction : Direction) (limit : Nat) : List String :=
  let wanted := (cells page.toList).filter (·.hasClass direction.cellClass)
  let texts := (wanted.map fun cell => cellText cell.content).filter (!·.isEmpty)
  (texts.eraseDups.take limit).map String.ofList

end AlAssistant.Portal
