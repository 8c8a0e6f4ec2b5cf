import AlAssistant.Al.Variable
import AlAssistant.Document.Basic

/-!
# Declaring undeclared names

The compiler reports a name that is not declared. What it is, where its declaration goes, and the
quick fix that puts it there.
-/
namespace AlAssistant.Al

open AlAssistant.Text

/-! ## Diagnostics of the compiler

Two diagnostics of the compiler mean that a name is not declared. The name is the text under
the diagnostic, if that is on one line and holds anything, and otherwise the first name that
its message puts between apostrophes.
-/

/-- The diagnostics that a declaration can settle. -/
inductive UndeclaredName where
  | nameDoesNotExist
  | memberNotFound
deriving DecidableEq, Repr

namespace UndeclaredName

def code : UndeclaredName → String
  | nameDoesNotExist => "AL0118"
  | memberNotFound => "AL0132"

def ofCode? (text : String) : Option UndeclaredName :=
  [nameDoesNotExist, memberNotFound].find? (·.code == text)

end UndeclaredName

/-- Whether the compiler reports a diagnostic. -/
def isFromCompiler (diagnostic : Diagnostic) : Bool :=
  diagnostic.source.any fun source => sameIgnoringCase source.toList "AL".toList

/-- Whether a diagnostic is about an undeclared name. -/
def hasSupportedCode (diagnostic : Diagnostic) : Bool :=
  match diagnostic.code with
  | some (.text code) => (UndeclaredName.ofCode? code).isSome
  | _ => false

/-- Whether a declaration can settle a diagnostic at a range. -/
def applies (range : Range) (diagnostic : Diagnostic) : Bool :=
  isFromCompiler diagnostic && diagnostic.range.containsRange range && hasSupportedCode diagnostic

/-- The first diagnostic that a declaration can settle at a range. -/
def firstApplicable? (range : Range) (diagnostics : List Diagnostic) : Option Diagnostic :=
  diagnostics.find? (applies range)

/-- Removes all double quotes at both ends. -/
def trimQuotes (text : List Char) : List Char :=
  ((text.dropWhile (· == '"')).reverse.dropWhile (· == '"')).reverse

/-- The name under a range on one line. -/
def nameUnder? (text : List Char) (range : Range) : Option (List Char) :=
  if range.start.line ≠ range.stop.line then none
  else
    match (lines text)[range.start.line]? with
    | none => none
    | some line =>
      let name := trimQuotes (trim (slice line range.start.character range.stop.character))
      if name.isEmpty then none else some name

/-- The first text between apostrophes that is not empty. -/
def nameInApostrophes? : List Char → Option (List Char)
  | [] => none
  | c :: text =>
    if c = '\'' then
      match text.takeWhile (· ≠ '\''), text.dropWhile (· ≠ '\'') with
      | first :: more, _ :: _ => some (first :: more)
      | _, _ => nameInApostrophes? text
    else nameInApostrophes? text

/-- The name that a diagnostic is about. -/
def diagnosedName? (text : String) (diagnostic : Diagnostic) : Option String :=
  ((nameUnder? text.toList diagnostic.range).or
    (nameInApostrophes? diagnostic.message.toList)).map String.ofList

/-! ## Declarations

A variable is declared in the nearest `var` section above its use. If the header of the
procedure or trigger comes first, a new section is opened right before the `begin` of its
body. There is no edit where neither is found.
-/

/-- What the header of a procedure or trigger begins with. -/
def headerStarts : List (List Char) :=
  ["procedure ".toList, "local procedure ".toList, "internal procedure ".toList,
   "trigger ".toList]

def isHeader (line : List Char) : Bool :=
  headerStarts.any fun start => (dropStart? start (asciiLower (trim line))).isSome

def isVarLine (line : List Char) : Bool := sameIgnoringCase (trim line) "var".toList

def isBeginLine (line : List Char) : Bool := sameIgnoringCase (trim line) "begin".toList

/-- The nearest line at or above `line` that opens a section or a procedure. -/
def nearestAnchor? (lines : List (List Char)) : Nat → Option Nat
  | 0 => if (lines.head?.any fun l => isVarLine l || isHeader l) then some 0 else none
  | line + 1 =>
    if (lines[line + 1]?.any fun l => isVarLine l || isHeader l) then some (line + 1)
    else nearestAnchor? lines line

/-- The first `begin` line below `header` and not below `use`. -/
def bodyStart? (lines : List (List Char)) (header use : Nat) : Option Nat :=
  (((lines.take (use + 1)).drop (header + 1)).findIdx? isBeginLine).map (header + 1 + ·)

/-- A declaration as one line, with four more blanks than its section. -/
def declarationLine (indent name type ending : List Char) : List Char :=
  indent ++ "    ".toList ++ name ++ ": ".toList ++ type ++ ";".toList ++ ending

/-- Inserts text at the start of a line. -/
def insertionAt (line : Nat) (text : List Char) : TextEdit :=
  ⟨.caret ⟨line, 0⟩, String.ofList text⟩

/-- The edit that declares `name` for a use on line `use`. -/
def declarationEdit? (text : String) (use : Nat) (name type : String) : Option TextEdit :=
  let ls := lines text.toList
  let ending := lineEnding text.toList
  let name := name.toList
  let type := type.toList
  if ls.isEmpty then none
  else
    let use := min use (ls.length - 1)
    match nearestAnchor? ls use with
    | none => none
    | some anchor =>
      let anchorLine := ls[anchor]?.getD []
      if isVarLine anchorLine then
        some (insertionAt (anchor + 1)
          (declarationLine (indentation anchorLine) name type ending))
      else
        (bodyStart? ls anchor use).map fun body =>
          let indent := indentation (ls[body]?.getD [])
          insertionAt body (indent ++ "var".toList ++ ending ++
            declarationLine indent name type ending)

/-! ## Quick fixes

The quick fix for an undeclared name declares it, if the table of well-known variables has the
name and the text has a place for the declaration.
-/

/-- A change to one document that settles a diagnostic. -/
structure QuickFix where
  title : String
  uri : Url
  edit : TextEdit
  diagnostic : Diagnostic
deriving Repr

def declarationTitle (name : String) (known : Variable) : String :=
  "Declare variable " ++ name ++ " (" ++ known.displayName ++ ")"

/-- The fix that declares the name a diagnostic is about. -/
def declareVariable? (uri : Url) (text : String) (diagnostic : Diagnostic)
    (table : VariableTable) : Option QuickFix := do
  let name ← diagnosedName? text diagnostic
  let known ← table.find? name
  let edit ← declarationEdit? text diagnostic.range.start.line name known.dataType.render
  return ⟨declarationTitle name known, uri, edit, diagnostic⟩

end AlAssistant.Al
