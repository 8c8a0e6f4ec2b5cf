import AlAssistant.Settings.Basic

/-!
# Settings in force

The manager holds the settings in force and the root of the workspace they come from. Both
change together or not at all: a load or an update that fails leaves everything as it was, and
nothing is put in force before it was checked.
-/
namespace AlAssistant

/-- What there is at a path. -/
inductive FileState where
  | absent
  /-- Something that cannot be read as a file, such as a directory, and why. -/
  | unreadable (cause : String)
  | file (content : ByteArray)

/-- The part of the file system that can be seen. -/
structure Files where
  state : FilePath → FileState
  /-- What the reader of the files says about a text that is no settings. -/
  complaint : String → String

/-- No file can be seen. -/
def Files.none : Files := ⟨fun _ => .absent, fun _ => ""⟩

namespace Settings

/-- Why settings are not put in force. -/
inductive Rejection where
  | faults (faults : List Fault)
  | unreadableFile (cause : String)
  | malformedFile (cause : String)
deriving DecidableEq, Repr

def Rejection.message : Rejection → String
  | faults found => faultsText found
  | unreadableFile cause => "Failed to load configuration file: " ++ cause
  | malformedFile cause => "Failed to parse configuration: " ++ cause

/-- The name of the configuration file in the root of a workspace. -/
def fileName : String := ".al-helper.json"

/-- Why a file that is no text cannot be read. -/
def notUtf8 : String := "stream did not contain valid UTF-8"

/-- The settings of a file; those of a missing file are the defaults. -/
def ofFile (complaint : String → String) : FileState → Except Rejection Settings
  | .absent => .ok default
  | .unreadable cause => .error (.unreadableFile cause)
  | .file content =>
    match String.fromUTF8? content with
    | none => .error (.unreadableFile notUtf8)
    | some text =>
      match ofText? text with
      | none => .error (.malformedFile (complaint text))
      | some settings => .ok settings

/-- The settings of a workspace. -/
def ofRoot (files : Files) : Option FilePath → Except Rejection Settings
  | none => .ok default
  | some root => ofFile files.complaint (files.state (root.child fileName))

/-- Settings without faults. -/
def check (settings : Settings) : Except Rejection Settings :=
  if settings.isValid then .ok settings else .error (.faults settings.faults)

structure Manager where
  current : Settings
  root : Option FilePath
deriving DecidableEq, Repr

namespace Manager

def initial : Manager := ⟨.default, none⟩

/-- Loads the settings of a workspace. -/
def load (files : Files) (root : Option FilePath) (manager : Manager) :
    Except Rejection Unit × Manager :=
  match (ofRoot files root).bind check with
  | .ok settings => (.ok (), ⟨settings, root⟩)
  | .error rejection => (.error rejection, manager)

/-- Replaces the settings and keeps the root. -/
def update (settings : Settings) (manager : Manager) : Except Rejection Unit × Manager :=
  match check settings with
  | .ok settings => (.ok (), { manager with current := settings })
  | .error rejection => (.error rejection, manager)

end Manager

end Settings

end AlAssistant
