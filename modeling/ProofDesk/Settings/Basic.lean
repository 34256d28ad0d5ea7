import ProofDesk.Host.Basic
import ProofDesk.Json.Reader
import ProofDesk.Settings.Environment

/-!
# Settings

Where and for how long texts are verified. Settings come from a file and from the environment, and
the environment wins.

* `Settings.ofEnvironment` — standard settings with those of the environment.
* `Settings.ofFile` — the settings of a file with those of the environment.
* `Settings.ofRaw?` — the settings of a JSON text: an object with fields of these names, none of
  them twice, or a list of values in this order; what is missing keeps its standard value.
-/

namespace ProofDesk

/-- How texts are verified. -/
structure Settings where
  /-- The project in which texts are checked; they are checked on their own without one. -/
  root : Option Text
  /-- The seconds that a verification may take. -/
  timeout : Nat
  /-- Build the project when its build output is missing. -/
  autoBuild : Bool
  /-- Give the declarations of each session names of their own. -/
  uniqueNames : Bool
  deriving DecidableEq, Repr

namespace Settings

/-- The settings where none are given. -/
def standard : Settings := ⟨none, 180, true, true⟩

/-- The seconds after which a verification is given up; there is at least one. -/
def effectiveTimeout (settings : Settings) : Nat := max settings.timeout 1

/-- The settings with those that the environment gives. -/
def withEnvironment (environment : Environment) (settings : Settings) : Settings where
  root := (environment.setting? "PROOFSESSION_REPO").or settings.root
  timeout :=
    ((environment.setting? "PROOFSESSION_TIMEOUT_S").bind Text.word?).getD settings.timeout
  autoBuild := environment.isOn "PROOFSESSION_AUTO_BUILD" settings.autoBuild
  uniqueNames := environment.isOn "PROOFSESSION_UNIQUE_NAMES" settings.uniqueNames

/-- The settings of an environment. -/
def ofEnvironment (environment : Environment) : Settings := standard.withEnvironment environment

/-! ### Settings in a file -/

/-- The parts of the settings, in the order of a list. -/
def partNames : List Text := Text.words "repo_root timeout_s auto_build unique_names"

/-- The settings with one part replaced; `none` when the value does not fit the part. -/
def setPart? (settings : Settings) (part : Nat) (value : Raw) : Option Settings :=
  match part, value with
  | 0, .null => some { settings with root := none }
  | 0, .string written =>
    (Json.unquote? written).map fun root => { settings with root := some root }
  | 1, .numeral written =>
    ((Json.numeral? written).bind Json.natural?).map fun timeout => { settings with timeout }
  | 2, .bool autoBuild => some { settings with autoBuild }
  | 3, .bool uniqueNames => some { settings with uniqueNames }
  | _, _ => none

/-- The settings with the parts of a list replaced, from part number `part` on. -/
def setParts? (part : Nat) : List Raw → Settings → Option Settings
  | [], settings => some settings
  | value :: rest, settings => do setParts? (part + 1) rest (← settings.setPart? part value)

/-- The settings with fields replaced, where `seen` are the parts replaced before. Fields with other
names are passed over, whatever their values. -/
def setFields? (seen : List Nat) : List (Text × Raw) → Settings → Option Settings
  | [], settings => some settings
  | (key, value) :: rest, settings => do
    match partNames.findIdx? (· = (← Json.unquote? key)) with
    | some part =>
      if part ∈ seen then none else setFields? (part :: seen) rest (← settings.setPart? part value)
    | none => setFields? seen rest settings

/-- The settings of a JSON text. -/
def ofRaw? : Raw → Option Settings
  | .object fields => setFields? [] fields standard
  | .list parts => setParts? 0 parts standard
  | _ => none

/-- Why a file gives no settings. -/
inductive FileFault
  | unreadable (path : Text) (error : FileError)
  | invalid (path : Text)
  deriving DecidableEq, Repr

/-- The wording of a fault. -/
def FileFault.message : FileFault → Text
  | unreadable path error => "failed to read config " ++ path ++ ": " ++ error.message
  | invalid path => "invalid config " ++ path

/-- The settings of a file with those of the environment. -/
def ofFile (environment : Environment) (path : Text) : Hosted (Except FileFault Settings) := do
  match ← Host.readFile path with
  | .error error => return .error (.unreadable path error)
  | .ok content =>
    match (Raw.read? content).bind ofRaw? with
    | some settings => return .ok (settings.withEnvironment environment)
    | none => return .error (.invalid path)

end Settings
end ProofDesk
