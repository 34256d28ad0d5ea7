import ProofDesk.Text.Blank
import ProofDesk.Text.Utf8

/-!
# Environment variables

* `Environment` — the value of each variable that is set.
* `Environment.text` — a value as it is read, as a text.
* `Environment.setting?` — a value that is not blank, trimmed.
* `Environment.isOn` — a switch: `0`, `false`, `no` and `off` turn it off.
-/

namespace ProofDesk

/-- The value of a variable that is set. -/
inductive Environment.Value
  | text (value : Text)
  /-- Bytes that are not valid UTF-8. -/
  | raw (bytes : List UInt8) (invalid : Utf8.decode? bytes = none)
  deriving DecidableEq, Repr

/-- The values of the variables that are set. -/
abbrev Environment : Type := Text → Option Environment.Value

namespace Environment

/-- The environment with one more variable set. -/
def set (environment : Environment) (name value : Text) : Environment := fun other =>
  if other = name then some (.text value) else environment other

/-- The environment that sets the variables of a list, later ones winning. -/
def ofList (assigned : List (Text × Text)) : Environment :=
  assigned.foldl (fun environment (name, value) => environment.set name value) fun _ => none

/-- A value that is a text. -/
def Value.text? : Value → Option Text
  | text value => some value
  | raw _ _ => none

/-- A value as a text, with replacement characters for what is none. -/
def Value.shown : Value → Text
  | text value => value
  | raw bytes _ => Utf8.decodeLossy bytes

/-- The text of a variable. One that is not set, or whose value is no text, counts as empty. -/
def text (environment : Environment) (name : Text) : Text :=
  ((environment name).bind Value.text?).getD []

/-- The path that a variable names. Paths are texts here, so this is the value as it is shown. -/
def path? (environment : Environment) (name : Text) : Option Text :=
  (environment name).map Value.shown

/-- The trimmed value of a variable, unless it is blank. -/
def setting? (environment : Environment) (name : Text) : Option Text :=
  let value := Text.trim (environment.text name)
  if value = [] then none else some value

/-- The words that turn a switch off. -/
def offWords : List Text := Text.words "0 false no off"

/-- The position of a switch; without a setting it stands as `standard` says. -/
def isOn (environment : Environment) (name : Text) (standard : Bool) : Bool :=
  match environment.setting? name with
  | some value => !offWords.contains (value.map Char.toLower)
  | none => standard

end Environment
end ProofDesk
