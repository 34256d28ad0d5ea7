import ProofDesk.Host.Basic
import ProofDesk.Host.Path
import ProofDesk.Settings.Environment
import ProofDesk.Text.Quoted

/-!
# Environment files

A file named `.env` assigns variables, a line `KEY=value` each. A variable with a text in it is left
as it is.

* `Dotenv.assignment?` — the assignment of a line.
* `Dotenv.entries` — what a file gives to the variables without a text.
* `Dotenv.fill` — the environment with such variables set one after the other. A variable that the
  system cannot set ends the program.
-/

namespace ProofDesk
namespace Dotenv

/-- A value without the pair of quotes around it. -/
def unquote (value : Text) : Text :=
  match value with
  | first :: rest =>
    if (first = '"' ∨ first = '\'') ∧ rest.getLast? = some first then rest.dropLast else value
  | [] => []

/-- The variable and the value that a line assigns. Blank lines, lines that begin with `#` and
lines without an equals sign assign nothing. -/
def assignment? (line : Text) : Option (Text × Text) :=
  let line := Text.trim line
  if line.head? = some '#' then none
  else
    let line := match Text.after? "export " line with
      | some rest => Text.trimStart rest
      | none => line
    let key := Text.trim (line.takeWhile (· != '='))
    match line.dropWhile (· != '=') with
    | _ :: value => if key = [] then none else some (key, unquote (Text.trim value))
    | [] => none

/-- The assignments of a file to variables without a text, in the order of the file. -/
def assignments (environment : Environment) (content : Text) : List (Text × Text) :=
  (Text.lines content).filterMap assignment? |>.filter fun assignment =>
    environment.text assignment.1 = []

/-- The last assignment to each variable. -/
def lastOfEach : List (Text × Text) → List (Text × Text)
  | [] => []
  | first :: rest =>
    if (rest.map Prod.fst).contains first.1 then lastOfEach rest else first :: lastOfEach rest

/-- The variables without a text that a file assigns, each with its last value. -/
def entries (environment : Environment) (content : Text) : List (Text × Text) :=
  lastOfEach (assignments environment content)

/-- A variable that the system cannot set to the value. -/
structure Unsettable where
  name : Text
  value : Text
  deriving DecidableEq, Repr

/-- The report on it. -/
def Unsettable.message (refused : Unsettable) : Text :=
  "failed to set environment variable `" ++ Text.quoted refused.name ++ "` to `" ++
    Text.quoted refused.value ++ "`: file name contained an unexpected NUL byte"

/-- The system can set the variable to the value: neither holds a null character. -/
def isSettable (name value : Text) : Bool := '\x00' ∉ name ∧ '\x00' ∉ value

/-- The environment with variables set one after the other, each when it has no text by then. -/
def fill : List (Text × Text) → Environment → Except Unsettable Environment
  | [], environment => .ok environment
  | (name, value) :: rest, environment =>
    if environment.text name ≠ [] then fill rest environment
    else if isSettable name value then fill rest (environment.set name value)
    else .error ⟨name, value⟩

/-- The path of the environment file of a directory. -/
def pathIn (directory : Text) : Text := Path.join directory ".env"

/-- The environment with the file of a directory merged, when it has a readable one. -/
def load (directory : Text) (environment : Environment) :
    Hosted (Except Unsettable Environment) := do
  match ← Host.readFile (pathIn directory) with
  | .ok content => return fill (entries environment content) environment
  | .error _ => return .ok environment

end Dotenv
end ProofDesk
