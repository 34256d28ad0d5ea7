import ProofDesk.CommandLine.Run
import ProofDesk.Text.Utf8

/-!
# The program

The command line on the machine that runs it: files and variables are those of the machine. It
starts no other program and opens no connection, so every command counts as one that cannot be
started, and every request as one that reaches nothing. It knows a home directory only from the
environment.

* `HostMachine.answer` — the answer of the machine to a question.
* `main` — runs the command line with the arguments of the program.
-/

namespace ProofDesk
namespace HostMachine

/-! ### Files -/

/-- The file error that an error of the machine amounts to. -/
def fileError : IO.Error → FileError
  | .noFileOrDirectory _ _ _ | .noSuchThing _ _ _ => .notFound
  | .inappropriateType _ number _ => if number = 21 then .isDirectory else .notDirectory
  | .alreadyExists _ _ _ => .alreadyExists
  | .permissionDenied _ _ _ => .permissionDenied
  | error =>
    .other ⟨error.toString.toList.filter (· ≠ '\''), by simp⟩

/-- An operation on files, whose error is an answer. -/
def attempted {α : Type} (operation : IO α) : IO (Except FileError α) := do
  try return .ok (← operation) catch error => return .error (fileError error)

/-- The absolute path of what exists at a path. -/
def resolve (path : Text) : IO (Except FileError Text) := do
  let found ← attempted (IO.FS.realPath (String.ofList path))
  return found.map fun place => place.toString.toList

/-- The content of a file. -/
def read (path : Text) : IO (Except FileError Text) := do
  match ← attempted (IO.FS.readBinFile (String.ofList path)) with
  | .error error => return .error error
  | .ok bytes =>
    match Utf8.decode? bytes.toList with
    | some text => return .ok text
    | none => return .error .notText

/-- Gives a file its content. -/
def write (path content : Text) : IO (Except WriteError Unit) := do
  match ← attempted (IO.FS.Handle.mk (String.ofList path) .write) with
  | .error error => return .error (.unopened error)
  | .ok handle =>
    match ← attempted (handle.putStr (String.ofList content) *> handle.flush) with
    | .error error => return .error (.unfinished error)
    | .ok () => return .ok ()

/-- Makes one directory. -/
def makeDirectory (path : Text) : IO (Except FileError Unit) :=
  attempted (IO.FS.createDir (String.ofList path))

/-- A directory lies at a path. -/
def isDirectory (path : Text) : IO Bool := do
  match ← attempted (IO.FS.realPath (String.ofList path)) with
  | .ok place => place.isDir
  | .error _ => return false

/-- Eight hexadecimal digits, drawn at random. -/
def freshId : IO Text := do
  let number ← IO.rand 0x10000000 0xFFFFFFFF
  return Nat.toDigits 16 number

/-- Removes a file, if it is there. -/
def remove (path : Text) : IO Unit := do
  let _ ← attempted (IO.FS.removeFile (String.ofList path))

/-- Makes a temporary file with a name of its own. -/
def makeTemporary (directory content : Text) : IO (Except WriteError Text) := do
  let path := Path.join directory ("proofsession-" ++ (← freshId) ++ ".lean")
  match ← write path content with
  | .ok () => return .ok path
  | .error error =>
    remove path
    return .error error

/-! ### Answers -/

/-- The answer of the machine to a question. -/
def answer : (query : Host.Query) → IO query.Answer
  | .resolve path => resolve path
  | .present path => return (← resolve path).isOk
  | .read path => read path
  | .write path content => write path content
  | .makeDirectory path => makeDirectory path
  | .isDirectory path => isDirectory path
  | .homeDirectory => return none
  | .makeTemporary directory content => makeTemporary directory content
  | .removeTemporary path => remove path
  | .run _ _ => return .notStarted .notFound
  | .send _ => return none
  | .freshId => freshId

/-- The variables that the program looks at. -/
def variableNames : List Text :=
  Text.words ("HOME TMPDIR LAKE LEAN PROOFSESSION_REPO PROOFSESSION_TIMEOUT_S " ++
    "PROOFSESSION_AUTO_BUILD PROOFSESSION_UNIQUE_NAMES PROOFSESSION_PROVIDER_ORDER " ++
    "OLLAMA_HOST OLLAMA_MODEL GROQ_API_KEY GROQ_MODEL OPENROUTER_API_KEY OPENROUTER_MODEL " ++
    "OPENROUTER_BASE_URL OPENAI_API_KEY OPENAI_MODEL OPENAI_BASE_URL")

/-- The values of these variables on the machine. -/
def environment : IO Environment := do
  let values ← variableNames.mapM fun name => return (name, ← IO.getEnv (String.ofList name))
  return Environment.ofList (values.filterMap fun (name, value) =>
    value.map fun value => (name, value.toList))

end HostMachine
end ProofDesk

open ProofDesk in
/-- Runs the command line with the arguments of the program. -/
def main (arguments : List String) : IO UInt32 := do
  let work := CommandLine.run (← HostMachine.environment) (arguments.map String.toList)
  let exit ← work.runIn HostMachine.answer
  IO.print (String.ofList exit.stdout)
  IO.eprint (String.ofList exit.stderr)
  return exit.code.toUInt32
