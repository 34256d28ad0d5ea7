import ProofDesk.Chat.Completion
import ProofDesk.CommandLine.Arguments
import ProofDesk.CommandLine.Script
import ProofDesk.Host.Directories
import ProofDesk.Project.Check
import ProofDesk.Session.Desk
import ProofDesk.Settings.Dotenv
import ProofDesk.Text.Quoted

/-!
# The command line

Each command reads a file, works on it and prints a JSON report. What a command needs of the
machine it asks the host.

* `CommandLine.run` — a command: the text that it prints, or why it failed.
* `CommandLine.Failure.message` — the wording of a failure.
* `CommandLine.Exit` — the exit of the program: code, output and error output.
-/

namespace ProofDesk
namespace CommandLine

open Json (field record)

/-- What is printed when help is wanted. -/
def usage : Text := Text.joinLines <| List.map String.toList [
  "proofsession: interactive Lean 4 proof editing.",
  "",
  "Commands:",
  "  load      --file <path>",
  "  clauses   --file <path>",
  "  edit      --file <path> --clause <id> --text <text> [--write]",
  "  structure --file <path> [--line <text> ...] [--write]",
  "  script    --file <path> --script <json> [--write]",
  "  prove     --statement-file <path> [--max-turns N] [--n-pass N] [--no-refinement] " ++
    "[--remove-cot]",
  "",
  "Common flags: [--repo <path>] [--timeout-s N] [--config <json>] [--output-json <path>]",
  "",
  "Notes:",
  "- Output is JSON to stdout; logs go to stderr (RUST_LOG=proofsession_core=debug).",
  "- `structure` without --line uses the first built-in skeleton.",
  "- Script steps: \x7b\"op\":\"edit\",\"clause\":..,\"text\":..\x7d, " ++
    "\x7b\"op\":\"structure\",\"lines\":[..]\x7d, \x7b\"op\":\"panel\"\x7d, " ++
    "\x7b\"op\":\"suggest\"\x7d."]

/-- Why a command failed. -/
inductive Failure
  | unknownCommand (name : Text)
  | missing (flag : Text)
  | unreadable (path : Text) (error : FileError)
  | unwritable (path : Text) (error : FileError)
  | noDirectory (path : Text) (error : FileError)
  | notCreated (path : Text) (error : FileError)
  /-- The report got into its file only in part. -/
  | unfinished (path : Text) (error : FileError)
  /-- An environment file ended the program. -/
  | unsettable (refused : Dotenv.Unsettable)
  | settings (fault : Settings.FileFault)
  | noRoot (error : Project.RootError)
  | invalidScript
  | proverSettings (flaw : Prover.Flaw)
  | generator (message : Text)
  deriving DecidableEq, Repr

/-- The wording of a failure. -/
def Failure.message : Failure → Text
  | unknownCommand name => "unknown command: " ++ name ++ "\n\n" ++ usage
  | missing flag => "missing " ++ flag
  | unreadable path error => "failed to read " ++ path ++ ": " ++ error.message
  | unwritable path error => "failed to write " ++ path ++ ": " ++ error.message
  | noDirectory path error => "failed to create dir " ++ path ++ ": " ++ error.message
  | notCreated path error => "failed to create " ++ path ++ ": " ++ error.message
  | unfinished path error => "failed to write " ++ path ++ ": " ++ error.message
  | unsettable refused => refused.message
  | settings fault => fault.message
  | noRoot error => "repo_root: " ++ error.message
  | invalidScript => "invalid --script"
  | proverSettings flaw => flaw.message
  | generator message => message

/-- A step of a command, which may fail. -/
abbrev Step (α : Type) : Type := ExceptT Failure (Dialogue Host.Query Host.Query.Answer) α

/-- A question to the host whose error is a failure. -/
def orFail {ε α : Type} (failure : ε → Failure) (question : Hosted (Except ε α)) : Step α :=
  ExceptT.mk do return (← question).mapError failure

/-- A computation that cannot fail. -/
def sure {α : Type} (work : Hosted α) : Step α := ExceptT.lift work

/-- The value of a flag that has to be there. -/
def needed (flag : Text) (arguments : Arguments) : Step Text :=
  match arguments.value? flag with
  | some value => return value
  | none => throw (.missing flag)

/-- The content of a file. -/
def readFile (path : Text) : Step Text := orFail (.unreadable path) (Host.readFile path)

/-! ### Output -/

/-- The failure of a report that did not get into its file. -/
def Failure.ofReport (path : Text) : WriteError → Failure
  | .unopened error => .notCreated path error
  | .unfinished error => .unfinished path error

/-- Writes a report to a file, making the directories above it. -/
def writeReport (path : Text) (report : Json) : Step Unit := do
  if let some directory := Path.parent? path then
    orFail (.noDirectory directory) (Host.makeDirectories directory)
  orFail (Failure.ofReport path) (Host.writeFile path report.pretty)

/-- The text that is printed for a report: the report, or a note that it has been written to the
file that the arguments name. -/
def emit (arguments : Arguments) (report : Json) : Step Text := do
  match arguments.value? "--output-json" with
  | some path =>
    writeReport path report
    return (record [field "ok" true, field "written" path]).compact ++ ['\n']
  | none => return report.pretty ++ ['\n']

/-! ### Surroundings of a command -/

/-- What a command works with besides its arguments. -/
structure Surroundings where
  environment : Environment
  settings : Settings

/-- The settings and the environment of a command. The environment file of the working directory is
read first; that of a project named by the arguments is read after the settings. -/
def surroundings (environment : Environment) (arguments : Arguments) : Step Surroundings := do
  let environment ← orFail .unsettable (Dotenv.load [] environment)
  let settings ← match arguments.value? "--config" with
    | some path => orFail .settings (Settings.ofFile environment path)
    | none => pure (Settings.ofEnvironment environment)
  let (environment, settings) ← match arguments.value? "--repo" with
    | some place => do
      let root ← orFail .noRoot (Project.findRoot place)
      let environment ← orFail .unsettable (Dotenv.load root environment)
      pure (environment, { settings with root := some root })
    | none => pure (environment, settings)
  let timeout := (arguments.number? "--timeout-s").getD settings.timeout
  return ⟨environment, { settings with timeout }⟩

namespace Surroundings

/-- The verifier that the settings describe. -/
def verify (around : Surroundings) (text : Text) : Hosted Verification :=
  (Project.Checker.ofSettings around.settings).verify around.environment text

/-- Holds a computation that may have texts verified. -/
def verified {α : Type} (around : Surroundings) (work : Verified α) : Step α :=
  sure (work.relay around.verify)

/-- Holds a search for a proof. -/
def searched {α : Type} (around : Surroundings) (work : Prover.Search α) : Step α :=
  sure <| work.relay fun
    | .generate turns => Chat.generate around.environment turns
    | .verify text => around.verify text

/-- A session with fresh ids. -/
def newSession (around : Surroundings) : Step Session := do
  let instanceId ← sure Host.freshId
  let sessionId ← sure Host.freshId
  return Session.fresh ⟨sessionId, instanceId⟩ around.settings.uniqueNames

end Surroundings

/-! ### Commands -/

/-- Lists the clauses of a file. -/
def clauses (arguments : Arguments) : Step Text := do
  let path ← needed "--file" arguments
  let text ← readFile path
  emit arguments (record [field "file" path, field "clauses" (Clause.scan text)])

/-- Verifies a file. -/
def load (around : Surroundings) (arguments : Arguments) : Step Text := do
  let path ← needed "--file" arguments
  let text ← readFile path
  let session ← around.newSession
  let (compilation, session) ← around.verified (session.load text)
  emit arguments (record [
    field "file" path, field "compilation" compilation, field "panel" session.panel,
    field "suggestions" session.suggestions])

/-- The report on a step: its name, and what came of it. -/
def stepReport (step : Session.Step) (answer : Session.Answer) : Json :=
  let name : Text := match step with
    | .edit _ _ => "edit"
    | .addOutline _ => "structure"
    | .suggestions => "suggest"
    | _ => "panel"
  match answer with
  | .refused error => record [field "op" name, field "ok" false, field "error" error.message]
  | .edited result => record [field "op" name, field "ok" true, field "result" result]
  | .panel panel => record [field "op" name, field "ok" true, field "result" panel]
  | .suggestions texts => record [field "op" name, field "ok" true, field "result" texts]
  | _ => record [field "op" name, field "ok" true]

/-- Performs steps one after another: the reports on them, and the session at the end. -/
def performAll (session : Session) : List Session.Step → Verified (List Json × Session)
  | [] => return ([], session)
  | step :: rest => do
    let (answer, session) ← session.perform step
    let (reports, session) ← performAll session rest
    return (stepReport step answer :: reports, session)

/-- The step that the arguments of `edit` describe. -/
def editSteps (arguments : Arguments) : Step (List Session.Step) := do
  let clause ← needed "--clause" arguments
  let text ← needed "--text" arguments
  return [.edit clause text]

/-- The step that the arguments of `structure` describe; without lines it takes the first of the
outlines that are built in. -/
def outlineSteps (arguments : Arguments) : List Session.Step :=
  let lines := arguments.values "--line"
  [.addOutline (if lines = [] then (Outline.builtin.head?.map Outline.lines).getD [] else lines)]

/-- The steps that the arguments of `script` hold. -/
def scriptSteps (arguments : Arguments) : Step (List Session.Step) := do
  let script ← needed "--script" arguments
  match Script.read? script with
  | some steps => return steps
  | none => throw .invalidScript

/-- Verifies a file, performs steps on it and, if wanted, gives the file the document at the
end. -/
def change (around : Surroundings) (arguments : Arguments) (steps : Step (List Session.Step)) :
    Step Text := do
  let path ← needed "--file" arguments
  let steps ← steps
  let text ← readFile path
  let session ← around.newSession
  let (initial, session) ← around.verified (session.load text)
  let (reports, session) ← around.verified (performAll session steps)
  let written := arguments.has "--write"
  if written then
    orFail (fun error => .unwritable path error.reason) (Host.writeFile path session.document)
  emit arguments (record [
    field "file" path, field "written" written, field "initial" initial, field "steps" reports,
    field "panel" session.panel])

/-- The settings of the prover that the arguments describe. -/
def proverConfig (arguments : Arguments) : Prover.Config :=
  let standard := Prover.Config.standard
  { standard with
    maxTurns := (arguments.number? "--max-turns").getD standard.maxTurns
    attempts := (arguments.number? "--n-pass").getD standard.attempts
    refinement := !arguments.has "--no-refinement"
    codeOnly := arguments.has "--remove-cot" }

/-- Looks for a proof of the statement in a file. -/
def prove (around : Surroundings) (arguments : Arguments) : Step Text := do
  let path ← needed "--statement-file" arguments
  let statement ← readFile path
  let config := proverConfig arguments
  if let some flaw := config.flaw? then throw (.proverSettings flaw)
  let result ← around.searched (Prover.attemptRepeatedly config statement)
  match result with
  | .ok outcome => emit arguments (record [field "statement_file" path, field "result" outcome])
  | .error message => throw (.generator message)

/-- The words that ask for help. -/
def helpWords : List Text := Text.words "--help -h help"

/-- Runs a command with its arguments: the text that it prints. -/
def command (environment : Environment) (name : Text) (arguments : Arguments) : Step Text := do
  if name.isEmpty || helpWords.contains name then return usage ++ ['\n']
  if name = "clauses".toList then clauses arguments
  else
    let around ← surroundings environment arguments
    if name = "load".toList then load around arguments
    else if name = "edit".toList then change around arguments (editSteps arguments)
    else if name = "structure".toList then
      change around arguments (return outlineSteps arguments)
    else if name = "script".toList then change around arguments (scriptSteps arguments)
    else if name = "prove".toList then prove around arguments
    else throw (.unknownCommand name)

/-- How the program ends. -/
structure Exit where
  code : Nat
  stdout : Text
  stderr : Text
  deriving DecidableEq, Repr

/-- The exit for what came of a command; a failure is shown between quotes. A variable that cannot be
set is a panic, of which only the message is told here. -/
def Exit.ofResult : Except Failure Text → Exit
  | .ok output => ⟨0, output, []⟩
  | .error (.unsettable refused) => ⟨101, [], refused.message ++ ['\n']⟩
  | .error failure => ⟨1, [], "Error: " ++ Text.quoted failure.message ++ ['\n']⟩

/-- Runs the program with the words of its command line. -/
def run (environment : Environment) (words : List Text) : Hosted Exit := do
  let result ← (command environment (words.head?.getD []) words.tail).run
  return Exit.ofResult result

end CommandLine
end ProofDesk
