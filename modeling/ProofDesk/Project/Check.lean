import ProofDesk.Project.Root
import ProofDesk.Settings.Basic

/-!
# Checking a text

A text is checked by the proof assistant from a temporary file, inside a project or on its own.
Inside a project the build output has to be there, so a project may be built first.

* `Project.checkInside` and `Project.checkAlone` — one check; `CheckRun` is what came of it.
* `Project.Checker` — where and how long texts are checked; `Checker.verify` reports on a text.
* `Checker.report` — a check that failed, was given up or could not begin is reported as an error.
-/

namespace ProofDesk
namespace Project

/-- What came of running the tools on a text. -/
structure CheckRun where
  run : ToolRun
  timedOut : Bool
  /-- The words of the command that was run last. -/
  command : List Text
  directory : Text
  deriving DecidableEq, Repr

/-- Why a text could not be checked. -/
inductive CheckError
  | noRoot (error : RootError)
  | noTemporaryFile (error : WriteError)
  deriving DecidableEq, Repr

/-- The wording of an error. -/
def CheckError.message : CheckError → Text
  | noRoot error => error.message
  | noTemporaryFile (.unopened error) => "failed to create temp file: " ++ error.message
  | noTemporaryFile (.unfinished error) => "failed to write temp lean file: " ++ error.message

/-! ### Tools -/

/-- The home directory: the one that the environment names, or the one that the system knows. -/
def homeDirectory (environment : Environment) : Hosted (Option Text) :=
  match (environment.path? "HOME").filter (· ≠ []) with
  | some home => return some home
  | none => Host.homeDirectory

/-- A tool: the one that the environment names, the one installed below the home directory, or the
one of that name on the search path. -/
def tool (environment : Environment) (setting name : Text) : Hosted Text := do
  match environment.setting? setting with
  | some path => return path
  | none =>
    match ← homeDirectory environment with
    | none => return name
    | some home =>
      let installed := Path.join (Path.join (Path.join home ".elan") "bin") name
      if ← Host.pathExists installed then return installed else return name

/-- The build tool. -/
def buildTool (environment : Environment) : Hosted Text := tool environment "LAKE" "lake"

/-- The proof assistant. -/
def assistant (environment : Environment) : Hosted Text := tool environment "LEAN" "lean"

/-- The directory of temporary files. -/
def temporaryDirectory (environment : Environment) : Text :=
  (environment.path? "TMPDIR").getD "/tmp"

/-! ### Runs -/

/-- A run without output, of which only an error is known. -/
def silentRun (stderr : Text) : ToolRun := ⟨false, none, [], stderr⟩

/-- What came of a command. -/
def CheckRun.ofOutcome (command : Host.Command) (outcome : Host.Outcome) : CheckRun :=
  let words := command.program :: command.arguments
  match outcome with
  | .notStarted error =>
    ⟨silentRun ("failed to execute: " ++ error.message), false, words, command.directory⟩
  | .timedOut => ⟨silentRun [], true, words, command.directory⟩
  | .ended run => ⟨run, false, words, command.directory⟩

/-- Runs a command. -/
def runCommand (limit : Nat) (command : Host.Command) : Hosted CheckRun := do
  return CheckRun.ofOutcome command (← Host.run command limit)

/-- What came of a build that did not succeed. -/
def buildFailure (build : CheckRun) : CheckRun :=
  if build.timedOut then { build with run := silentRun "timeout during `lake build`" }
  else
    { build with run := { build.run with stderr := "`lake build` failed\n" ++ build.run.stderr } }

/-- Builds the project; what came of it when it did not succeed. -/
def build (lake root : Text) (limit : Nat) : Hosted (Option CheckRun) := do
  let build ← runCommand limit ⟨lake, ["build".toList], root⟩
  return if build.run.ok then none else some (buildFailure build)

/-- The output says that a module has no build output. -/
def lacksBuildOutput (run : ToolRun) : Bool :=
  let output := run.stdout ++ '\n' :: run.stderr
  Text.contains "object file '" output && Text.contains ".olean" output &&
    Text.contains "does not exist" output

/-- Runs a check; where build output is missing, builds the project and runs the check once
more. -/
def checkTwice (lake root : Text) (limit : Nat) (autoBuild : Bool) (command : Host.Command) :
    Hosted CheckRun := do
  let first ← runCommand limit command
  if !first.run.ok && !first.timedOut && autoBuild && lacksBuildOutput first.run then
    match ← build lake root limit with
    | some failure => return failure
    | none => runCommand limit command
  else return first

/-- Holds a computation with a text in a temporary file, which is gone afterwards. -/
def withTemporary (environment : Environment) (text : Text) (work : Text → Hosted CheckRun) :
    Hosted (Except CheckError CheckRun) := do
  match ← Host.makeTemporary (temporaryDirectory environment) text with
  | .error error => return .error (.noTemporaryFile error)
  | .ok path =>
    let result ← work path
    Host.removeTemporary path
    return .ok result

/-- The directory of the build output, in a project. -/
def buildOutput : Text := ".lake/build/lib/lean"

/-- Builds a project that has no build output; what came of it when it did not succeed. -/
def buildFirst (lake root : Text) (limit : Nat) (autoBuild : Bool) : Hosted (Option CheckRun) := do
  if autoBuild then
    if ← Host.pathExists (Path.join root buildOutput) then return none
    else build lake root limit
  else return none

/-- Checks a text inside the project that a place belongs to. -/
def checkInside (environment : Environment) (place text : Text) (limit : Nat) (autoBuild : Bool) :
    Hosted (Except CheckError CheckRun) := do
  match ← findRoot place with
  | .error error => return .error (.noRoot error)
  | .ok root =>
    let lake ← buildTool environment
    match ← buildFirst lake root limit autoBuild with
    | some failure => return .ok failure
    | none =>
      withTemporary environment text fun path =>
        checkTwice lake root limit autoBuild ⟨lake, ["env".toList, "lean".toList, path], root⟩

/-- Checks a text on its own. -/
def checkAlone (environment : Environment) (text : Text) (limit : Nat) :
    Hosted (Except CheckError CheckRun) := do
  let lean ← assistant environment
  withTemporary environment text fun path =>
    runCommand limit ⟨lean, [path], temporaryDirectory environment⟩

/-! ### Verifying -/

/-- Where and how long texts are checked. -/
structure Checker where
  /-- A place in the project, if there is one. -/
  place : Option Text
  /-- The milliseconds that each run of a tool may take. -/
  limit : Nat
  autoBuild : Bool
  deriving DecidableEq, Repr

namespace Checker

/-- The checker of some settings. -/
def ofSettings (settings : Settings) : Checker :=
  ⟨settings.root, 1000 * settings.effectiveTimeout, settings.autoBuild⟩

/-- Checks a text. -/
def check (checker : Checker) (environment : Environment) (text : Text) :
    Hosted (Except CheckError CheckRun) :=
  match checker.place with
  | some place => checkInside environment place text checker.limit checker.autoBuild
  | none => checkAlone environment text checker.limit

/-- The report on a check. -/
def report (checker : Checker) : Except CheckError CheckRun → Verification
  | .error error => Verification.failure error.message
  | .ok result =>
    if result.timedOut then Verification.timeout (checker.limit / 1000)
    else Verification.ofRun result.run

/-- Verifies a text. -/
def verify (checker : Checker) (environment : Environment) (text : Text) :
    Hosted Verification := do
  return checker.report (← checker.check environment text)

end Checker
end Project
end ProofDesk
