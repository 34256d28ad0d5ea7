import ProofDesk.Diagnostic.Listing
import ProofDesk.Diagnostic.Tagged

/-!
# Verifications

What a verifier reports about one text.

* `Verification` — the response as it was printed, the diagnostics in it when the verifier is able
  to tell them, and what it says of the proof as a whole.
* `Verification.ofRun` — the report of a finished run of the proof assistant.
* `hasError_ofRun` — a run that was not successful always reports an error.
-/

namespace ProofDesk

/-- A finished run of a tool. -/
structure ToolRun where
  /-- It ended with success. -/
  ok : Bool
  /-- The code it ended with; a tool that was killed has none. -/
  returnCode : Option Int
  stdout : Text
  stderr : Text
  deriving DecidableEq, Repr

namespace ToolRun

/-- Both outputs, the standard output first, without blanks at their ends; a blank output is left
out. -/
def response (run : ToolRun) : Text :=
  match Text.allBlank run.stdout, Text.allBlank run.stderr with
  | false, false => Text.trimEnd run.stdout ++ '\n' :: Text.trimEnd run.stderr
  | false, true => Text.trimEnd run.stdout
  | true, false => Text.trimEnd run.stderr
  | true, true => []

end ToolRun

/-- What a verifier reports about one text. -/
structure Verification where
  /-- The response as it was printed. -/
  response : Text
  /-- The diagnostics; `none` for a verifier that answers in free text. -/
  diagnostics : Option (List Diagnostic)
  /-- The text has a placeholder. -/
  hasSorry : Bool
  /-- The number of the state that the verifier keeps for the proof. -/
  proofState : Option Nat
  /-- The verification was given up. -/
  timedOut : Bool
  deriving DecidableEq, Repr

namespace Verification

/-- A report in free text. -/
def ofResponse (response : Text) : Verification :=
  ⟨response, none, Diagnostic.saysIncomplete response, none, false⟩

/-- A verification that could not run. -/
def failure (text : Text) : Verification :=
  ⟨text, some [Diagnostic.failure text], false, none, false⟩

/-- A verification that was given up after some seconds. -/
def timeout (seconds : Nat) : Verification :=
  { failure ("verification timed out after " ++ Text.decimal seconds ++ "s") with timedOut := true }

/-- The error that stands for a run without success whose output has no error. -/
def exitFailure (run : ToolRun) : Diagnostic :=
  let code : Text := match run.returnCode with
    | some code => Text.integer code
    | none => "none"
  let detail : Text := if run.response = [] then [] else ": " ++ run.response
  Diagnostic.failure ("lean exited with code " ++ code ++ detail)

/-- The report of a finished run of the proof assistant. A run without success has an error. -/
def ofRun (run : ToolRun) : Verification :=
  let found := Diagnostic.Listing.read run.response
  let diagnostics :=
    if !run.ok && !found.any Diagnostic.isError then found ++ [exitFailure run] else found
  ⟨run.response, some diagnostics, Diagnostic.saysIncomplete run.response, none, false⟩

/-- Some structured diagnostic is an error. -/
def hasError (report : Verification) : Bool :=
  report.diagnostics.any fun diagnostics => diagnostics.any Diagnostic.isError

theorem hasError_failure (text : Text) : (failure text).hasError = true := rfl

theorem hasError_ofRun {run : ToolRun} (failed : run.ok = false) : (ofRun run).hasError = true := by
  simp only [hasError, ofRun, failed, Option.any_some]
  split
  · simp [exitFailure, Diagnostic.failure, Diagnostic.isError]
  · next found => simpa using found

end Verification
end ProofDesk
