import ProofDesk.Verification
import ProofDesk.Text.Alphabet

/-!
# Verdicts and feedback

What the report of a verifier means for a generated proof, and what the generator is told.

* `Status` and `classify` — the verdict on a report.
* `markBytes?` — a line with a range of its bytes marked; `none` for a range that the line cannot be
  cut at.
* `errorReport` — the errors of a report, each shown on its line of the code.
* `feedbackMessage` — what the generator is told after a turn that did not succeed.
-/

namespace ProofDesk

/-- The verdict on one turn. -/
inductive Status
  /-- Checked, without errors and without placeholders. -/
  | proved
  /-- Checked without errors, with a placeholder. -/
  | incomplete
  /-- Not accepted. -/
  | failed
  /-- The verification was given up. -/
  | timedOut
  /-- The generation holds no code. -/
  | unparsed
  deriving DecidableEq, Repr

namespace Status

/-- The name of a verdict. -/
def name : Status → Text
  | proved => "proved"
  | incomplete => "incomplete"
  | failed => "failed"
  | timedOut => "timed_out"
  | unparsed => "unparsed"

/-- All verdicts. -/
def all : List Status := [proved, incomplete, failed, timedOut, unparsed]

/-- Only a proof is a success. -/
def isSuccess (status : Status) : Bool := status = proved

end Status

namespace Feedback

/-! ### Verdicts -/

/-- The two characters differ at most in case; the long s counts as an s. -/
def sameLetter (small c : Char) : Bool :=
  c == small || c == small.toUpper || (small == 's' && c == 'ſ')

/-- The text begins with the word `sorry`, in letters of any case, which ends there. -/
def beginsSorryWord : Text → Bool
  | a :: b :: c :: d :: e :: rest =>
    sameLetter 's' a && sameLetter 'o' b && sameLetter 'r' c && sameLetter 'r' d &&
      sameLetter 'y' e && !rest.head?.any Text.isWordChar
  | _ => false

/-- The text that `before` stands in front of has the word `sorry`, in letters of any case. -/
def mentionsSorryAfter (before : Option Char) : Text → Bool
  | [] => false
  | c :: rest =>
    (!before.any Text.isWordChar && beginsSorryWord (c :: rest)) || mentionsSorryAfter (some c) rest

/-- The text has the word `sorry`, in letters of any case. -/
def mentionsSorry (t : Text) : Bool := mentionsSorryAfter none t

/-- The report has an error; free text has one when it is tagged so or speaks of failure. -/
def reportsError (report : Verification) : Bool :=
  match report.diagnostics with
  | some diagnostics => diagnostics.any Diagnostic.isError
  | none =>
    Text.contains (Diagnostic.tag .error) report.response || Text.contains "failed" report.response

/-- The verdict on a report. -/
def classify (report : Verification) : Status :=
  if report.timedOut then .timedOut
  else if reportsError report then .failed
  else if report.hasSorry || mentionsSorry report.response then .incomplete
  else .proved

/-! ### Feedback -/

/-- A source line with the bytes from `first` up to `last` marked as wrong, when both columns fall on
characters of the line in this order. -/
def markBytes? (line : Text) (first last : Nat) : Option Text := do
  let before ← Text.slice? 0 first line
  let middle ← Text.slice? first last line
  let behind ← Text.slice? last (Text.size line) line
  return before ++ "<error>" ++ middle ++ "</error>" ++ behind

/-- The byte column where the mark of an error begins. -/
def markStart (line : Text) (error : Diagnostic) : Nat := Text.byteColumn line error.column

/-- The byte column where the mark of an error ends: with the line, unless the end that is given lies
on the same line. -/
def markStop (line : Text) (error : Diagnostic) : Nat :=
  match error.endLine, error.endColumn with
  | some endLine, some endColumn =>
    if endLine = error.line then max (Text.byteColumn line endColumn) (markStart line error)
    else Text.size line
  | _, _ => Text.size line

/-- The line of an error with its range marked, when the code has the line. -/
def markedLine? (lines : List Text) (error : Diagnostic) : Option Text := do
  guard (1 ≤ error.line)
  let line ← lines[error.line - 1]?
  markBytes? line (markStart line error) (markStop line error)

/-- One error under its number. -/
def errorBlock (lines : List Text) (number : Nat) (error : Diagnostic) : Text :=
  let shown : Text := match markedLine? lines error with
    | some marked => "\nline " ++ Text.decimal error.line ++ ": " ++ marked
    | none => []
  "Error " ++ Text.decimal number ++ ":" ++ shown ++ '\n' :: error.text

/-- The errors among the diagnostics of a code text, numbered from one, blank lines between. -/
def errorReport (code : Text) (diagnostics : List Diagnostic) : Text :=
  let lines := Text.lines code
  List.intercalate ['\n', '\n'] <|
    (diagnostics.filter Diagnostic.isError).zipIdx.map fun (error, k) =>
      errorBlock lines (k + 1) error

/-- What the generator is told of a generation without code. -/
def unparsedText : Text :=
  "Parsing error. Cannot parse the code from output. Please try again and write the code in the " ++
    "format of ```lean4\n<code>\n```"

/-- What the generator is told of a verification that was given up. -/
def timeoutText : Text :=
  "The compilation timed out. There might be a heavy computation in the code or an endless loop."

/-- What the generator is told of a placeholder. -/
def sorryNote : Text := "The code contains 'sorry', which means the proof is incomplete."

/-- The words before a report of errors. -/
def errorIntroduction : Text := "We use <error></error> to signal the position of the error. \n"

/-- What the generator is told after a turn with this code, report and verdict. -/
def feedbackMessage (code : Text) (report : Verification) : Status → Text
  | .proved => []
  | .timedOut => timeoutText
  | .unparsed => unparsedText
  | status =>
    let errors : Text := match report.diagnostics with
      | some diagnostics => errorReport code diagnostics
      | none => []
    errorIntroduction ++ (if errors = [] then Text.trim report.response else errors) ++
      if status = .incomplete ∨ report.hasSorry = true then '\n' :: sorryNote else []

end Feedback
end ProofDesk
