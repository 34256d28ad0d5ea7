import ProofDesk.Text.Blank
import ProofDesk.Text.Search
import ProofDesk.Text.Numeral
import ProofDesk.Position

/-!
# Messages and goals

What a proof assistant says about a document, placed in it.

* `Message` — a remark of some severity over a range of the document.
* `Message.unsolvedGoal?` — the goal that an `unsolved goals` error lists.
* `Goal` — an open obligation, and how it is shown.
-/

namespace ProofDesk

/-- How grave a remark is. -/
inductive Severity
  | error
  | warning
  | info
  deriving DecidableEq, Repr

namespace Severity

/-- The name of a severity. -/
def name : Severity → Text
  | error => "error"
  | warning => "warning"
  | info => "info"

/-- All severities, the gravest first. -/
def all : List Severity := [error, warning, info]

end Severity

/-- A remark over a range of the document. -/
structure Message where
  severity : Severity
  text : Text
  start : Position
  stop : Position
  deriving DecidableEq, Repr

namespace Message

/-- A remark without a place, which stands at the beginning of the document. -/
def unplaced (severity : Severity) (text : Text) : Message :=
  ⟨severity, text, Position.start, Position.start⟩

/-- The range of the message touches the line. -/
def coversLine (message : Message) (line : Nat) : Bool :=
  message.start.line ≤ line && line ≤ message.stop.line

/-- The severity, the text and the line, counted from one. -/
def display (message : Message) : Text :=
  "[" ++ message.severity.name ++ "] " ++ message.text ++ " at line " ++
    Text.decimal (message.start.line + 1)

/-- The words that begin an error about goals left open. -/
def unsolvedGoals : Text := "unsolved goals"

/-- The goals that an `unsolved goals` error lists, when it lists any. -/
def unsolvedGoal? (message : Message) : Option Text :=
  match message.severity with
  | .error =>
    match Text.after? unsolvedGoals (Text.trimStart message.text) with
    | some rest => if Text.allBlank rest then none else some (Text.trim rest)
    | none => none
  | .warning | .info => none

/-- Some message has the severity. -/
def anyOf (severity : Severity) (messages : List Message) : Bool :=
  messages.any fun message => message.severity = severity

end Message

/-- An open proof obligation. -/
structure Goal where
  text : Text
  position : Position
  proofState : Option Nat
  deriving DecidableEq, Repr

namespace Goal

/-- The number of characters of its text that a displayed goal shows. -/
def shownLength : Nat := 100

/-- The line, counted from one, and the beginning of the text. -/
def display (goal : Goal) : Text :=
  "Goal at line " ++ Text.decimal (goal.position.line + 1) ++ ": " ++ goal.text.take shownLength ++
    (if shownLength < goal.text.length then ("..." : Text) else [])

end Goal
end ProofDesk
