import ProofDesk.Dialogue
import ProofDesk.Prover.Config
import ProofDesk.Prover.Feedback
import ProofDesk.Prover.Generation
import ProofDesk.Prover.Statement

/-!
# Attempts at a proof

An attempt is a conversation with a generator: it proposes a proof, the verifier checks it under
the signature of the statement, and the errors are the next turn.

* `Reading` — what a generation turns out to be; `Reading.fullCode` is the text that is checked.
* `Conversation.afterTurn` — the conversation after one more turn.
* `attempt` — one attempt. Only a generator that fails ends it with an error.
* `attemptRepeatedly` — attempts from scratch until one succeeds.
-/

namespace ProofDesk
namespace Prover

/-- What is asked while a proof is looked for. -/
inductive Inquiry
  /-- The next turn of the assistant. -/
  | generate (turns : List Turn)
  /-- The report on a text. -/
  | verify (text : Text)
  deriving DecidableEq, Repr

/-- The answers: a generation or the error of the generator, and a report. -/
abbrev Inquiry.Answer : Inquiry → Type
  | generate _ => Except Text Text
  | verify _ => Verification

/-- A computation that asks a generator and a verifier. -/
abbrev Search (α : Type) : Type := Dialogue Inquiry Inquiry.Answer α

/-- Asks for the next turn of the assistant. -/
def generate (turns : List Turn) : Search (Except Text Text) :=
  Dialogue.question (Inquiry.generate turns)

/-- Asks for the report on a text. -/
def verify (text : Text) : Search Verification := Dialogue.question (Inquiry.verify text)

/-! ### Readings of a generation -/

/-- What a generation turns out to be. -/
inductive Reading
  /-- It holds no code. -/
  | unparsed
  /-- Its code cannot be put under the statement; `text` says why. -/
  | unmatched (code text : Text)
  /-- Its code under the signature of the statement, to be verified. -/
  | checked (code text : Text)
  deriving DecidableEq, Repr

namespace Reading

/-- Reads a generation under a statement; the marker of a mismatch anywhere in the text counts. -/
def ofGeneration (statement generation : Text) : Reading :=
  match Generation.code? generation with
  | none => unparsed
  | some code =>
    let text := Statement.imposedText statement code
    if Text.contains Statement.errorMarker text then unmatched code text else checked code text

/-- The code as it was generated. -/
def code? : Reading → Option Text
  | unparsed => none
  | unmatched code _ | checked code _ => some code

/-- The code under the signature of the statement, or why there is none. -/
def fullCode : Reading → Text
  | unparsed => []
  | unmatched _ text | checked _ text => text

end Reading

/-! ### Records and conversations -/

/-- One turn of an attempt. -/
structure Record where
  turn : Nat
  code : Option Text
  fullCode : Text
  status : Status
  response : Text
  feedback : Option Text
  deriving DecidableEq, Repr

/-- An attempt as far as it has come. -/
structure Conversation where
  /-- The turns that the generator is shown. -/
  transcript : List Turn
  /-- The turns with every generation as it came. -/
  fullTranscript : List Turn
  records : List Record
  deriving DecidableEq, Repr

/-- The turn of the assistant that keeps only the code. -/
def codeTurn (fullCode : Text) : Turn :=
  ⟨.assistant, "```lean4\n" ++ Text.trim fullCode ++ "\n```"⟩

namespace Conversation

/-- The conversation of an attempt that has not begun. -/
def ofTurns (base : List Turn) : Conversation := ⟨base, base, []⟩

/-- The conversation with a generation added to both transcripts. -/
def hear (config : Config) (base : List Turn) (generation : Text) (reading : Reading)
    (talk : Conversation) : Conversation :=
  let transcript := match reading with
    | .checked _ fullCode =>
      if config.codeOnly then
        (if config.latestOnly then base else talk.transcript) ++ [codeTurn fullCode]
      else talk.transcript ++ [⟨.assistant, generation⟩]
    | .unparsed | .unmatched _ _ => talk.transcript ++ [⟨.assistant, generation⟩]
  { talk with transcript, fullTranscript := talk.fullTranscript ++ [⟨.assistant, generation⟩] }

/-- The conversation with a turn of the user added to both transcripts. -/
def say (text : Text) (talk : Conversation) : Conversation :=
  { talk with
    transcript := talk.transcript ++ [⟨.user, text⟩]
    fullTranscript := talk.fullTranscript ++ [⟨.user, text⟩] }

/-- The conversation with a record added. -/
def note (record : Record) (talk : Conversation) : Conversation :=
  { talk with records := talk.records ++ [record] }

/-- The last record is one of success. -/
def succeeded (talk : Conversation) : Bool :=
  talk.records.getLast?.any fun record => record.status.isSuccess

end Conversation

/-! ### Turns -/

/-- The record of a turn with this verdict. -/
def recordOf (config : Config) (turn : Nat) (reading : Reading) (status : Status)
    (response feedback : Text) : Record where
  turn
  code := reading.code?
  fullCode := reading.fullCode
  status
  response
  feedback := if status.isSuccess then none else some (config.refineTurn feedback)

/-- Judges a generation; only code under the signature of the statement is verified. -/
def judge (config : Config) (turn : Nat) (reading : Reading) : Search Record :=
  match reading with
  | .unparsed => return recordOf config turn reading .unparsed [] Feedback.unparsedText
  | .unmatched _ text => return recordOf config turn reading .failed text text
  | .checked _ fullCode => do
    let report ← verify fullCode
    let status := Feedback.classify report
    return recordOf config turn reading status report.response
      (Feedback.feedbackMessage fullCode report status)

/-- The attempt from turn number `turn` on, with at most `left` turns to go. -/
def attemptFrom (config : Config) (statement : Text) (base : List Turn) (turn : Nat) :
    (left : Nat) → Conversation → Search (Except Text Conversation)
  | 0, talk => return .ok talk
  | left + 1, talk => do
    match ← generate talk.transcript with
    | .error error => return .error error
    | .ok generation =>
      let reading := Reading.ofGeneration statement generation
      let record ← judge config turn reading
      let talk := (talk.hear config base generation reading).note record
      match record.feedback with
      | some feedback =>
        if config.refinement && left != 0 then
          attemptFrom config statement base (turn + 1) left (talk.say feedback)
        else return .ok talk
      | none => return .ok talk

/-- A finished attempt. -/
structure Attempt where
  success : Bool
  /-- The statement with a placeholder for its proof. -/
  statement : Text
  records : List Record
  transcript : List Turn
  fullTranscript : List Turn
  deriving DecidableEq, Repr

namespace Attempt

/-- The attempt that a conversation amounts to. -/
def ofConversation (statement : Text) (talk : Conversation) : Attempt :=
  ⟨talk.succeeded, statement, talk.records, talk.transcript, talk.fullTranscript⟩

/-- The full code of the last turn with code. -/
def finalCode? (attempt : Attempt) : Option Text :=
  (attempt.records.reverse.find? fun record => record.code.isSome).map Record.fullCode

end Attempt

/-- The statement that an attempt is about. -/
def normalStatement (formalStatement : Text) : Text :=
  Statement.refineBySorry (Text.trim formalStatement)

/-- One attempt at a statement. -/
def attempt (config : Config) (formalStatement : Text) : Search (Except Text Attempt) := do
  let statement := normalStatement formalStatement
  let base := config.initialTurns statement
  let result ← attemptFrom config statement base 0 config.maxTurns (Conversation.ofTurns base)
  return result.map (Attempt.ofConversation statement)

/-- The outcome of several attempts. -/
structure Outcome where
  success : Bool
  /-- The number of attempts that were made. -/
  attempts : Nat
  last : Attempt
  deriving DecidableEq, Repr

/-- The outcome after `made` attempts and one more. -/
def outcomeOf (made : Nat) (last : Attempt) : Outcome := ⟨last.success, made + 1, last⟩

/-- One attempt after `made` others, and then at most `left` more until one succeeds. -/
def repeatFrom (config : Config) (formalStatement : Text) (made : Nat) :
    (left : Nat) → Search (Except Text Outcome)
  | 0 => do return (← attempt config formalStatement).map (outcomeOf made)
  | left + 1 => do
    match ← attempt config formalStatement with
    | .error error => return .error error
    | .ok last =>
      if last.success then return .ok (outcomeOf made last)
      else repeatFrom config formalStatement (made + 1) left

/-- Attempts at a statement until one succeeds or the configured number of them is used up. -/
def attemptRepeatedly (config : Config) (formalStatement : Text) : Search (Except Text Outcome) :=
  repeatFrom config formalStatement 0 (config.attempts - 1)

end Prover
end ProofDesk
