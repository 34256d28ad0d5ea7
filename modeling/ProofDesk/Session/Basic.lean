import ProofDesk.Clause.Scan
import ProofDesk.Clause.Splice
import ProofDesk.Session.Renaming
import ProofDesk.Verification

/-!
# The state of a proof-editing session

A session owns a document and what is known about it: the messages of the last verification, the
open goals and the editable clauses.

* `deriveMessages` and `deriveGoals` — what follows from a report.
* `Session.submission` — the text that is sent to the verifier.
* `Session.absorb` — the session after the verifier's report on it, which sets everything but the
  document, so that no part of the state is older than the document.
-/

namespace ProofDesk

/-- Which session it is, and which desk it belongs to. -/
structure Identity where
  sessionId : Text
  instanceId : Text
  deriving DecidableEq, Repr

/-! ### What follows from a report -/

/-- The messages of a report on `source`. Structured diagnostics keep their places; free text gives
one message for each severity. A report with nothing to say gets a note. -/
def deriveMessages (report : Verification) (source : Text) : List Message :=
  let messages := match report.diagnostics with
    | some diagnostics => diagnostics.map (Diagnostic.toMessage · source)
    | none => Diagnostic.taggedMessages report.response
  if Text.trim report.response = "Success" then
    messages ++ [Message.unplaced .info "Compilation successful"]
  else if messages = [] then [Message.unplaced .info "Compilation completed"]
  else messages

/-- The goal of a placeholder. -/
def placeholderGoal (proofState : Option Nat) (place : Position) : Goal :=
  ⟨"Goal at sorry on line " ++ Text.decimal (place.line + 1), place, proofState⟩

/-- One goal for each placeholder of the document, and then one for each error that lists goals. -/
def deriveGoals (document : Text) (messages : List Message) (proofState : Option Nat) : List Goal :=
  (Source.placeholders document).map (placeholderGoal proofState) ++
    messages.filterMap fun message =>
      message.unsolvedGoal?.map fun text => ⟨text, message.start, proofState⟩

/-! ### Sessions -/

/-- A document and what is known about it. -/
structure Session where
  identity : Identity
  /-- Declarations get a suffix of the session's own before they are verified. -/
  uniqueNames : Bool
  document : Text
  /-- The number of verifications so far. -/
  compilations : Nat
  messages : List Message
  goals : List Goal
  clauses : List Clause
  proofState : Option Nat
  deriving DecidableEq, Repr

/-- What a verification of the document showed. -/
structure CompileResult where
  /-- No message is an error. -/
  success : Bool
  hasErrors : Bool
  hasWarnings : Bool
  /-- The verifier reported an incomplete proof. -/
  hasOpenGoal : Bool
  timedOut : Bool
  messages : List Message
  goals : List Goal
  clauseIds : List Text
  /-- The number of the verification. -/
  compilationId : Nat
  proofState : Option Nat
  rawResponse : Text
  identity : Identity
  deriving DecidableEq, Repr

namespace Session

/-- A session with an empty document, which has not been verified. -/
def fresh (identity : Identity) (uniqueNames : Bool) : Session :=
  ⟨identity, uniqueNames, [], 0, [], [], [], none⟩

/-- The suffix of the names that the session declares. -/
def suffix (session : Session) : Text := Renaming.suffixOf session.identity.sessionId

/-- The text that is sent to the verifier. -/
def submission (session : Session) : Text :=
  if session.uniqueNames then Renaming.suffixNames session.suffix session.document
  else session.document

/-- A message about the submitted text as one about the document. -/
def restoreMessage (session : Session) (submitted : Text) (message : Message) : Message :=
  if session.uniqueNames then
    let place := Renaming.stripColumn session.suffix (Text.lines submitted)
    { message with
      text := Text.eraseAll session.suffix message.text
      start := place message.start
      stop := place message.stop }
  else message

/-- The messages of a report on the submitted text, as messages about the document. -/
def receivedMessages (session : Session) (report : Verification) : List Message :=
  (deriveMessages report session.submission).map (session.restoreMessage session.submission)

/-- The session after a report on its submission. -/
def absorb (session : Session) (report : Verification) : Session :=
  let messages := session.receivedMessages report
  { session with
    compilations := session.compilations + 1
    messages
    goals := deriveGoals session.document messages report.proofState
    clauses := Clause.scan session.document
    proofState := report.proofState }

/-- What the last report showed, once the session has absorbed it. -/
def result (session : Session) (report : Verification) : CompileResult :=
  let hasErrors := Message.anyOf .error session.messages
  { success := !hasErrors
    hasErrors
    hasWarnings := Message.anyOf .warning session.messages
    hasOpenGoal := report.hasSorry || Diagnostic.saysIncomplete report.response
    timedOut := report.timedOut
    messages := session.messages
    goals := session.goals
    clauseIds := session.clauses.map Clause.id
    compilationId := session.compilations
    proofState := session.proofState
    rawResponse := report.response
    identity := session.identity }

/-- The first clause with an id. -/
def clause? (session : Session) (id : Text) : Option Clause :=
  session.clauses.find? fun clause => clause.id = id

/-! ### Views -/

/-- A clause in the panel. -/
structure ClauseLine where
  id : Text
  summary : Text
  deriving DecidableEq, Repr

/-- What a reader is shown of a session. -/
structure Panel where
  document : Text
  messages : List Text
  goals : List Text
  clauses : List ClauseLine
  compilationId : Nat
  identity : Identity
  deriving DecidableEq, Repr

/-- The session as it is shown. -/
def panel (session : Session) : Panel where
  document := session.document
  messages := session.messages.map Message.display
  goals := session.goals.map Goal.display
  clauses := session.clauses.map fun clause => ⟨clause.id, clause.summary⟩
  compilationId := session.compilations
  identity := session.identity

/-- The size of a session in numbers. -/
structure Info where
  identity : Identity
  compilationId : Nat
  documentBytes : Nat
  messages : Nat
  goals : Nat
  clauses : Nat
  deriving DecidableEq, Repr

/-- The numbers of a session. -/
def info (session : Session) : Info :=
  ⟨session.identity, session.compilations, Text.size session.document, session.messages.length,
    session.goals.length, session.clauses.length⟩

/-- What to do next: errors, placeholders and warnings in this order; with none of them the proof
is announced to be complete. -/
def suggestions (session : Session) : List Text :=
  let sorries := session.clauses.filter fun clause => clause.category = .placeholder
  let found : List Text :=
    (if Message.anyOf .error session.messages then ["Fix compilation errors first".toList]
      else []) ++
    (if sorries = [] then [] else
      ["Work on sorry clauses: " ++ List.intercalate ", ".toList (sorries.map Clause.id)]) ++
    (if Message.anyOf .warning session.messages then ["Address compiler warnings".toList] else [])
  if found = [] then ["Proof looks complete!".toList] else found

/-- The first goal on a line. -/
def goalAt? (session : Session) (line : Nat) : Option Goal :=
  session.goals.find? fun goal => goal.position.line = line

/-- The messages whose range touches a line. -/
def messagesAt (session : Session) (line : Nat) : List Message :=
  session.messages.filter (Message.coversLine · line)

end Session
end ProofDesk
