import ProofDesk.Dialogue
import ProofDesk.Session.Outline

/-!
# Working on a session

Loading a document, editing a clause and adding an outline each end with a verification of the
whole document. The verifier is asked in a dialogue, so a step is the same for every verifier.

* `Session.load`, `Session.edit`, `Session.addOutline` — the steps that change a session.
* `Session.perform` — any step, also one that only looks.
-/

namespace ProofDesk

/-- A computation that may have texts verified. -/
abbrev Verified (α : Type) : Type := Dialogue Text (fun _ => Verification) α

/-- What an edit did. -/
structure EditResult where
  clauseId : Text
  category : Category
  oldContent : Text
  newContent : Text
  compilation : CompileResult
  document : Text
  deriving DecidableEq, Repr

namespace Session

/-- Verifies the document. -/
def compile (session : Session) : Verified (CompileResult × Session) := do
  let report ← Dialogue.question session.submission
  let session := session.absorb report
  return (session.result report, session)

/-- Replaces the document and verifies it. -/
def load (document : Text) (session : Session) : Verified (CompileResult × Session) :=
  compile { session with document }

/-- The clause with an id, and the document with that clause replaced. -/
def planEdit (id new : Text) (session : Session) : Except EditError (Clause × Text) :=
  match session.clause? id with
  | none => .error (.clauseNotFound id)
  | some clause => (clause.splice session.document new).map fun document => (clause, document)

/-- Replaces a clause and verifies the whole document; an edit that is refused changes nothing. -/
def edit (id new : Text) (session : Session) : Verified (Except EditError EditResult × Session) :=
  match session.planEdit id new with
  | .error refusal => return (.error refusal, session)
  | .ok (clause, document) => do
    let (compilation, session) ← session.load document
    return (.ok {
      clauseId := clause.id
      category := clause.category
      oldContent := clause.content
      newContent := new
      compilation, document }, session)

/-- Puts an outline in the place of the first clause that admits one. -/
def addOutline (lines : List Text) (session : Session) :
    Verified (Except EditError EditResult × Session) :=
  match session.outlineTarget? with
  | none => return (.error .noEditableTarget, session)
  | some target => session.edit target.id (session.outlineText target lines)

/-- One thing to do with a session. -/
inductive Step
  | load (document : Text)
  | edit (id new : Text)
  | addOutline (lines : List Text)
  | panel
  | suggestions
  | info
  | clause (id : Text)
  | goalAt (line column : Nat)
  | messagesAt (line column : Nat)
  deriving DecidableEq, Repr

/-- What a step answers. -/
inductive Answer
  | compiled (result : CompileResult)
  | edited (result : EditResult)
  | refused (error : EditError)
  | panel (panel : Panel)
  | suggestions (texts : List Text)
  | info (info : Info)
  | clause (clause : Option Clause)
  | goal (goal : Option Goal)
  | messages (messages : List Message)
  deriving DecidableEq, Repr

/-- The answer of an edit. -/
def Answer.ofEdit : Except EditError EditResult → Answer
  | .ok result => edited result
  | .error error => refused error

/-- Performs a step. -/
def perform (session : Session) : Step → Verified (Answer × Session)
  | .load document => do
    let (result, session) ← session.load document
    return (.compiled result, session)
  | .edit id new => do
    let (result, session) ← session.edit id new
    return (Answer.ofEdit result, session)
  | .addOutline lines => do
    let (result, session) ← session.addOutline lines
    return (Answer.ofEdit result, session)
  | .panel => return (.panel session.panel, session)
  | .suggestions => return (.suggestions session.suggestions, session)
  | .info => return (.info session.info, session)
  | .clause id => return (.clause (session.clause? id), session)
  | .goalAt line _ => return (.goal (session.goalAt? line), session)
  | .messagesAt line _ => return (.messages (session.messagesAt line), session)

end Session
end ProofDesk
