import ProofDesk.Clause.Basic
import ProofDesk.Text.Blank

/-!
# Replacing a clause

* `Clause.splice` — the document with the span of a clause replaced.
* `EditError` — why an edit is refused, with its wording in `EditError.message`.
-/

namespace ProofDesk

/-- Why an edit is refused. -/
inductive EditError
  /-- No clause has this id. -/
  | clauseNotFound (id : Text)
  /-- No clause can be expanded into a structured proof. -/
  | noEditableTarget
  /-- The span of the clause does not fit the document. -/
  | spanOutOfRange (clause : Clause)
  deriving DecidableEq, Repr

/-- The wording of a refusal. -/
def EditError.message : EditError → Text
  | .clauseNotFound id =>
    "clause `" ++ id ++ "` not found (clause ids are rebuilt after every load/edit)"
  | .noEditableTarget => "no main_proof or sorry clause to add structure to"
  | .spanOutOfRange clause =>
    "clause `" ++ clause.id ++ "` span " ++ Text.decimal clause.start.line ++ ":" ++
      Text.decimal clause.start.column ++ ".." ++ Text.decimal clause.stop.column ++
      " does not fit the current document"

namespace Clause

/-- One space, where new text would otherwise touch the word in front of an empty span. -/
def glue (before inside new : Text) : Text :=
  if inside = [] ∧ new ≠ [] ∧ (new.head?.any Text.isBlank) = false ∧
      (before.getLast?.any fun c => !Text.isBlank c) = true then [' ']
  else []

/-- A line with its span replaced. Text that begins with a line feed drops the blanks in front of
the span. -/
def spliceLine (before inside behind new : Text) : Text :=
  let before := if new.head? = some '\n' then Text.trimEnd before else before
  before ++ glue before inside new ++ new ++ behind

/-- The document with the span of the clause replaced by `new`. -/
def splice (document : Text) (clause : Clause) (new : Text) : Except EditError Text :=
  let lines := Text.lines document
  let cut := do
    guard (clause.start.line = clause.stop.line)
    clause.within? (← lines[clause.start.line]?)
  match cut with
  | some (before, inside, behind) =>
    .ok (Text.joinLines (lines.set clause.start.line (spliceLine before inside behind new)))
  | none => .error (.spanOutOfRange clause)

end Clause
end ProofDesk
