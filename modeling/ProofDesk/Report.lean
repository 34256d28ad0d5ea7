import ProofDesk.Json.Basic
import ProofDesk.Prover.Attempt
import ProofDesk.Session.Step

/-!
# Reports

The JSON forms of what sessions and the prover answer. A record has one field for each of its
parts, and a name stands for each choice.
-/

namespace ProofDesk

/-- A field of a record. -/
def Json.field {α : Type} [ToJson α] (key : String) (value : α) : Text × Json :=
  (key.toList, toJson value)

open Json (field record)

instance : ToJson Severity := ⟨fun severity => toJson severity.name⟩
instance : ToJson Category := ⟨fun category => toJson category.name⟩
instance : ToJson Status := ⟨fun status => toJson status.name⟩
instance : ToJson Role := ⟨fun role => toJson role.name⟩

instance : ToJson Position where
  toJson place := record [field "line" place.line, field "column" place.column]

instance : ToJson Diagnostic where
  toJson diagnostic := record [
    field "severity" diagnostic.severity, field "line" diagnostic.line,
    field "col" diagnostic.column, field "end_line" diagnostic.endLine,
    field "end_col" diagnostic.endColumn, field "text" diagnostic.text]

instance : ToJson Message where
  toJson message := record [
    field "severity" message.severity, field "text" message.text, field "start" message.start,
    field "end" message.stop]

instance : ToJson Goal where
  toJson goal := record [
    field "text" goal.text, field "position" goal.position,
    field "proof_state" goal.proofState]

instance : ToJson Clause where
  toJson clause := record [
    field "id" clause.id, field "category" clause.category, field "start" clause.start,
    field "end" clause.stop, field "content" clause.content]

instance : ToJson Verification where
  toJson report := record [
    field "response" report.response, field "diagnostics" report.diagnostics,
    field "has_sorry" report.hasSorry, field "proof_state" report.proofState,
    field "timed_out" report.timedOut]

instance : ToJson Identity where
  toJson identity := record [
    field "session_id" identity.sessionId, field "instance_id" identity.instanceId]

instance : ToJson CompileResult where
  toJson result := record [
    field "success" result.success, field "has_errors" result.hasErrors,
    field "has_warnings" result.hasWarnings, field "has_open_goal" result.hasOpenGoal,
    field "timed_out" result.timedOut, field "messages" result.messages,
    field "goals" result.goals, field "clause_ids" result.clauseIds,
    field "compilation_id" result.compilationId, field "proof_state" result.proofState,
    field "raw_response" result.rawResponse, field "session" result.identity]

instance : ToJson EditResult where
  toJson result := record [
    field "clause_id" result.clauseId, field "category" result.category,
    field "old_content" result.oldContent, field "new_content" result.newContent,
    field "compilation" result.compilation, field "updated_document" result.document]

instance : ToJson Session.ClauseLine where
  toJson line := record [field "id" line.id, field "summary" line.summary]

instance : ToJson Session.Panel where
  toJson panel := record [
    field "current_document" panel.document, field "messages" panel.messages,
    field "goals" panel.goals, field "clauses" panel.clauses,
    field "compilation_id" panel.compilationId, field "session" panel.identity]

instance : ToJson Session.Info where
  toJson info := record [
    field "session" info.identity, field "compilation_id" info.compilationId,
    field "document_bytes" info.documentBytes, field "messages" info.messages,
    field "goals" info.goals, field "clauses" info.clauses]

instance : ToJson Outline where
  toJson outline := record [field "title" outline.title, field "lines" outline.lines]

instance : ToJson Turn where
  toJson turn := record [field "role" turn.role, field "content" turn.content]

instance : ToJson Prover.Config where
  toJson config := record [
    field "max_turns" config.maxTurns, field "n_pass" config.attempts,
    field "refinement" config.refinement, field "remove_cot" config.codeOnly,
    field "delete_wrong_turns" config.latestOnly, field "system_prompt" config.systemPrompt,
    field "prompt_template" config.prompt, field "refine_template" config.refinePrompt]

instance : ToJson Prover.Record where
  toJson turn := record [
    field "turn" turn.turn, field "code" turn.code, field "full_code" turn.fullCode,
    field "status" turn.status, field "response" turn.response,
    field "feedback" turn.feedback]

instance : ToJson Prover.Attempt where
  toJson attempt := record [
    field "success" attempt.success, field "statement" attempt.statement,
    field "records" attempt.records, field "transcript" attempt.transcript,
    field "full_transcript" attempt.fullTranscript]

instance : ToJson Prover.Outcome where
  toJson outcome := record [
    field "success" outcome.success, field "n_pass" outcome.attempts,
    field "last" outcome.last]

end ProofDesk
