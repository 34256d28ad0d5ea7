import ProofDesk.Prover.Feedback
import ProofDesk.Proofs.Project.Verdict
import ProofDesk.Proofs.Session.Run

/-!
# A verdict of proof is affirmed by the session

The prover and a session judge the same report in ways of their own: the prover looks for an error,
for two words and for the word of a placeholder in any case, the session for messages of a severity
and for one sentence. Where the prover sees a proof, the session has nothing to object to.

* `classify_eq_proved` — what a report must be free of to be a proof.
* `severity_deriveMessages` — a report without an error gives no message of that severity.
* `affirms_of_proved` — **what the prover takes for a proof**, every session affirms.
-/

namespace ProofDesk

namespace Feedback

/-- **Only a report with nothing to object to is a proof.** -/
theorem classify_eq_proved {report : Verification} : classify report = .proved ↔
    report.timedOut = false ∧ reportsError report = false ∧ report.hasSorry = false ∧
      mentionsSorry report.response = false := by
  unfold classify
  cases report.timedOut <;> cases reportsError report <;> cases report.hasSorry <;>
    cases mentionsSorry report.response <;> simp

theorem mentionsSorryAfter_append {before : Option Char} {front t : Text}
    (mentions : mentionsSorryAfter (front.getLast?.or before) t = true) :
    mentionsSorryAfter before (front ++ t) = true := by
  induction front generalizing before with
  | nil => exact mentions
  | cons c front ih =>
    have later : mentionsSorryAfter (some c) (front ++ t) = true := by
      apply ih
      rwa [← Source.getLast?_cons_or]
    rw [List.cons_append, mentionsSorryAfter, later, Bool.or_true]

/-- Free text that says that a declaration has a placeholder has the word. -/
theorem mentionsSorry_of_saysIncomplete {response : Text}
    (claims : Diagnostic.saysIncomplete response = true) : mentionsSorry response = true := by
  obtain ⟨front, behind, rfl⟩ := Text.contains_iff.1 claims
  -- The word stands between quotes, which belong to no word.
  have marker : Diagnostic.incompleteMarker =
      "declaration uses ".toList ++ '\'' :: "sorry'".toList := by decide
  rw [marker, List.append_assoc, List.append_assoc, List.cons_append]
  refine mentionsSorryAfter_append (mentionsSorryAfter_append ?_)
  rfl

/-- Free text without an error has no tag of one. -/
theorem firstBlock?_error_of_reportsError {report : Verification}
    (free : report.diagnostics = none) (clear : reportsError report = false) :
    Diagnostic.firstBlock? .error report.response = none := by
  unfold reportsError at clear
  rw [free] at clear
  have untagged : Text.contains (Diagnostic.tag .error) report.response = false :=
    (Bool.or_eq_false_iff.1 clear).1
  unfold Diagnostic.firstBlock?
  rw [Option.map_eq_none_iff]
  exact Option.not_isSome_iff_eq_none.1 (Bool.eq_false_iff.1 untagged)

end Feedback

namespace Session

open Dialogue (Respondent)
open Feedback (classify reportsError)

variable {report : Verification} {message : Message}

theorem severity_taggedMessages {response : Text}
    (untagged : Diagnostic.firstBlock? .error response = none)
    (member : message ∈ Diagnostic.taggedMessages response) : message.severity ≠ .error := by
  obtain ⟨severity, -, block⟩ := List.mem_filterMap.1 member
  obtain ⟨text, found, rfl⟩ := Option.map_eq_some_iff.1 block
  rintro rfl
  rw [untagged] at found
  cases found

/-- **A report without an error** gives no message of that severity. -/
theorem severity_deriveMessages (clear : reportsError report = false) (source : Text)
    (member : message ∈ deriveMessages report source) : message.severity ≠ .error := by
  have note : ∀ text, (Message.unplaced .info text).severity ≠ .error := by
    intro text same
    cases same
  unfold deriveMessages at member
  extract_lets messages at member
  have reported : ∀ placed ∈ messages, placed.severity ≠ .error := by
    intro placed inside
    cases found : report.diagnostics with
    | none =>
      simp only [messages, found] at inside
      exact severity_taggedMessages (Feedback.firstBlock?_error_of_reportsError found clear) inside
    | some diagnostics =>
      simp only [messages, found] at inside
      obtain ⟨diagnostic, known, rfl⟩ := List.mem_map.1 inside
      rw [reportsError, found] at clear
      have other := List.any_eq_false.1 clear diagnostic known
      exact fun same => other (decide_eq_true same)
  split at member
  · rcases List.mem_append.1 member with placed | added
    · exact reported _ placed
    · obtain rfl := List.mem_singleton.1 added
      exact note _
  · split at member
    · obtain rfl := List.mem_singleton.1 member
      exact note _
    · exact reported _ member

/-- The result reports success, with nothing that is left open or was given up. -/
structure Affirms (result : CompileResult) : Prop where
  success : result.success = true
  noErrors : result.hasErrors = false
  noOpenGoal : result.hasOpenGoal = false
  inTime : result.timedOut = false

/-- **A report that is a proof is affirmed** by every session that absorbs it. -/
theorem affirms_result (session : Session) (proved : classify report = .proved) :
    Affirms ((session.absorb report).result report) := by
  obtain ⟨inTime, clear, whole, unmentioned⟩ := Feedback.classify_eq_proved.1 proved
  have silent : Message.anyOf .error (session.absorb report).messages = false := by
    rw [Message.anyOf, List.any_eq_false]
    intro message member error
    obtain ⟨source, derived, rfl⟩ := List.mem_map.1 member
    have same := of_decide_eq_true error
    rw [Project.severity_restoreMessage] at same
    exact severity_deriveMessages clear _ derived same
  have complete : Diagnostic.saysIncomplete report.response = false := by
    rw [Bool.eq_false_iff]
    intro claims
    rw [Feedback.mentionsSorry_of_saysIncomplete claims] at unmentioned
    cases unmentioned
  constructor
  · simp [result, silent]
  · simp [result, silent]
  · simp [result, whole, complete]
  · exact inTime

/-! ### Steps that tell a result -/

/-- An edit is refused or has one document verified, whatever state the session is in. -/
theorem edit_cases (session : Session) (id new : Text) :
    (∃ error, session.edit id new = .done (.error error, session)) ∨
      Accepts session (session.edit id new) := by
  unfold edit
  cases session.planEdit id new with
  | error refusal => exact .inl ⟨refusal, rfl⟩
  | ok plan =>
    exact .inr ⟨plan.2, fun compilation =>
      ⟨plan.1.id, plan.1.category, plan.1.content, new, compilation, plan.2⟩, fun _ => rfl, rfl⟩

/-- **A step either tells no result or has one document verified**, whatever state the session is in. -/
theorem silent_or_verifying (session : Session) (step : Step) :
    (∃ answer, session.perform step = .done (answer, session) ∧ answer.compilation? = none) ∨
      Verifying session step := by
  cases step with
  | load document => exact .inr ⟨document, .compiled, rfl, fun _ => ⟨rfl, rfl⟩⟩
  | edit id new =>
    rcases edit_cases session id new with ⟨error, refused⟩ | accepts
    · refine .inl ⟨.refused error, ?_, rfl⟩
      rw [perform, refused]
      rfl
    · exact .inr (accepts.verifying rfl fun _ => rfl)
  | addOutline lines =>
    cases found : session.outlineTarget? with
    | none =>
      refine .inl ⟨.refused .noEditableTarget, ?_, rfl⟩
      rw [perform, addOutline, found]
      rfl
    | some target =>
      have outlined : session.addOutline lines =
          session.edit target.id (session.outlineText target lines) := by
        rw [addOutline, found]
      rcases edit_cases session target.id (session.outlineText target lines) with
        ⟨error, refused⟩ | accepts
      · refine .inl ⟨.refused error, ?_, rfl⟩
        rw [perform, outlined, refused]
        rfl
      · rw [← outlined] at accepts
        exact .inr (accepts.verifying rfl fun _ => rfl)
  | panel => exact .inl ⟨_, rfl, rfl⟩
  | suggestions => exact .inl ⟨_, rfl, rfl⟩
  | info => exact .inl ⟨_, rfl, rfl⟩
  | clause id => exact .inl ⟨_, rfl, rfl⟩
  | goalAt line column => exact .inl ⟨_, rfl, rfl⟩
  | messagesAt line column => exact .inl ⟨_, rfl, rfl⟩

/-- **What the prover takes for a proof, every session affirms.** In any state, with or without a
suffix of its own, and whatever the verifier answers, in diagnostics or in free text: when the report
on the submitted text is a proof, loading the document is a success without errors, open goals or a
time-out; and so is every other step that tells a result, which is that of one such report. -/
theorem affirms_of_proved (session : Session) (verifier : Respondent Text fun _ => Verification)
    (said : List (Dialogue.Exchange Text fun _ => Verification)) :
    (∀ document, classify (verifier said { session with document }.submission) = .proved →
      Affirms ((session.load document).heldWith verifier said).1.1) ∧
    ∀ step, let held := (session.perform step).heldWith verifier said
      ∀ compiled, held.1.1.compilation? = some compiled →
        ∃ text, text = held.1.2.submission ∧ held.2 = said ++ [⟨text, verifier said text⟩] ∧
          (classify (verifier said text) = .proved → Affirms compiled) := by
  refine ⟨fun document proved => affirms_result _ proved, fun step => ?_⟩
  intro held compiled told
  rcases silent_or_verifying session step with ⟨answer, performed, silent⟩ |
    ⟨document, answer, performed, tells⟩
  · have held' : held.1.1 = answer := by
      show ((session.perform step).heldWith verifier said).1.1 = answer
      rw [performed]
      rfl
    rw [held', silent] at told
    cases told
  · have same : held = ((session.load document).bind fun outcome =>
        .done (answer outcome.1, outcome.2)).heldWith verifier said := by
      show (session.perform step).heldWith verifier said = _
      rw [performed]
      rfl
    rw [same] at told ⊢
    obtain rfl := Option.some.inj ((tells _).2.symm.trans told)
    exact ⟨_, rfl, rfl, fun proved => affirms_result _ proved⟩

/-- A verifier that answers in free text, with a tag of another severity in an odd place. -/
theorem affirms_of_proved_free_text :
    let session := fresh ⟨"5e551d01".toList, []⟩ true
    let verifier : Respondent Text fun _ => Verification :=
      fun _ _ => .ofResponse "sorryAx-free [warning] unused [error".toList
    let document : Text := "theorem t : True := by trivial".toList
    classify (verifier [] { session with document }.submission) = .proved ∧
      Affirms ((session.load document).heldWith verifier []).1.1 := by
  intro session verifier document
  have proved : classify (verifier [] { session with document }.submission) = .proved := by decide
  exact ⟨proved, (affirms_of_proved session verifier []).1 document proved⟩

end Session
end ProofDesk
