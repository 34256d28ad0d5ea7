import ProofDesk.Prover.Attempt
import ProofDesk.Proofs.Dialogue

/-!
# The turns of an attempt

A turn asks the generator once and the verifier at most once, and then the attempt is over or goes on
with the feedback. Every law of an attempt is an induction over its turns.

* `Record.checked` — the record of a turn whose code was verified.
* `Judged` — what a record says of its generation, and what was asked about it.
* `attemptFrom_turn` and `attemptFrom_cases` — what a turn can do.
* `calls` and `verifications` — what the generator and the verifier were asked, and what they said.
-/

namespace ProofDesk
namespace Prover

open Dialogue (Exchange Held)

variable {config : Config} {statement generation : Text} {base : List Turn} {turn left : Nat}
  {talk : Conversation} {record : Record} {result : Except Text Conversation}
  {said checks : List (Exchange Inquiry Inquiry.Answer)}

/-! ### Judgements -/

/-- The generation has code that could be put under the statement. -/
def Record.checked (record : Record) : Bool :=
  record.code.isSome && !Text.contains Statement.errorMarker record.fullCode

/-- What the verifier was asked about a record: its full code when there is one, which decides the
status, and nothing otherwise. -/
inductive Checks (record : Record) : List (Exchange Inquiry Inquiry.Answer) → Prop
  | asked (report : Verification) (checked : record.checked = true)
      (status : record.status = Feedback.classify report) :
      Checks record [⟨.verify record.fullCode, report⟩]
  | unasked (unchecked : record.checked = false) (status : record.status ≠ .proved) :
      Checks record []

/-- **What a record says** of the generation of turn number `turn`, after these checks. -/
structure Judged (statement generation : Text) (turn : Nat) (record : Record)
    (checks : List (Exchange Inquiry Inquiry.Answer)) : Prop where
  turn : record.turn = turn
  code : record.code = (Reading.ofGeneration statement generation).code?
  fullCode : record.fullCode = (Reading.ofGeneration statement generation).fullCode
  feedback : record.status = .proved ↔ record.feedback = none
  checks : Checks record checks

/-- The marker of a mismatch tells code that is verified from code that is not. -/
theorem contains_errorMarker_of_ofGeneration {code text : Text} :
    (Reading.ofGeneration statement generation = .unmatched code text →
        Text.contains Statement.errorMarker text = true) ∧
      (Reading.ofGeneration statement generation = .checked code text →
        Text.contains Statement.errorMarker text = false) := by
  unfold Reading.ofGeneration
  split
  · exact ⟨nofun, nofun⟩
  · dsimp only
    split
    · next marked => exact ⟨fun same => by cases same; exact marked, nofun⟩
    · next unmarked => exact ⟨nofun, fun same => by cases same; simpa using unmarked⟩

theorem feedback_recordOf (reading : Reading) (status : Status) (response feedback : Text) :
    (recordOf config turn reading status response feedback).status = .proved ↔
      (recordOf config turn reading status response feedback).feedback = none := by
  cases status <;> simp [recordOf, Status.isSuccess]

theorem judged_of_held
    (held : Held (judge config turn (Reading.ofGeneration statement generation)) checks record) :
    Judged statement generation turn record checks := by
  cases reading : Reading.ofGeneration statement generation with
  | unparsed =>
    rw [reading] at held
    cases held
    exact ⟨rfl, by rw [reading]; rfl, by rw [reading]; rfl, feedback_recordOf .., .unasked rfl nofun⟩
  | unmatched code text =>
    rw [reading] at held
    cases held
    have marked := contains_errorMarker_of_ofGeneration.1 reading
    refine ⟨rfl, by rw [reading]; rfl, by rw [reading]; rfl, feedback_recordOf .., .unasked ?_ nofun⟩
    show (true && !Text.contains Statement.errorMarker text) = false
    rw [marked]
    rfl
  | checked code text =>
    rw [reading] at held
    cases held with
    | ask report rest =>
      cases rest
      have unmarked := contains_errorMarker_of_ofGeneration.2 reading
      refine ⟨rfl, by rw [reading]; rfl, by rw [reading]; rfl, feedback_recordOf ..,
        .asked report ?_ rfl⟩
      show (true && !Text.contains Statement.errorMarker text) = true
      rw [unmarked]
      rfl

/-! ### One turn -/

/-- The conversation after a generation and its record. -/
def Conversation.judged (config : Config) (statement : Text) (base : List Turn) (generation : Text)
    (record : Record) (talk : Conversation) : Conversation :=
  (talk.hear config base generation (Reading.ofGeneration statement generation)).note record

/-- **What a turn can do**: the generator fails, or its generation is judged, and then the attempt is
over or goes on with the feedback. -/
theorem attemptFrom_turn
    (held : Held (attemptFrom config statement base turn (left + 1) talk) said result) :
    (∃ error, said = [⟨.generate talk.transcript, .error error⟩] ∧ result = .error error) ∨
      ∃ generation record checks rest,
        said = ⟨.generate talk.transcript, .ok generation⟩ :: (checks ++ rest) ∧
        Held (judge config turn (Reading.ofGeneration statement generation)) checks record ∧
        (((record.feedback = none ∨ config.refinement = false ∨ left = 0) ∧ rest = [] ∧
            result = .ok (talk.judged config statement base generation record)) ∨
          ∃ feedback, record.feedback = some feedback ∧ config.refinement = true ∧ left ≠ 0 ∧
            Held (attemptFrom config statement base (turn + 1) left
              ((talk.judged config statement base generation record).say feedback)) rest result) := by
  unfold attemptFrom at held
  cases held with
  | ask answer held =>
    cases answer with
    | error error =>
      cases held
      exact .inl ⟨error, rfl, rfl⟩
    | ok generation =>
      change Held (judge config turn (Reading.ofGeneration statement generation) >>= _) _ _ at held
      obtain ⟨checks, rest, record, rfl, judged, held⟩ := Dialogue.held_bind.1 held
      refine .inr ⟨generation, record, checks, rest, rfl, judged, ?_⟩
      dsimp only at held
      cases told : record.feedback with
      | none =>
        rw [told] at held
        cases held
        exact .inl ⟨.inl rfl, rfl, rfl⟩
      | some feedback =>
        rw [told] at held
        dsimp only at held
        split at held
        · next goesOn =>
          rw [Bool.and_eq_true, bne_iff_ne] at goesOn
          exact .inr ⟨feedback, rfl, goesOn.1, goesOn.2, held⟩
        · next stops =>
          cases held
          refine .inl ⟨.inr ?_, rfl, rfl⟩
          by_cases refined : config.refinement = true
          · exact .inr (by simpa [refined] using stops)
          · exact .inl (by simpa using refined)

/-- The same with what the record says of the generation. -/
theorem attemptFrom_cases
    (held : Held (attemptFrom config statement base turn (left + 1) talk) said result) :
    (∃ error, said = [⟨.generate talk.transcript, .error error⟩] ∧ result = .error error) ∨
      ∃ generation record checks rest,
        said = ⟨.generate talk.transcript, .ok generation⟩ :: (checks ++ rest) ∧
        Judged statement generation turn record checks ∧
        (((record.feedback = none ∨ config.refinement = false ∨ left = 0) ∧ rest = [] ∧
            result = .ok (talk.judged config statement base generation record)) ∨
          ∃ feedback, record.feedback = some feedback ∧ config.refinement = true ∧ left ≠ 0 ∧
            Held (attemptFrom config statement base (turn + 1) left
              ((talk.judged config statement base generation record).say feedback)) rest result) := by
  rcases attemptFrom_turn held with failed | ⟨generation, record, checks, rest, whole, judged, ended⟩
  · exact .inl failed
  · exact .inr ⟨generation, record, checks, rest, whole, judged_of_held judged, ended⟩

/-- **An attempt is its turns**, read as an attempt at the end. -/
theorem exists_held_attemptFrom {formalStatement : Text} {result : Except Text Attempt}
    (held : Held (attempt config formalStatement) said result) :
    ∃ talked, result = talked.map (Attempt.ofConversation (normalStatement formalStatement)) ∧
      Held (attemptFrom config (normalStatement formalStatement)
        (config.initialTurns (normalStatement formalStatement)) 0 config.maxTurns
        (Conversation.ofTurns (config.initialTurns (normalStatement formalStatement)))) said talked := by
  obtain ⟨talked, held, same⟩ := Dialogue.held_map.1 held
  exact ⟨talked, same, held⟩

theorem exists_maxTurns_of_valid (valid : config.Valid) : ∃ left, config.maxTurns = left + 1 :=
  Nat.exists_eq_succ_of_ne_zero (Config.valid_iff.1 valid).1

/-! ### What was asked -/

/-- The turns that the generator was shown, and what came of them. -/
def generation? : Exchange Inquiry Inquiry.Answer → Option (List Turn × Except Text Text)
  | ⟨.generate turns, answer⟩ => some (turns, answer)
  | ⟨.verify _, _⟩ => none

/-- The text that was verified, and the report on it. -/
def verification? : Exchange Inquiry Inquiry.Answer → Option (Text × Verification)
  | ⟨.generate _, _⟩ => none
  | ⟨.verify text, report⟩ => some (text, report)

/-- The calls of the generator, in order. -/
def calls (said : List (Exchange Inquiry Inquiry.Answer)) : List (List Turn × Except Text Text) :=
  said.filterMap generation?

/-- The verifications, in order. -/
def verifications (said : List (Exchange Inquiry Inquiry.Answer)) : List (Text × Verification) :=
  said.filterMap verification?

theorem Checks.calls (asked : Checks record checks) : Prover.calls checks = [] := by
  cases asked <;> rfl

theorem calls_turn (asked : Checks record checks) (turns : List Turn) (answer : Except Text Text)
    (rest : List (Exchange Inquiry Inquiry.Answer)) :
    calls (⟨.generate turns, answer⟩ :: (checks ++ rest)) = (turns, answer) :: calls rest := by
  show (turns, answer) :: calls (checks ++ rest) = _
  have silent : calls checks = [] := asked.calls
  unfold calls at silent ⊢
  rw [List.filterMap_append, silent, List.nil_append]

end Prover
end ProofDesk
