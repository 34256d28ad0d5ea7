import ProofDesk.Proofs.Prover.Accounting
import ProofDesk.Proofs.Prover.Conversation
import ProofDesk.Proofs.Prover.Signature

/-!
# Final code

The final code of an attempt is the full code of its last record with code. When this code could not be
put under the statement, its full code is the text of the mismatch, which nobody verified.

* `LastCoded` — the last record with code; `finalCode?_eq_some` says that the final code is its own.
* `verifiedTexts_eq` — the texts that were verified are the full codes of the checked records.
* `finalCode?_eq_iff` — the final code is the last text that was verified exactly when the last record
  with code was checked.
* `finalCode?_never_verified` — an attempt with a final code and no verification.
-/

namespace ProofDesk
namespace Prover

open Dialogue (Exchange Held Respondent)

variable {config : Config} {statement : Text} {base : List Turn} {turn left limit : Nat}
  {talk after : Conversation} {record : Record} {records : List Record} {attempt : Attempt}
  {said : List (Exchange Inquiry Inquiry.Answer)}

/-! ### The last record with code -/

/-- **The last record with code**: no later one has code. -/
def LastCoded (records : List Record) (record : Record) : Prop :=
  ∃ before behind, records = before ++ record :: behind ∧ record.code.isSome = true ∧
    ∀ later ∈ behind, later.code = none

theorem find?_reverse_eq_some :
    (records.reverse.find? fun record => record.code.isSome) = some record ↔
      LastCoded records record := by
  rw [List.find?_eq_some_iff_append]
  constructor
  · rintro ⟨coded, behind, before, whole, none⟩
    refine ⟨before.reverse, behind.reverse, ?_, coded, fun later member => ?_⟩
    · rw [← List.reverse_reverse records, whole]
      simp
    · simpa using none later (List.mem_reverse.1 member)
  · rintro ⟨before, behind, rfl, coded, none⟩
    refine ⟨coded, behind.reverse, before.reverse, by simp, fun later member => ?_⟩
    rw [none later (List.mem_reverse.1 member)]
    rfl

/-- The final code is the full code of the last record with code. -/
theorem finalCode?_eq_some (last : LastCoded attempt.records record) :
    attempt.finalCode? = some record.fullCode := by
  unfold Attempt.finalCode?
  rw [find?_reverse_eq_some.2 last]
  rfl

/-- A checked record has code. -/
theorem Record.coded_of_checked (checked : record.checked = true) : record.code.isSome = true :=
  (Bool.and_eq_true_iff.1 checked).1

theorem Record.contains_errorMarker (coded : record.code.isSome = true) :
    Text.contains Statement.errorMarker record.fullCode = !record.checked := by
  rw [Record.checked, coded, Bool.true_and, Bool.not_not]

/-- Without code nothing is checked. -/
theorem filter_checked_eq_nil (uncoded : ∀ record ∈ records, record.code = none) :
    records.filter Record.checked = [] := by
  refine List.filter_eq_nil_iff.2 fun record member checked => ?_
  have coded := Record.coded_of_checked checked
  rw [uncoded record member] at coded
  cases coded

/-- The last record with code, when it was checked, is the last one that was. -/
theorem getLast?_filter_checked (last : LastCoded records record) (checked : record.checked = true) :
    (records.filter Record.checked).getLast? = some record := by
  obtain ⟨before, behind, rfl, -, uncoded⟩ := last
  rw [List.filter_append, List.filter_cons_of_pos checked, filter_checked_eq_nil uncoded,
    List.getLast?_concat]

/-! ### Texts that were verified -/

theorem verifiedTexts_eq_map_verifications (said : List (Exchange Inquiry Inquiry.Answer)) :
    verifiedTexts said = (verifications said).map Prod.fst := by
  unfold verifiedTexts verifications
  rw [List.map_filterMap]
  refine congrArg (fun text? => said.filterMap text?) (funext fun exchange => ?_)
  obtain ⟨question, answer⟩ := exchange
  cases question <;> rfl

/-- **The texts that were verified** are the full codes of the checked records, in order. -/
theorem verifiedTexts_eq (account : Accounted turn limit records said) :
    verifiedTexts said = (records.filter Record.checked).map Record.fullCode := by
  have verdicts := congrArg (List.map Prod.fst) account.verified
  rw [List.map_map, List.map_map] at verdicts
  rw [verifiedTexts_eq_map_verifications]
  exact verdicts

/-- The same for every finished attempt, also for one that may take no turn. -/
theorem verifiedTexts_of_held {formalStatement : Text}
    (held : Held (Prover.attempt config formalStatement) said (.ok attempt)) :
    verifiedTexts said = (attempt.records.filter Record.checked).map Record.fullCode := by
  obtain ⟨talked, same, begun⟩ := exists_held_attemptFrom held
  cases talked with
  | error error => cases same
  | ok after =>
    cases same
    cases turns : config.maxTurns with
    | zero =>
      rw [turns] at begun
      cases begun
      rfl
    | succ left =>
      rw [turns] at begun
      obtain ⟨records, whole, account⟩ := accounted_of_held begun
      obtain rfl : after.records = records := whole
      exact verifiedTexts_eq account

/-! ### Successful attempts -/

/-- Only a record that was checked is one of a proof. -/
theorem Judged.checked_of_proved {generation : Text} {checks : List (Exchange Inquiry Inquiry.Answer)}
    (judged : Judged statement generation turn record checks) (proved : record.status = .proved) :
    record.checked = true := by
  cases judged.checks with
  | asked report checked status => exact checked
  | unasked unchecked status => exact absurd proved status

/-- **An attempt that succeeds** ends with a record that was checked. -/
theorem exists_checked_of_succeeded {formalStatement : Text}
    (held : Held (Prover.attempt config formalStatement) said (.ok attempt))
    (success : attempt.success = true) :
    ∃ record, LastCoded attempt.records record ∧ record.checked = true := by
  obtain ⟨talked, same, begun⟩ := exists_held_attemptFrom held
  cases talked with
  | error error => cases same
  | ok after =>
    cases same
    obtain ⟨last, found, proved⟩ := (Option.any_eq_true ..).1 success
    obtain ⟨before, whole⟩ := List.getLast?_eq_some_iff.1 found
    obtain ⟨generation, turn, checks, judged⟩ := exists_judged_of_mem held (List.mem_of_getLast? found)
    have checked := judged.checked_of_proved (of_decide_eq_true proved)
    exact ⟨last, ⟨before, [], whole, Record.coded_of_checked checked, nofun⟩, checked⟩

/-! ### The final code -/

/-- **When the final code is the last text that was verified**, for every configuration, statement,
generator and verifier: exactly when the last record with code was checked. Otherwise the final code is
the text of a mismatch, which was never verified; in an attempt that succeeds this cannot be. -/
theorem finalCode?_eq_iff (config : Config) (formalStatement : Text)
    (respondent : Respondent Inquiry Inquiry.Answer) :
    let held := (Prover.attempt config formalStatement).heldWith respondent []
    ∀ attempt, held.1 = .ok attempt →
      (attempt.finalCode? = (verifiedTexts held.2).getLast? ↔
        ∀ record, LastCoded attempt.records record → record.checked = true) ∧
      (∀ record, LastCoded attempt.records record → record.checked = false →
        attempt.finalCode? = some record.fullCode ∧ record.fullCode ∉ verifiedTexts held.2) ∧
      (attempt.success = true → ∃ text, attempt.finalCode? = some text ∧
        (verifiedTexts held.2).getLast? = some text) := by
  intro held attempt finished
  have talked : Held (Prover.attempt config formalStatement) held.2 (.ok attempt) :=
    finished ▸ Dialogue.held_heldWith respondent _
  have texts : verifiedTexts held.2 =
      (attempt.records.filter Record.checked).map Record.fullCode := verifiedTexts_of_held talked
  have agrees : ∀ record, LastCoded attempt.records record → record.checked = true →
      (verifiedTexts held.2).getLast? = some record.fullCode := by
    intro record last checked
    rw [texts, List.getLast?_map, getLast?_filter_checked last checked]
    rfl
  have differs : ∀ record, LastCoded attempt.records record → record.checked = false →
      record.fullCode ∉ verifiedTexts held.2 := by
    intro record last unchecked member
    obtain ⟨before, behind, -, coded, -⟩ := last
    -- A text that was verified has no error marker, and this one has it.
    rw [texts] at member
    obtain ⟨other, found, same⟩ := List.mem_map.1 member
    have checked := (List.mem_filter.1 found).2
    have marked := Record.contains_errorMarker coded
    rw [← same, Record.contains_errorMarker (Record.coded_of_checked checked), checked,
      unchecked] at marked
    cases marked
  refine ⟨⟨fun same record last => ?_, fun checked => ?_⟩, fun record last unchecked =>
    ⟨finalCode?_eq_some last, differs record last unchecked⟩, fun success => ?_⟩
  · rw [finalCode?_eq_some last] at same
    refine eq_true_of_ne_false fun unchecked => ?_
    exact differs record last unchecked (List.mem_of_getLast? same.symm)
  · cases found : attempt.records.reverse.find? fun record => record.code.isSome with
    | some record =>
      have last := find?_reverse_eq_some.1 found
      rw [finalCode?_eq_some last, agrees record last (checked record last)]
    | none =>
      have uncoded : ∀ record ∈ attempt.records, record.code = none := fun record member => by
        simpa using List.find?_eq_none.1 found record (List.mem_reverse.2 member)
      rw [Attempt.finalCode?, found, texts, filter_checked_eq_nil uncoded]
      rfl
  · obtain ⟨record, last, checked⟩ := exists_checked_of_succeeded talked success
    exact ⟨record.fullCode, finalCode?_eq_some last, agrees record last checked⟩

/-- A refining attempt without code in its first turn, and with a proof in its second one. -/
theorem finalCode?_eq_iff_hesitating :
    let config :=
      { Config.standard with refinement := true, prompt := problemHole, refinePrompt := errorHole }
    let held := (Prover.attempt config "theorem t : True := by sorry").heldWith hesitating []
    ∃ attempt, held.1 = .ok attempt ∧ attempt.success = true ∧
      ∃ text, attempt.finalCode? = some text ∧ (verifiedTexts held.2).getLast? = some text := by
  intro config held
  have success : ∃ attempt, held.1 = .ok attempt ∧ attempt.success = true := ⟨_, rfl, by decide⟩
  obtain ⟨attempt, finished, success⟩ := success
  exact ⟨attempt, finished, success, (finalCode?_eq_iff config "theorem t : True := by sorry"
    hesitating attempt finished).2.2 success⟩

/-- **A final code that was never verified.** The generation declares another theorem than the
statement, and the final code is the text that says so. -/
theorem finalCode?_never_verified :
    let held := (Prover.attempt Config.standard "theorem t : True := by sorry").heldWith
      (unchanging "```lean4\ntheorem other : True := by trivial\n```") []
    verifiedTexts held.2 = [] ∧ ∃ attempt, held.1 = .ok attempt ∧ attempt.finalCode? =
      some "**Error**: could not find `t` in the generated code".toList := by
  exact ⟨by decide, _, rfl, by decide⟩

end Prover
end ProofDesk
