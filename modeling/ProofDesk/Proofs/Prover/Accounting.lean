import ProofDesk.Proofs.Prover.Turns

/-!
# What an attempt did

The records of an attempt are its account: one for each call of the generator, in order, and one for
each verification among them. Only the last one can be a proof, and without a proof the attempt takes
every turn that it may.

* `Accounted` — the records agree with what was asked and answered.
* `Accounted.cons` — a turn that goes on adds one record in front.
* `error_iff_of_held` — an attempt fails exactly with the error of the generator.
* `attempt_accounted` — both, for every attempt with a valid configuration.
-/

namespace ProofDesk
namespace Prover

open Dialogue (Exchange Held Respondent)

variable {config : Config} {statement generation : Text} {base turns : List Turn}
  {turn left limit : Nat} {talk after : Conversation} {record : Record} {records : List Record}
  {result : Except Text Conversation} {said checks rest : List (Exchange Inquiry Inquiry.Answer)}

/-- The last record is one of a proof. -/
def provedLast (records : List Record) : Bool :=
  records.getLast?.any fun record => record.status.isSuccess

/-- **The records of an attempt** from turn number `turn` on, which may take `limit` turns, agree with
what was said. -/
structure Accounted (turn limit : Nat) (records : List Record)
    (said : List (Exchange Inquiry Inquiry.Answer)) : Prop where
  nonempty : 1 ≤ records.length
  limited : records.length ≤ limit
  numbered : ∀ i record, records[i]? = some record → record.turn = turn + i
  unproved : ∀ record ∈ records.dropLast, record.status ≠ .proved
  feedback : ∀ record ∈ records, record.status = .proved ↔ record.feedback = none
  exhausted : provedLast records = false → records.length = limit
  called : (calls said).length = records.length
  verified : (verifications said).map (fun (text, report) => (text, Feedback.classify report)) =
    (records.filter Record.checked).map fun record => (record.fullCode, record.status)

/-! ### One turn -/

theorem verifications_turn (turns : List Turn) (answer : Except Text Text) :
    verifications (⟨.generate turns, answer⟩ :: (checks ++ rest)) =
      verifications checks ++ verifications rest :=
  List.filterMap_append

/-- A record carries the verdict on the report that its full code got. -/
theorem Checks.verified (asked : Checks record checks) :
    (verifications checks).map (fun (text, report) => (text, Feedback.classify report)) =
      ([record].filter Record.checked).map fun record => (record.fullCode, record.status) := by
  cases asked with
  | asked report checked status =>
    rw [List.filter_cons_of_pos checked, List.filter_nil, List.map_singleton, status]
    rfl
  | unasked unchecked status =>
    rw [List.filter_cons_of_neg (by simp [unchecked])]
    rfl

/-- A turn after which the attempt is over: it proved the statement, or it was the last one. -/
theorem Accounted.single (judged : Judged statement generation turn record checks)
    (last : record.feedback = none ∨ limit = 1) (positive : 1 ≤ limit) :
    Accounted turn limit [record] (⟨.generate turns, .ok generation⟩ :: (checks ++ [])) where
  nonempty := Nat.le_refl 1
  limited := positive
  numbered := by
    intro i other found
    obtain ⟨rfl, rfl⟩ : i = 0 ∧ record = other := by
      simpa [List.getElem?_singleton] using found
    exact judged.turn
  unproved := nofun
  feedback other member := List.mem_singleton.1 member ▸ judged.feedback
  exhausted := by
    intro unproved
    rcases last with proved | one
    · have success : record.status = .proved := judged.feedback.2 proved
      simp [provedLast, Status.isSuccess, success] at unproved
    · exact one.symm
  called := by
    rw [calls_turn judged.checks]
    rfl
  verified := by
    rw [verifications_turn, show verifications [] = [] from rfl, List.append_nil,
      judged.checks.verified]

/-- **A turn that goes on** adds its record in front. -/
theorem Accounted.cons (judged : Judged statement generation turn record checks)
    (unproved : record.feedback ≠ none) (later : Accounted (turn + 1) limit records rest) :
    Accounted turn (limit + 1) (record :: records)
      (⟨.generate turns, .ok generation⟩ :: (checks ++ rest)) := by
  obtain ⟨second, others, rfl⟩ := List.exists_cons_of_length_pos later.nonempty
  refine ⟨Nat.le_add_left .., Nat.succ_le_succ later.limited, ?_, ?_, ?_, ?_, ?_, ?_⟩
  · intro i other found
    cases i with
    | zero =>
      obtain rfl : record = other := by simpa using found
      exact judged.turn
    | succ i =>
      have number := later.numbered i other (by simpa using found)
      omega
  · intro other member
    rw [List.dropLast_cons_cons] at member
    rcases List.mem_cons.1 member with rfl | member
    · exact fun proved => unproved (judged.feedback.1 proved)
    · exact later.unproved other member
  · intro other member
    rcases List.mem_cons.1 member with rfl | member
    · exact judged.feedback
    · exact later.feedback other member
  · intro unproved
    have last : provedLast (record :: second :: others) = provedLast (second :: others) := by
      rw [provedLast, List.getLast?_cons_cons, provedLast]
    exact congrArg Nat.succ (later.exhausted (last ▸ unproved))
  · rw [calls_turn judged.checks]
    exact congrArg Nat.succ later.called
  · rw [verifications_turn, List.map_append, judged.checks.verified, later.verified,
      ← List.map_append, ← List.filter_append]
    rfl

/-! ### Whole attempts -/

/-- **The records of a finished attempt agree with what was said**, by induction on the turns. -/
theorem accounted_of_held
    (held : Held (attemptFrom config statement base turn (left + 1) talk) said (.ok after)) :
    ∃ records, after.records = talk.records ++ records ∧
      Accounted turn (if config.refinement then left + 1 else 1) records said := by
  induction left generalizing turn talk said with
  | zero =>
    rcases attemptFrom_cases held with ⟨error, -, failed⟩ |
      ⟨generation, record, checks, rest, rfl, judged, ⟨-, rfl, done⟩ | ⟨-, -, -, more, -⟩⟩
    · cases failed
    · cases done
      refine ⟨[record], rfl, Accounted.single judged (.inr ?_) ?_⟩ <;> simp
    · exact absurd rfl more
  | succ left ih =>
    rcases attemptFrom_cases held with ⟨error, -, failed⟩ |
      ⟨generation, record, checks, rest, rfl, judged,
        ⟨final, rfl, done⟩ | ⟨feedback, told, refined, -, held⟩⟩
    · cases failed
    · cases done
      refine ⟨[record], rfl, Accounted.single judged ?_ ?_⟩
      · rcases final with proved | refined | none
        · exact .inl proved
        · exact .inr (by rw [refined]; rfl)
        · cases none
      · split <;> omega
    · obtain ⟨records, whole, later⟩ := ih held
      refine ⟨record :: records, ?_, ?_⟩
      · rw [whole]
        exact List.append_assoc talk.records [record] records
      · rw [if_pos refined] at later ⊢
        exact Accounted.cons judged (by simp [told]) later

/-- **An attempt fails exactly with the error of the generator.** -/
theorem error_iff_of_held (held : Held (attemptFrom config statement base turn left talk) said result)
    (error : Text) :
    result = .error error ↔ ∃ turns, (turns, .error error) ∈ calls said := by
  induction left generalizing turn talk said with
  | zero =>
    cases held
    simp [calls]
  | succ left ih =>
    rcases attemptFrom_cases held with ⟨failure, rfl, rfl⟩ |
      ⟨generation, record, checks, rest, rfl, judged, ⟨-, rfl, rfl⟩ | ⟨_, -, -, -, held⟩⟩
    · simp [calls, generation?, eq_comm]
    · rw [calls_turn judged.checks]
      simp [calls]
    · rw [calls_turn judged.checks, ih held]
      simp

/-- **The account of an attempt**, for every configuration that is valid, every statement, every
generator and every verifier. -/
theorem attempt_accounted (valid : config.Valid) (formalStatement : Text)
    (respondent : Respondent Inquiry Inquiry.Answer) :
    let held := (attempt config formalStatement).heldWith respondent []
    (∀ error, held.1 = .error error ↔ ∃ turns, (turns, .error error) ∈ calls held.2) ∧
      ∀ attempt, held.1 = .ok attempt →
        Accounted 0 config.turnLimit attempt.records held.2 ∧
        (attempt.success = true ↔
          ∃ last, attempt.records.getLast? = some last ∧ last.status = .proved) ∧
        (attempt.success = true ↔
          ∃ last, attempt.records.getLast? = some last ∧ last.feedback = none) ∧
        (attempt.success = false → attempt.records.length = config.turnLimit) := by
  intro held
  have talked : Held (attempt config formalStatement) held.2 held.1 :=
    Dialogue.held_heldWith respondent _
  obtain ⟨result, whole, begun⟩ := exists_held_attemptFrom talked
  rw [whole]
  refine ⟨fun error => ?_, fun attempt same => ?_⟩
  · rw [← error_iff_of_held begun error]
    cases result <;> simp [Except.map]
  · cases result with
    | error error => cases same
    | ok after =>
      cases same
      obtain ⟨left, turns⟩ := exists_maxTurns_of_valid valid
      rw [turns] at begun
      obtain ⟨records, whole, account⟩ := accounted_of_held begun
      obtain rfl : after.records = records := whole
      have limit : config.turnLimit = if config.refinement then left + 1 else 1 := by
        rw [Config.turnLimit, turns]
      rw [limit]
      have success : (Attempt.ofConversation (normalStatement formalStatement) after).success =
          provedLast after.records := rfl
      have proved : provedLast after.records = true ↔
          ∃ last, after.records.getLast? = some last ∧ last.status = .proved := by
        simp [provedLast, Option.any_eq_true, Status.isSuccess]
      rw [success]
      refine ⟨account, proved, proved.trans ?_, account.exhausted⟩
      exact exists_congr fun last => and_congr_right fun found =>
        account.feedback last (List.mem_of_getLast? found)

/-- A generator that has no code at first and then a proof, and a verifier that finds nothing
wrong. -/
def hesitating : Respondent Inquiry Inquiry.Answer
  | [], .generate _ => .ok "Induction on n."
  | _ :: _, .generate _ => .ok "```lean4\ntheorem t : True := by\n  trivial\n```"
  | _, .verify _ => ⟨[], some [], false, none, false⟩

/-- A refining attempt with two records, the second one a proof. -/
theorem attempt_accounted_hesitating :
    let config :=
      { Config.standard with refinement := true, prompt := problemHole, refinePrompt := errorHole }
    let held := (attempt config "theorem t : True := by sorry").heldWith hesitating []
    config.Valid ∧ ∃ attempt, held.1 = .ok attempt ∧ attempt.success = true ∧
      Accounted 0 2 attempt.records held.2 := by
  intro config held
  have valid : config.Valid := by
    unfold Config.Valid
    decide
  exact ⟨valid, _, rfl, by decide,
    ((attempt_accounted valid "theorem t : True := by sorry" hesitating).2 _ rfl).1⟩

end Prover
end ProofDesk
