import ProofDesk.Proofs.Prover.Accounting

/-!
# Attempts one after another

Attempts at a statement know nothing of each other: each one begins with the turns of the first, and
all that it finds changed are the answers that are left. They are made one after another until one of
them succeeds, until the generator fails, or until the configured number of them is used up.

* `saidBefore`, `trial` and `saidIn` — the attempts one after another, as if there were no end to them.
* `Failed` — an attempt was finished and is no success, the only case in which another one is made.
* `exists_last_of_repeatFrom` — repeated attempts are these attempts up to the first that did not fail.
* `length_calls_saidBefore` — how often the generator is called.
* `attemptRepeatedly_sequential` — what comes of repeated attempts, for every valid configuration,
  statement, generator and verifier.
-/

namespace ProofDesk
namespace Prover

open Dialogue (Exchange Held Respondent)

/-! ### Trials -/

section Trials

variable (respondent : Respondent Inquiry Inquiry.Answer) (config : Config) (formalStatement : Text)

/-- What was said before attempt number `n`, each attempt held after all of those before it. -/
def saidBefore : Nat → List (Exchange Inquiry Inquiry.Answer)
  | 0 => []
  | n + 1 => ((attempt config formalStatement).heldWith respondent (saidBefore n)).2

/-- **What comes of attempt number `n`**, which gets the answers that the ones before it left. -/
def trial (n : Nat) : Except Text Attempt :=
  ((attempt config formalStatement).heldWith respondent
    (saidBefore respondent config formalStatement n)).1

/-- What was said in attempt number `n` alone. -/
def saidIn (n : Nat) : List (Exchange Inquiry Inquiry.Answer) :=
  (saidBefore respondent config formalStatement (n + 1)).drop
    (saidBefore respondent config formalStatement n).length

/-- Attempt number `n` is an attempt like every other, and adds what was said in it. -/
theorem held_trial (n : Nat) :
    saidBefore respondent config formalStatement (n + 1) =
        saidBefore respondent config formalStatement n ++
          saidIn respondent config formalStatement n ∧
      Held (attempt config formalStatement) (saidIn respondent config formalStatement n)
        (trial respondent config formalStatement n) := by
  obtain ⟨exchanges, whole, held⟩ := Dialogue.exists_held_heldWith respondent
    (saidBefore respondent config formalStatement n) (attempt config formalStatement)
  have whole : saidBefore respondent config formalStatement (n + 1) =
      saidBefore respondent config formalStatement n ++ exchanges := whole
  have own : saidIn respondent config formalStatement n = exchanges := by
    rw [saidIn, whole, List.drop_left]
  rw [own]
  exact ⟨whole, held⟩

end Trials

/-- The attempt was finished and is no success. -/
def Failed (result : Except Text Attempt) : Prop :=
  ∃ attempt, result = .ok attempt ∧ attempt.success = false

variable {respondent : Respondent Inquiry Inquiry.Answer} {config : Config}
  {statement formalStatement : Text} {base : List Turn} {turn left : Nat} {talk : Conversation}
  {said : List (Exchange Inquiry Inquiry.Answer)} {result : Except Text Conversation}

/-! ### The last attempt -/

/-- Behind an attempt that failed, the others are made as if they were the first ones. -/
theorem repeatFrom_of_failed {made : Nat}
    (failed : Failed (trial respondent config formalStatement made)) :
    (repeatFrom config formalStatement made (left + 1)).heldWith respondent
        (saidBefore respondent config formalStatement made) =
      (repeatFrom config formalStatement (made + 1) left).heldWith respondent
        (saidBefore respondent config formalStatement (made + 1)) := by
  obtain ⟨attempt, finished, unsuccessful⟩ := failed
  unfold trial at finished
  rw [repeatFrom, Dialogue.heldWith_bind, finished]
  dsimp only
  rw [if_neg (by simp [unsuccessful])]
  rfl

/-- An attempt that did not fail is the last one, as is one that no other may follow. -/
theorem repeatFrom_of_last {made : Nat}
    (last : left = 0 ∨ ¬ Failed (trial respondent config formalStatement made)) :
    (repeatFrom config formalStatement made left).heldWith respondent
        (saidBefore respondent config formalStatement made) =
      ((trial respondent config formalStatement made).map (outcomeOf made),
        saidBefore respondent config formalStatement (made + 1)) := by
  cases left with
  | zero =>
    unfold repeatFrom
    rw [Dialogue.heldWith_bind]
    rfl
  | succ left =>
    have going : ¬ Failed (trial respondent config formalStatement made) :=
      last.resolve_left (Nat.succ_ne_zero left)
    unfold repeatFrom
    rw [Dialogue.heldWith_bind]
    cases came : trial respondent config formalStatement made with
    | error error =>
      unfold trial at came
      rw [came]
      rfl
    | ok attempt =>
      have success : attempt.success = true :=
        eq_true_of_ne_false fun unsuccessful => going ⟨attempt, came, unsuccessful⟩
      unfold trial at came
      rw [came]
      dsimp only
      rw [if_pos success]
      rfl

/-- **Repeated attempts** are the attempts one after another up to the first that did not fail, or to
the last that may be made; by induction on their number. -/
theorem exists_last_of_repeatFrom (respondent : Respondent Inquiry Inquiry.Answer) (config : Config)
    (formalStatement : Text) (made left : Nat) :
    ∃ last, made ≤ last ∧ last ≤ made + left ∧
      (∀ i, made ≤ i → i < last → Failed (trial respondent config formalStatement i)) ∧
      (last < made + left → ¬ Failed (trial respondent config formalStatement last)) ∧
      (repeatFrom config formalStatement made left).heldWith respondent
          (saidBefore respondent config formalStatement made) =
        ((trial respondent config formalStatement last).map (outcomeOf last),
          saidBefore respondent config formalStatement (last + 1)) := by
  induction left generalizing made with
  | zero =>
    refine ⟨made, Nat.le_refl made, Nat.le_refl made, fun i first past => ?_, fun past => ?_,
      repeatFrom_of_last (.inl rfl)⟩
    · omega
    · omega
  | succ left ih =>
    by_cases failed : Failed (trial respondent config formalStatement made)
    · obtain ⟨last, first, limited, before, stops, same⟩ := ih (made + 1)
      refine ⟨last, by omega, by omega, fun i late early => ?_, fun early => stops (by omega), ?_⟩
      · rcases Nat.eq_or_lt_of_le late with rfl | later
        · exact failed
        · exact before i later early
      · rw [repeatFrom_of_failed failed, same]
    · refine ⟨made, Nat.le_refl made, Nat.le_add_right .., fun i late early => ?_, fun _ => failed,
        repeatFrom_of_last (.inr failed)⟩
      omega

/-! ### Calls of the generator -/

/-- **An attempt calls the generator** once for each turn that it takes, by induction on the turns. -/
theorem length_calls_attemptFrom
    (held : Held (attemptFrom config statement base turn left talk) said result) :
    (calls said).length ≤ if config.refinement then left else min left 1 := by
  induction left generalizing turn talk said with
  | zero =>
    cases held
    exact Nat.zero_le _
  | succ left ih =>
    rcases attemptFrom_cases held with ⟨error, rfl, -⟩ |
      ⟨generation, record, checks, rest, rfl, judged,
        ⟨-, rfl, -⟩ | ⟨feedback, -, refined, -, held⟩⟩
    · show 1 ≤ _
      split <;> omega
    · rw [calls_turn judged.checks]
      show 1 ≤ _
      split <;> omega
    · have later := ih held
      rw [if_pos refined] at later ⊢
      rw [calls_turn judged.checks]
      exact Nat.succ_le_succ later

/-- The turns that an attempt with a valid configuration may take. -/
theorem turnLimit_of_valid (valid : config.Valid) :
    config.turnLimit = if config.refinement then config.maxTurns else min config.maxTurns 1 := by
  obtain ⟨left, turns⟩ := exists_maxTurns_of_valid valid
  rw [Config.turnLimit, turns, Nat.min_eq_right (Nat.le_add_left ..)]

variable (respondent formalStatement)

theorem length_calls_saidIn (valid : config.Valid) (n : Nat) :
    (calls (saidIn respondent config formalStatement n)).length ≤ config.turnLimit := by
  obtain ⟨result, -, begun⟩ := exists_held_attemptFrom (held_trial respondent config formalStatement n).2
  rw [turnLimit_of_valid valid]
  exact length_calls_attemptFrom begun

/-- **The calls of the first attempts**, at most one for each of their turns. -/
theorem length_calls_saidBefore (valid : config.Valid) (n : Nat) :
    (calls (saidBefore respondent config formalStatement n)).length ≤ n * config.turnLimit := by
  induction n with
  | zero => exact Nat.zero_le _
  | succ n ih =>
    have own := length_calls_saidIn respondent formalStatement valid n
    rw [(held_trial respondent config formalStatement n).1, calls, List.filterMap_append,
      List.length_append, Nat.succ_mul]
    exact Nat.add_le_add ih own

/-- **Every attempt begins with the same turns**, and with nothing else. -/
theorem exists_first_call (valid : config.Valid) (n : Nat) :
    ∃ answer rest, calls (saidIn respondent config formalStatement n) =
      (config.initialTurns (normalStatement formalStatement), answer) :: rest := by
  obtain ⟨result, -, begun⟩ := exists_held_attemptFrom (held_trial respondent config formalStatement n).2
  obtain ⟨left, turns⟩ := exists_maxTurns_of_valid valid
  rw [turns] at begun
  rcases attemptFrom_cases begun with ⟨error, whole, -⟩ |
    ⟨generation, record, checks, rest, whole, judged, -⟩
  · rw [whole]
    exact ⟨_, _, rfl⟩
  · rw [whole, calls_turn judged.checks]
    exact ⟨_, _, rfl⟩

/-- An attempt is an error exactly when a call of the generator is one in it. -/
theorem trial_eq_error (n : Nat) (error : Text) :
    trial respondent config formalStatement n = .error error ↔
      ∃ turns, (turns, .error error) ∈ calls (saidIn respondent config formalStatement n) := by
  obtain ⟨result, whole, begun⟩ :=
    exists_held_attemptFrom (held_trial respondent config formalStatement n).2
  rw [whole, ← error_iff_of_held begun error]
  cases result <;> simp [Except.map]

/-! ### Outcomes -/

/-- **The last of at most `limit` attempts**: all before it failed, and it did not fail or no other one
may follow. -/
structure IsLast (limit : Nat) (result : Nat → Except Text Attempt) (last : Nat) : Prop where
  limited : last < limit
  before : ∀ i < last, Failed (result i)
  stops : last + 1 < limit → ¬ Failed (result last)

/-- **An outcome that agrees with the attempts** of which at most `limit` may be made. -/
structure Agrees (limit : Nat) (result : Nat → Except Text Attempt) (outcome : Outcome) : Prop where
  positive : 1 ≤ outcome.attempts
  limited : outcome.attempts ≤ limit
  before : ∀ i, i + 1 < outcome.attempts → Failed (result i)
  last : result (outcome.attempts - 1) = .ok outcome.last
  success : outcome.success = outcome.last.success
  early : outcome.attempts < limit → outcome.success = true

variable {limit last : Nat} {results : Nat → Except Text Attempt}

/-- There is one last attempt: an attempt that did not fail, after others that did, is it. -/
theorem IsLast.eq (isLast : IsLast limit results last) {n : Nat} (limited : n < limit)
    (before : ∀ i < n, Failed (results i)) (going : ¬ Failed (results n)) : n = last := by
  rcases Nat.lt_trichotomy n last with early | same | late
  · exact absurd (isLast.before n early) going
  · exact same
  · exact absurd (before last late) (isLast.stops (Nat.lt_of_le_of_lt late limited))

/-- The outcome of the last attempt agrees with all of them. -/
theorem IsLast.agrees (isLast : IsLast limit results last) {attempt : Attempt}
    (finished : results last = .ok attempt) : Agrees limit results (outcomeOf last attempt) where
  positive := Nat.le_add_left ..
  limited := isLast.limited
  before i early := isLast.before i (Nat.lt_of_succ_lt_succ early)
  last := finished
  success := rfl
  early := by
    intro early
    exact eq_true_of_ne_false fun unsuccessful =>
      isLast.stops early ⟨attempt, finished, unsuccessful⟩

/-- Repeated attempts end with the last one. -/
theorem exists_isLast (valid : config.Valid) :
    ∃ last, IsLast config.attempts (trial respondent config formalStatement) last ∧
      (attemptRepeatedly config formalStatement).heldWith respondent [] =
        ((trial respondent config formalStatement last).map (outcomeOf last),
          saidBefore respondent config formalStatement (last + 1)) := by
  have positive : 1 ≤ config.attempts := (Config.valid_iff.1 valid).2.1.1
  obtain ⟨last, -, limited, before, stops, held⟩ :=
    exists_last_of_repeatFrom respondent config formalStatement 0 (config.attempts - 1)
  exact ⟨last, ⟨by omega, fun i early => before i (Nat.zero_le i) early,
    fun early => stops (by omega)⟩, held⟩

variable {respondent formalStatement}

/-- An error of repeated attempts is one of the generator in the last attempt. -/
theorem IsLast.error_iff
    (isLast : IsLast limit (trial respondent config formalStatement) last) (error : Text) :
    (trial respondent config formalStatement last).map (outcomeOf last) = .error error ↔
      ∃ n < limit, (∀ i < n, Failed (trial respondent config formalStatement i)) ∧
        ∃ turns, (turns, .error error) ∈ calls (saidIn respondent config formalStatement n) := by
  have same : (trial respondent config formalStatement last).map (outcomeOf last) = .error error ↔
      trial respondent config formalStatement last = .error error := by
    cases trial respondent config formalStatement last <;> simp [Except.map]
  rw [same]
  constructor
  · exact fun failure => ⟨last, isLast.limited, isLast.before,
      (trial_eq_error respondent formalStatement last error).1 failure⟩
  · rintro ⟨n, limited, before, called⟩
    have failure := (trial_eq_error respondent formalStatement n error).2 called
    have going : ¬ Failed (trial respondent config formalStatement n) := by
      rintro ⟨attempt, finished, -⟩
      rw [failure] at finished
      cases finished
    rw [← isLast.eq limited before going]
    exact failure

/-- **What comes of repeated attempts**, for every valid configuration, statement, generator and
verifier. They are the attempts one after another, each of which begins with the same turns, up to the
first that did not fail or to the last that may be made. An outcome is the one of this last attempt,
and an error is the error of a call in it. -/
theorem attemptRepeatedly_sequential (valid : config.Valid) (formalStatement : Text)
    (respondent : Respondent Inquiry Inquiry.Answer) :
    let result := trial respondent config formalStatement
    let own := saidIn respondent config formalStatement
    let before := saidBefore respondent config formalStatement
    let held := (attemptRepeatedly config formalStatement).heldWith respondent []
    (∀ n, before (n + 1) = before n ++ own n ∧
        (attempt config formalStatement).heldWith respondent (before n) = (result n, before (n + 1)) ∧
        ∃ answer rest, calls (own n) =
          (config.initialTurns (normalStatement formalStatement), answer) :: rest) ∧
      (∃ last, IsLast config.attempts result last ∧
        held = ((result last).map (outcomeOf last), before (last + 1))) ∧
      (∀ outcome, held.1 = .ok outcome → Agrees config.attempts result outcome) ∧
      (∀ error, held.1 = .error error ↔ ∃ n < config.attempts,
        (∀ i < n, Failed (result i)) ∧ ∃ turns, (turns, .error error) ∈ calls (own n)) ∧
      (calls held.2).length ≤ config.attempts * config.maxTurns ∧
      (config.refinement = false → (calls held.2).length ≤ config.attempts) := by
  intro result own before held
  obtain ⟨last, isLast, ended⟩ := exists_isLast respondent formalStatement valid
  have called : (calls held.2).length ≤ config.attempts * config.turnLimit := by
    have first := length_calls_saidBefore respondent formalStatement valid (last + 1)
    rw [show held.2 = before (last + 1) from congrArg Prod.snd ended]
    exact Nat.le_trans first (Nat.mul_le_mul_right _ isLast.limited)
  refine ⟨fun n => ⟨(held_trial respondent config formalStatement n).1, rfl,
    exists_first_call respondent formalStatement valid n⟩, ⟨last, isLast, ended⟩, ?_, ?_, ?_, ?_⟩
  · intro outcome same
    rw [show held.1 = (result last).map (outcomeOf last) from congrArg Prod.fst ended] at same
    cases finished : result last with
    | error error =>
      rw [finished] at same
      cases same
    | ok attempt =>
      rw [finished] at same
      cases same
      exact isLast.agrees finished
  · intro error
    rw [show held.1 = (result last).map (outcomeOf last) from congrArg Prod.fst ended]
    exact isLast.error_iff error
  · -- Without refinement one turn is taken, and valid configurations have one.
    refine Nat.le_trans called (Nat.mul_le_mul_left _ ?_)
    rw [turnLimit_of_valid valid]
    split
    · exact Nat.le_refl _
    · exact Nat.min_le_left ..
  · intro plain
    rw [Config.turnLimit, plain] at called
    simpa using called

/-- Three attempts of one turn each may be made, and the second one is a success. -/
theorem attemptRepeatedly_sequential_hesitating :
    let config := { Config.standard with attempts := 3 }
    let held := (attemptRepeatedly config "theorem t : True := by sorry").heldWith hesitating []
    config.Valid ∧ ∃ outcome, held.1 = .ok outcome ∧ outcome.attempts = 2 ∧
      outcome.success = true ∧ (calls held.2).length = 2 ∧
      Agrees 3 (trial hesitating config "theorem t : True := by sorry") outcome := by
  intro config held
  have valid : config.Valid := by
    unfold Config.Valid
    decide
  exact ⟨valid, _, rfl, by decide, by decide, by decide,
    (attemptRepeatedly_sequential valid "theorem t : True := by sorry" hesitating).2.2.1 _ rfl⟩

end Prover
end ProofDesk
