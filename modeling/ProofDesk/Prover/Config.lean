import ProofDesk.Prover.Conversation
import ProofDesk.Text.Blank
import ProofDesk.Text.Numeral
import ProofDesk.Text.Search

/-!
# Settings of the prover

* `Prover.Config` — how many turns and attempts there are, what is kept of the conversation, and
  how the generator is addressed.
* `Prover.Config.flaw?` — the first rule that a configuration breaks; `Prover.Flaw` names them,
  and `Prover.Config.valid_iff` has them all.
-/

namespace ProofDesk
namespace Prover

/-- The place of the statement in a prompt. -/
def problemHole : Text := "\x7bproblem\x7d"

/-- The place of the feedback in a refining prompt. -/
def errorHole : Text := "\x7berror_message\x7d"

/-- The prompt that is used when none is given. -/
def defaultPrompt : Text :=
  "Complete the following Lean 4 code:\n\n```lean4\n\x7bproblem\x7d\n```\n\nBefore producing " ++
    "the Lean 4 code to formally prove the given theorem, provide a detailed proof plan " ++
    "outlining the main proof steps and strategies.\nThe plan should highlight key ideas, " ++
    "intermediate lemmas, and proof structures that will guide the construction of the final " ++
    "formal proof."

/-- The refining prompt that is used when none is given. -/
def defaultRefinePrompt : Text :=
  "The proof is not correct. Following is the compilation error message:\n\n" ++
    "\x7berror_message\x7d\n\nPlease fix the proof and write the complete corrected Lean 4 " ++
    "code in a ```lean4 block."

/-- The largest number of attempts. -/
def maxAttempts : Nat := 32

/-- How proofs are looked for. -/
structure Config where
  /-- Turns of an attempt; without refinement only the first is taken. -/
  maxTurns : Nat
  /-- Attempts at a statement. -/
  attempts : Nat
  /-- The errors of a turn are told to the generator. -/
  refinement : Bool
  /-- Of a generation with code, only the code stays in the conversation. -/
  codeOnly : Bool
  /-- Of such generations, only the latest stays in the conversation. -/
  latestOnly : Bool
  systemPrompt : Option Text
  prompt : Text
  refinePrompt : Text
  deriving DecidableEq, Repr

/-- What is wrong with a configuration. -/
inductive Flaw
  | noTurns
  | attemptsOutOfRange (attempts : Nat)
  | latestWithoutCodeOnly
  | promptWithoutProblem
  | refinePromptWithoutError
  deriving DecidableEq, Repr

/-- The wording of a flaw. -/
def Flaw.message : Flaw → Text
  | noTurns => "max_turns must be at least 1"
  | attemptsOutOfRange attempts =>
    "n_pass must be in 1..=" ++ Text.decimal maxAttempts ++ ", got " ++ Text.decimal attempts
  | latestWithoutCodeOnly => "remove_cot is required when delete_wrong_turns is enabled"
  | promptWithoutProblem => "prompt_template must contain " ++ problemHole
  | refinePromptWithoutError => "refine_template must contain " ++ errorHole

namespace Config

/-- The settings where none are given. -/
def standard : Config where
  maxTurns := 2
  attempts := 1
  refinement := false
  codeOnly := false
  latestOnly := false
  systemPrompt := none
  prompt := defaultPrompt
  refinePrompt := defaultRefinePrompt

/-- The first flaw of a configuration. -/
def flaw? (config : Config) : Option Flaw :=
  if config.maxTurns = 0 then some .noTurns
  else if config.attempts = 0 ∨ maxAttempts < config.attempts then
    some (.attemptsOutOfRange config.attempts)
  else if config.latestOnly ∧ ¬ config.codeOnly then some .latestWithoutCodeOnly
  else if Text.contains problemHole config.prompt = false then some .promptWithoutProblem
  else if config.refinement = true ∧ Text.contains errorHole config.refinePrompt = false then
    some .refinePromptWithoutError
  else none

/-- A configuration by which proofs can be looked for. -/
def Valid (config : Config) : Prop := config.flaw? = none

/-- **Valid configurations**, by all of the rules. -/
theorem valid_iff {config : Config} : config.Valid ↔
    config.maxTurns ≠ 0 ∧ (1 ≤ config.attempts ∧ config.attempts ≤ maxAttempts) ∧
      (config.latestOnly = true → config.codeOnly = true) ∧
      Text.contains problemHole config.prompt = true ∧
      (config.refinement = true → Text.contains errorHole config.refinePrompt = true) := by
  have passes : ∀ (broken : Prop) [Decidable broken] (flaw : Flaw) (others : Option Flaw),
      (if broken then some flaw else others) = none ↔ ¬ broken ∧ others = none := by
    intro broken _ flaw others
    split <;> simp [*]
  unfold Valid flaw?
  simp only [passes, not_or, not_and, Nat.not_lt, Bool.not_eq_true, Bool.not_eq_false, and_true,
    Nat.one_le_iff_ne_zero]

/-- The settings where none are given have no flaw. -/
theorem valid_standard : standard.Valid := by
  unfold Valid
  decide

/-- The turns with which every attempt begins. -/
def initialTurns (config : Config) (statement : Text) : List Turn :=
  let system := match config.systemPrompt with
    | some prompt => if Text.allBlank prompt then [] else [⟨.system, prompt⟩]
    | none => []
  system ++ [⟨.user, Text.replaceAll problemHole (Text.trim statement) config.prompt⟩]

/-- What the generator is told of a turn that did not succeed. -/
def refineTurn (config : Config) (feedback : Text) : Text :=
  Text.replaceAll errorHole feedback config.refinePrompt

/-- The number of turns that an attempt may take. -/
def turnLimit (config : Config) : Nat := if config.refinement then config.maxTurns else 1

end Config
end Prover
end ProofDesk
