import ProofDesk.CommandLine.Run
import ProofDesk.Proofs.Rehearsal.Machine

/-!
# What a command does before it writes

Before a command writes a file or its report, it reads, looks and has texts verified. All of this
leaves the files of a machine as they are, whether it fails or not.

* `Ends` — a step, held with a machine, ends with a result; `ends_bind` for one step after another.
* `Failure.phase` — how far a command came that failed.
* `Prepares` — a step changes no file, and a failure comes before anything is written.
* `prepares_surroundings` and `prepares_verified` — the settings and the verifications.
* `Prepares.cases` — a command that begins with such a step.
-/

namespace ProofDesk
namespace CommandLine

open Rehearsal (Machine Tree Idle)

variable {α β : Type} {machine after : Machine}

/-! ### Steps held with a machine -/

/-- **Held with a machine, the step ends with a result**, and this is the machine at the end. -/
def Ends (step : Step α) (machine : Machine) (result : Except Failure α) (after : Machine) : Prop :=
  step.run.run Machine.answer machine = (result, after)

section Ends

variable {step : Step α} {f : α → Step β} {result : Except Failure α} {outcome : Except Failure β}

theorem exists_ends (step : Step α) (machine : Machine) : ∃ result after, Ends step machine result after :=
  ⟨_, _, rfl⟩

/-- **One step after another**: the first one fails, or the second one goes on from where it ended. -/
theorem ends_bind (ends : Ends (step >>= f) machine outcome after) :
    (∃ failure, outcome = .error failure ∧ Ends step machine (.error failure) after) ∨
      ∃ value middle, Ends step machine (.ok value) middle ∧ Ends (f value) middle outcome after := by
  unfold Ends at ends
  rw [ExceptT.run_bind, Dialogue.run_bind] at ends
  obtain ⟨result, middle, first⟩ := exists_ends step machine
  rw [first] at ends
  cases result with
  | error failure =>
    cases ends
    exact .inl ⟨failure, rfl, first⟩
  | ok value => exact .inr ⟨value, middle, first, ends⟩

theorem ends_sure {work : Hosted α} (ends : Ends (sure work) machine result after) :
    ∃ value, result = .ok value ∧ work.run Machine.answer machine = (value, after) := by
  unfold Ends sure at ends
  rw [ExceptT.run_lift, map_eq_pure_bind, Dialogue.run_bind] at ends
  cases ends
  exact ⟨_, rfl, rfl⟩

/-- **A question whose error is a failure** fails with it, or ends with its value. -/
theorem ends_orFail {ε : Type} {failure : ε → Failure} {question : Hosted (Except ε α)}
    (ends : Ends (orFail failure question) machine result after) :
    (∃ error, result = .error (failure error) ∧
        question.run Machine.answer machine = (.error error, after)) ∨
      ∃ value, result = .ok value ∧ question.run Machine.answer machine = (.ok value, after) := by
  unfold Ends orFail at ends
  rw [ExceptT.run_mk, Dialogue.run_bind] at ends
  obtain ⟨answer, later, ran⟩ : ∃ answer later,
      question.run Machine.answer machine = (answer, later) := ⟨_, _, rfl⟩
  rw [ran] at ends ⊢
  cases answer with
  | error error =>
    cases ends
    exact .inl ⟨error, rfl, rfl⟩
  | ok value =>
    cases ends
    exact .inr ⟨value, rfl, rfl⟩

theorem read_of_readFile {path text : Text} (ends : Ends (readFile path) machine (.ok text) after) :
    machine.tree.read path = .ok text := by
  rcases ends_orFail ends with ⟨error, failed, -⟩ | ⟨value, same, ran⟩
  · cases failed
  · cases same
    exact Rehearsal.read_of_answer ran

end Ends

/-! ### Preparation -/

/-- How far a command came. -/
inductive Phase
  /-- Nothing was written so far. -/
  | preparation
  /-- The file was being written. -/
  | file
  /-- The report was being written. -/
  | report
  deriving DecidableEq, Repr

/-- How far a command came that failed. -/
def Failure.phase : Failure → Phase
  | .unwritable _ _ => .file
  | .noDirectory _ _ | .notCreated _ _ | .unfinished _ _ => .report
  | _ => .preparation

/-- **The step prepares**: it changes no file, and a failure comes before anything is written. -/
def Prepares (step : Step α) : Prop :=
  ∀ machine result after, Ends step machine result after →
    after.tree = machine.tree ∧ ∀ failure, result = .error failure → failure.phase = .preparation

theorem prepares_pure (value : α) : Prepares (pure value) := by
  intro machine result after ends
  cases ends
  exact ⟨rfl, nofun⟩

theorem prepares_throw {failure : Failure} (early : failure.phase = .preparation) :
    Prepares (throw failure : Step α) := by
  intro machine result after ends
  cases ends
  refine ⟨rfl, fun failure same => ?_⟩
  cases same
  exact early

theorem Prepares.bind {step : Step α} {f : α → Step β} (first : Prepares step)
    (second : ∀ value, Prepares (f value)) : Prepares (step >>= f) := by
  intro machine result after ends
  rcases ends_bind ends with ⟨failure, rfl, failed⟩ | ⟨value, middle, began, rest⟩
  · have prepared := first _ _ _ failed
    refine ⟨prepared.1, fun other same => ?_⟩
    cases same
    exact prepared.2 failure rfl
  · rw [← (first _ _ _ began).1]
    exact second value _ _ _ rest

theorem prepares_sure {work : Hosted α} (idle : Idle work) : Prepares (sure work) := by
  intro machine result after ends
  obtain ⟨value, rfl, ran⟩ := ends_sure ends
  have same := idle machine
  rw [ran] at same
  exact ⟨same, nofun⟩

theorem prepares_orFail {ε : Type} {failure : ε → Failure} {question : Hosted (Except ε α)}
    (idle : Idle question) (early : ∀ error, (failure error).phase = .preparation) :
    Prepares (orFail failure question) := by
  intro machine result after ends
  have same := idle machine
  rcases ends_orFail ends with ⟨error, rfl, ran⟩ | ⟨value, rfl, ran⟩
  · rw [ran] at same
    refine ⟨same, fun reason failed => ?_⟩
    cases failed
    exact early error
  · rw [ran] at same
    exact ⟨same, nofun⟩

theorem prepares_readFile (path : Text) : Prepares (readFile path) :=
  prepares_orFail (Rehearsal.idle_question (.read path) trivial) fun _ => rfl

/-- **The settings of a command** are read from files that stay as they are. -/
theorem prepares_surroundings (environment : Environment) (arguments : Arguments) :
    Prepares (surroundings environment arguments) := by
  unfold surroundings
  have loads : ∀ directory environment,
      Prepares (orFail .unsettable (Dotenv.load directory environment)) := fun directory environment =>
    prepares_orFail (Rehearsal.idle_loadDotenv directory environment) fun _ => rfl
  refine (loads [] environment).bind fun environment => ?_
  extract_lets finish choose
  have finished : ∀ chosen, Prepares (finish chosen) := fun chosen => prepares_pure _
  have chosen : ∀ settings, Prepares (choose settings) := by
    intro settings
    dsimp only [choose]
    split
    · next place _ =>
      have found : Prepares (orFail .noRoot (Project.findRoot place)) :=
        prepares_orFail (Rehearsal.idle_of_looks (Project.only_findRoot place)) fun _ => rfl
      refine found.bind fun root => ?_
      refine (loads root environment).bind fun environment => ?_
      exact (prepares_pure _).bind finished
    · exact (prepares_pure _).bind finished
  split
  · next path _ =>
    exact (prepares_orFail (Rehearsal.idle_ofFile environment path) fun _ => rfl).bind chosen
  · exact (prepares_pure _).bind chosen

theorem prepares_newSession (around : Surroundings) : Prepares around.newSession :=
  (prepares_sure (Rehearsal.idle_question .freshId trivial)).bind fun _ =>
    (prepares_sure (Rehearsal.idle_question .freshId trivial)).bind fun _ => prepares_pure _

/-- **Verifications** leave no file behind. -/
theorem prepares_verified (around : Surroundings) (work : Verified α) :
    Prepares (around.verified work) :=
  prepares_sure (Rehearsal.idle_relay (fun text => Rehearsal.idle_verify _ _ text) work)

/-! ### Steps that ask nothing -/

/-- The step is a value, or a failure before anything is written. -/
def Settled (step : Step α) : Prop :=
  (∃ value, step = pure value) ∨
    ∃ failure : Failure, step = throw failure ∧ failure.phase = .preparation

theorem settled_needed (flag : Text) (arguments : Arguments) : Settled (needed flag arguments) := by
  unfold needed
  split
  · exact .inl ⟨_, rfl⟩
  · exact .inr ⟨_, rfl, rfl⟩

theorem Settled.bind {step : Step α} {f : α → Step β} (first : Settled step)
    (second : ∀ value, Settled (f value)) : Settled (step >>= f) := by
  rcases first with ⟨value, rfl⟩ | ⟨failure, rfl, early⟩
  · rw [pure_bind]
    exact second value
  · exact .inr ⟨failure, rfl, early⟩

theorem Settled.prepares {step : Step α} (settled : Settled step) : Prepares step := by
  rcases settled with ⟨value, rfl⟩ | ⟨failure, rfl, early⟩
  · exact prepares_pure value
  · exact prepares_throw early

theorem Settled.eq_pure {step : Step α} {value : α} (settled : Settled step)
    (ends : Ends step machine (.ok value) after) : step = pure value := by
  rcases settled with ⟨other, rfl⟩ | ⟨failure, rfl, -⟩
  · cases ends
    rfl
  · cases ends

/-! ### A command that begins so -/

/-- The command failed before anything was written, and all files are as they were. -/
def Spares (tree : Tree) (outcome : Except Failure α) (after : Machine) : Prop :=
  after.tree = tree ∧ ∃ failure, outcome = .error failure ∧ failure.phase = .preparation

/-- **A command that begins with a preparation** fails there and spares all files, or goes on with the
files as they were. -/
theorem Prepares.cases {step : Step α} {f : α → Step β} {outcome : Except Failure β}
    (prepares : Prepares step) (ends : Ends (step >>= f) machine outcome after) :
    Spares machine.tree outcome after ∨ ∃ value middle, middle.tree = machine.tree ∧
      Ends step machine (.ok value) middle ∧ Ends (f value) middle outcome after := by
  rcases ends_bind ends with ⟨failure, rfl, failed⟩ | ⟨value, middle, began, rest⟩
  · have prepared := prepares _ _ _ failed
    exact .inl ⟨prepared.1, failure, rfl, prepared.2 failure rfl⟩
  · exact .inr ⟨value, middle, (prepares _ _ _ began).1, began, rest⟩

end CommandLine
end ProofDesk
