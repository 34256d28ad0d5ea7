import ProofDesk.Project.Check
import ProofDesk.Proofs.Dialogue

/-!
# Runs of the tools

Checking a text runs the build tool and the proof assistant a few times. What each part of a check can
run is told once, and the order of all runs follows.

* `toolRuns` — the commands that were run, with how they went.
* `BuildFirst` and `Twice` — what is run before the first check, and from the first check on.
* `Checking` — what a check of a text asks around the runs of its tools.
* `checkInside_cases` and `checkAlone_cases` — what a check can ask, and what comes of it.
-/

namespace ProofDesk
namespace Project

open Dialogue (Exchange Held Only)

/-- A question to the host with its answer. -/
abbrev Asked : Type := Exchange Host.Query Host.Query.Answer

/-- The command that was run, and how it went. -/
def toolRun? : Asked → Option (Host.Command × Host.Outcome)
  | ⟨.run command _, outcome⟩ => some (command, outcome)
  | _ => none

/-- The commands that were run, in order. -/
def toolRuns (said : List Asked) : List (Host.Command × Host.Outcome) := said.filterMap toolRun?

/-- The command ended in time, with success. -/
def succeeded : Host.Outcome → Bool
  | .ended run => run.ok
  | _ => false

/-- The run ended without success, or was given up. -/
def CheckRun.Failed (check : CheckRun) : Prop := check.timedOut = true ∨ check.run.ok = false

variable {environment : Environment} {lake root place path text : Text} {limit : Nat}
  {autoBuild : Bool} {command : Host.Command} {outcome : Host.Outcome} {said : List Asked}
  {check : CheckRun}

theorem toolRuns_append (front rest : List Asked) :
    toolRuns (front ++ rest) = toolRuns front ++ toolRuns rest :=
  List.filterMap_append

/-! ### Questions that run nothing -/

/-- The question looks at a path, or for the home directory. -/
def Looks : Host.Query → Prop
  | .resolve _ | .present _ | .homeDirectory => True
  | _ => False

theorem toolRuns_of_looks {α : Type} {dialogue : Hosted α} {value : α} (only : Only Looks dialogue)
    (held : Held dialogue said value) : toolRuns said = [] := by
  refine List.filterMap_eq_nil_iff.2 fun exchange member => ?_
  obtain ⟨question, answer⟩ := exchange
  have looks := only.held held _ member
  cases question with
  | resolve path => rfl
  | present path => rfl
  | homeDirectory => rfl
  | _ => exact absurd looks id

theorem only_pathExists (path : Text) : Only Looks (Host.pathExists path) :=
  .ask trivial fun _ => .done _

theorem only_landmark (directory : Text) : Only Looks (landmark directory) := by
  refine (only_pathExists _).bind fun _ => (only_pathExists _).bind fun _ =>
    (only_pathExists _).bind fun _ => ?_
  split
  · exact .done _
  · refine (only_pathExists _).bind fun _ => ?_
    split
    · exact .done _
    · exact .done _

theorem only_climb (start : Text) (steps : Nat) (directory : Text) :
    Only Looks (climb start steps directory) := by
  induction steps generalizing directory with
  | zero => exact .done _
  | succ steps ih =>
    refine (only_landmark directory).bind fun seen => ?_
    cases seen with
    | root => exact .done _
    | outdated => exact .done _
    | neither =>
      dsimp only
      split
      · exact ih _
      · exact .done _

theorem only_findRoot (start : Text) : Only Looks (findRoot start) := by
  refine .ask trivial fun answer => ?_
  cases answer with
  | error error => exact .done _
  | ok directory => exact only_climb ..

theorem only_homeDirectory (environment : Environment) : Only Looks (homeDirectory environment) := by
  unfold homeDirectory
  split
  · exact .done _
  · exact .ask trivial fun _ => .done _

theorem only_tool (environment : Environment) (setting name : Text) :
    Only Looks (tool environment setting name) := by
  unfold tool
  split
  · exact .done _
  · refine (only_homeDirectory environment).bind fun home => ?_
    cases home with
    | none => exact .done _
    | some home =>
      refine (only_pathExists _).bind fun _ => ?_
      split
      · exact .done _
      · exact .done _

/-! ### Builds -/

theorem runCommand_cases (held : Held (runCommand limit command) said check) :
    ∃ outcome, said = [⟨.run command limit, outcome⟩] ∧
      check = CheckRun.ofOutcome command outcome := by
  cases held with
  | ask outcome rest =>
    cases rest
    exact ⟨outcome, rfl, rfl⟩

/-- The command that builds a project. -/
def buildCommand (lake root : Text) : Host.Command := ⟨lake, ["build".toList], root⟩

theorem failed_buildFailure {build : CheckRun} (unsuccessful : build.run.ok = false) :
    (buildFailure build).Failed := by
  unfold buildFailure
  split
  · next given => exact .inl given
  · exact .inr unsuccessful

theorem ok_ofOutcome : (CheckRun.ofOutcome command outcome).run.ok = succeeded outcome := by
  cases outcome <;> rfl

/-- **A build** is one run; it succeeds, or what comes of it is a failure. -/
theorem build_cases {failure : Option CheckRun} (held : Held (build lake root limit) said failure) :
    ∃ outcome, said = [⟨.run (buildCommand lake root) limit, outcome⟩] ∧
      ((succeeded outcome = true ∧ failure = none) ∨
        (succeeded outcome = false ∧ ∃ check, failure = some check ∧ check.Failed)) := by
  obtain ⟨first, rest, built, rfl, ran, ended⟩ := Dialogue.held_bind.1 held
  obtain ⟨outcome, rfl, rfl⟩ := runCommand_cases ran
  cases ended
  refine ⟨outcome, rfl, ?_⟩
  rw [ok_ofOutcome]
  cases success : succeeded outcome with
  | true => exact .inl ⟨rfl, rfl⟩
  | false => exact .inr ⟨rfl, _, rfl, failed_buildFailure (ok_ofOutcome.trans success)⟩

/-- What is run before the first check: a build, if any. -/
inductive BuildFirst (build : Host.Command) :
    List (Host.Command × Host.Outcome) → Option CheckRun → Prop
  | unbuilt : BuildFirst build [] none
  | built (outcome : Host.Outcome) (success : succeeded outcome = true) :
      BuildFirst build [(build, outcome)] none
  | broken (outcome : Host.Outcome) (failure : succeeded outcome = false) {check : CheckRun}
      (failed : check.Failed) : BuildFirst build [(build, outcome)] (some check)

theorem buildFirst_cases {failure : Option CheckRun}
    (held : Held (buildFirst lake root limit autoBuild) said failure) :
    BuildFirst (buildCommand lake root) (toolRuns said) failure := by
  unfold buildFirst at held
  split at held
  · cases held with
    | ask present held =>
      cases present with
      | true =>
        cases held
        exact .unbuilt
      | false =>
        have building : Held (build lake root limit) _ _ := held
        obtain ⟨outcome, rfl, ⟨success, rfl⟩ | ⟨failure, check, rfl, failed⟩⟩ := build_cases building
        · exact .built outcome success
        · exact .broken outcome failure failed
  · cases held
    exact .unbuilt

/-! ### Checks -/

/-- **What is run from the first check on**: nothing more, or, where build output is missing, a build
and, once it has succeeded, the same check again. -/
inductive Twice (build command : Host.Command) :
    List (Host.Command × Host.Outcome) → CheckRun → Prop
  | once (outcome : Host.Outcome) :
      Twice build command [(command, outcome)] (CheckRun.ofOutcome command outcome)
  | broken (first : ToolRun) (unsuccessful : first.ok = false) (lacks : lacksBuildOutput first = true)
      (outcome : Host.Outcome) (failure : succeeded outcome = false) {check : CheckRun}
      (failed : check.Failed) :
      Twice build command [(command, .ended first), (build, outcome)] check
  | again (first : ToolRun) (unsuccessful : first.ok = false) (lacks : lacksBuildOutput first = true)
      (built : Host.Outcome) (success : succeeded built = true) (outcome : Host.Outcome) :
      Twice build command [(command, .ended first), (build, built), (command, outcome)]
        (CheckRun.ofOutcome command outcome)

/-- No error of the system quotes anything. -/
theorem plain_message (error : FileError) : '\'' ∉ error.message := by
  cases error with
  | other wording => exact wording.plain
  | _ => decide

/-- Only a check that ended says that build output is missing. -/
theorem exists_ended_of_lacksBuildOutput
    (inTime : (CheckRun.ofOutcome command outcome).timedOut = false)
    (lacks : lacksBuildOutput (CheckRun.ofOutcome command outcome).run = true) :
    ∃ run, outcome = .ended run := by
  cases outcome with
  | notStarted error =>
    change lacksBuildOutput (silentRun ("failed to execute: " ++ error.message)) = true at lacks
    simp only [lacksBuildOutput, Bool.and_eq_true] at lacks
    have quotes := (Text.contains_iff.1 lacks.1.1).subset (show '\'' ∈ "object file '".toList by decide)
    simp [silentRun, plain_message] at quotes
  | timedOut => cases inTime
  | ended run => exact ⟨run, rfl⟩

theorem checkTwice_cases (held : Held (checkTwice lake root limit autoBuild command) said check) :
    Twice (buildCommand lake root) command (toolRuns said) check ∧
      ∀ exchange ∈ said, (toolRun? exchange).isSome = true := by
  obtain ⟨begun, rest, first, rfl, ran, later⟩ := Dialogue.held_bind.1 held
  obtain ⟨outcome, rfl, rfl⟩ := runCommand_cases ran
  split at later
  · next retried =>
    simp only [Bool.and_eq_true, Bool.not_eq_true'] at retried
    obtain ⟨⟨⟨unsuccessful, inTime⟩, -⟩, lacks⟩ := retried
    obtain ⟨first, rfl⟩ := exists_ended_of_lacksBuildOutput inTime lacks
    obtain ⟨building, behind, failure, rfl, built, ended⟩ := Dialogue.held_bind.1 later
    obtain ⟨outcome, rfl, ⟨success, rfl⟩ | ⟨failure, check, rfl, failed⟩⟩ := build_cases built
    · obtain ⟨last, rfl, rfl⟩ := runCommand_cases ended
      exact ⟨.again first unsuccessful lacks outcome success last, by simp [toolRun?]⟩
    · cases ended
      exact ⟨.broken first unsuccessful lacks outcome failure failed, by simp [toolRun?]⟩
  · cases later
    exact ⟨.once outcome, by simp [toolRun?]⟩

/-! ### Whole checks -/

namespace Checker

/-- The tool that checks texts. -/
def checkTool (checker : Checker) (environment : Environment) : Hosted Text :=
  match checker.place with
  | some _ => buildTool environment
  | none => assistant environment

/-- The arguments by which it checks the file at a path. -/
def checkArguments (checker : Checker) (path : Text) : List Text :=
  match checker.place with
  | some _ => ["env".toList, "lean".toList, path]
  | none => [path]

end Checker

/-- **A check of a text**: what was asked `before` it, then the text was put into a file, in the `work`
nothing but tools was run, and at last the file was removed. The `command` is the one that checks the
file, by the tool and in the root that were found before. -/
structure Checking (checker : Checker) (environment : Environment) (text : Text)
    (before work said : List Asked) (path : Text) (command : Host.Command) : Prop where
  said : ∃ directory, said = before ++ ⟨.makeTemporary directory text, .ok path⟩ ::
    (work ++ [⟨.removeTemporary path, ()⟩])
  work : ∀ exchange ∈ work, (toolRun? exchange).isSome = true
  arguments : command.arguments = checker.checkArguments path
  program : ∃ asked, asked <:+: before ∧ Held (checker.checkTool environment) asked command.program
  directory : ∀ place, checker.place = some place →
    ∃ asked, asked <+: before ∧ Held (findRoot place) asked (.ok command.directory)

variable {checker : Checker} {before work : List Asked} {result : Except CheckError CheckRun}

theorem Checking.toolRuns (checking : Checking checker environment text before work said path command) :
    toolRuns said = toolRuns before ++ toolRuns work := by
  obtain ⟨directory, rfl⟩ := checking.said
  rw [toolRuns_append]
  show _ ++ Project.toolRuns (work ++ [_]) = _
  rw [toolRuns_append]
  exact congrArg _ (List.append_nil _)

theorem withTemporary_cases {work : Text → Hosted CheckRun}
    (held : Held (withTemporary environment text work) said result) :
    (∃ error, result = .error error ∧ toolRuns said = []) ∨
      ∃ directory path asked check, result = .ok check ∧ Held (work path) asked check ∧
        said = ⟨.makeTemporary directory text, .ok path⟩ ::
          (asked ++ [⟨.removeTemporary path, ()⟩]) := by
  cases held with
  | ask path held =>
    cases path with
    | error error =>
      cases held
      exact .inl ⟨_, rfl, rfl⟩
    | ok path =>
      change Held (work path >>= _) _ _ at held
      obtain ⟨asked, behind, check, rfl, worked, ended⟩ := Dialogue.held_bind.1 held
      cases ended with
      | ask gone ended =>
        cases ended
        exact .inr ⟨_, path, asked, check, rfl, worked, rfl⟩

/-- **What a check in a project can ask**: it ends before the text is checked, with an error or with a
build that failed, or the text is checked. -/
theorem checkInside_cases (inside : checker.place = some place)
    (held : Held (checkInside environment place text limit autoBuild) said result) :
    ∃ lake root,
      (∃ error, result = .error error ∧ BuildFirst (buildCommand lake root) (toolRuns said) none) ∨
      (∃ check, result = .ok check ∧
        BuildFirst (buildCommand lake root) (toolRuns said) (some check)) ∨
      ∃ before work path command check, result = .ok check ∧
        Checking checker environment text before work said path command ∧
        BuildFirst (buildCommand lake root) (toolRuns before) none ∧
        Twice (buildCommand lake root) command (toolRuns work) check := by
  obtain ⟨rooting, later, root, rfl, rooted, held⟩ := Dialogue.held_bind.1 held
  have silent := toolRuns_of_looks (only_findRoot place) rooted
  cases root with
  | error error =>
    cases held
    refine ⟨[], [], .inl ⟨_, rfl, ?_⟩⟩
    rw [toolRuns_append, silent]
    exact .unbuilt
  | ok root =>
    obtain ⟨finding, later, lake, rfl, found, held⟩ := Dialogue.held_bind.1 held
    have quiet := toolRuns_of_looks (only_tool environment "LAKE" "lake") found
    obtain ⟨building, later, failure, rfl, built, held⟩ := Dialogue.held_bind.1 held
    have first := buildFirst_cases built
    have asked : toolRuns (rooting ++ (finding ++ building)) = toolRuns building := by
      rw [toolRuns_append, toolRuns_append, silent, quiet, List.nil_append, List.nil_append]
    refine ⟨lake, root, ?_⟩
    cases failure with
    | some failure =>
      cases held
      refine .inr (.inl ⟨failure, rfl, ?_⟩)
      rw [List.append_nil, asked]
      exact first
    | none =>
      rcases withTemporary_cases held with ⟨error, rfl, none⟩ |
        ⟨directory, path, work, check, rfl, worked, rfl⟩
      · refine .inl ⟨error, rfl, ?_⟩
        rw [← List.append_assoc, ← List.append_assoc, toolRuns_append, List.append_assoc, asked, none,
          List.append_nil]
        exact first
      · obtain ⟨twice, runs⟩ := checkTwice_cases worked
        refine .inr (.inr ⟨rooting ++ (finding ++ building), work, path, _, check, rfl, ?_,
          asked ▸ first, twice⟩)
        refine ⟨⟨directory, by simp⟩, runs, ?_, ?_, ?_⟩
        · rw [Checker.checkArguments, inside]
        · rw [Checker.checkTool, inside]
          exact ⟨finding, ⟨rooting, building, List.append_assoc ..⟩, found⟩
        · intro other same
          cases inside.symm.trans same
          exact ⟨rooting, List.prefix_append .., rooted⟩

/-- **What a check on its own can ask**: without a temporary file nothing is run, and else one
command. -/
theorem checkAlone_cases (alone : checker.place = none)
    (held : Held (checkAlone environment text limit) said result) :
    (∃ error, result = .error error ∧ toolRuns said = []) ∨
      ∃ before work path command outcome, result = .ok (CheckRun.ofOutcome command outcome) ∧
        Checking checker environment text before work said path command ∧ toolRuns before = [] ∧
        toolRuns work = [(command, outcome)] := by
  obtain ⟨finding, later, lean, rfl, found, held⟩ := Dialogue.held_bind.1 held
  have silent := toolRuns_of_looks (only_tool environment "LEAN" "lean") found
  rcases withTemporary_cases held with ⟨error, rfl, none⟩ |
    ⟨directory, path, work, check, rfl, worked, rfl⟩
  · refine .inl ⟨error, rfl, ?_⟩
    rw [toolRuns_append, silent, none, List.append_nil]
  · obtain ⟨outcome, rfl, rfl⟩ := runCommand_cases worked
    refine .inr ⟨finding, [⟨.run _ limit, outcome⟩], path, _, outcome, rfl, ?_, silent, rfl⟩
    refine ⟨⟨directory, rfl⟩, by simp [toolRun?], ?_, ?_, ?_⟩
    · rw [Checker.checkArguments, alone]
    · rw [Checker.checkTool, alone]
      exact ⟨finding, List.infix_rfl, found⟩
    · intro place same
      cases alone.symm.trans same

end Project
end ProofDesk
