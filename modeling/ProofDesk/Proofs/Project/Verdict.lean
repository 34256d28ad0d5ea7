import ProofDesk.Prover.Feedback
import ProofDesk.Session.Step
import ProofDesk.Proofs.Project.Tools

/-!
# No success without a check

A report without an error is only given on a text that the proof assistant was run on, last of all,
and that it accepted. Whatever else happens on the way is an error of the report: no project, no
temporary file, a build or a check that fails, is given up or is not even started.

* `Vouched` — the last tool that was run is the check of the text, and it found no error.
* `vouched_of_report` — a report without an error is vouched for.
* `Bounded` — how often the tools are run; `bounded_inside` and `bounded_alone`.
* `verify_sound` — both, with what a session and the prover make of the report.
-/

namespace ProofDesk
namespace Project

open Dialogue (Held Respondent)

variable {environment : Environment} {checker : Checker} {text place path : Text}
  {command build : Host.Command} {said before work : List Asked} {check : CheckRun}
  {runs : List (Host.Command × Host.Outcome)} {result : Except CheckError CheckRun}

/-! ### Reports without an error -/

theorem hasError_report_of_failed (failed : check.Failed) :
    (checker.report (.ok check)).hasError = true := by
  unfold Checker.report
  dsimp only
  split
  · rfl
  · next inTime => exact Verification.hasError_ofRun (failed.resolve_left inTime)

/-- **A run that is reported without an error** ended in time and with success, and its output has no
error. -/
theorem exists_ended_of_report {outcome : Host.Outcome}
    (clear : (checker.report (.ok (CheckRun.ofOutcome command outcome))).hasError = false) :
    ∃ run, outcome = .ended run ∧ run.ok = true ∧
      (Diagnostic.Listing.read run.response).any Diagnostic.isError = false ∧
      checker.report (.ok (CheckRun.ofOutcome command outcome)) = Verification.ofRun run := by
  cases outcome with
  | notStarted error =>
    have failed : (CheckRun.ofOutcome command (.notStarted error)).Failed := .inr rfl
    rw [hasError_report_of_failed failed] at clear
    cases clear
  | timedOut => cases clear
  | ended run =>
    have report : checker.report (.ok (CheckRun.ofOutcome command (.ended run))) =
        Verification.ofRun run := rfl
    rw [report] at clear ⊢
    cases success : run.ok with
    | false =>
      rw [Verification.hasError_ofRun success] at clear
      cases clear
    | true =>
      refine ⟨run, rfl, success, ?_, rfl⟩
      rw [Verification.hasError, Verification.ofRun, success] at clear
      exact clear

/-- **The text was checked, last of all**: every build before succeeded, the check of the text ended in
time and with success, its output has no error, and it is what is reported. -/
def Vouched (checker : Checker) (environment : Environment) (text : Text) (said : List Asked)
    (report : Verification) : Prop :=
  ∃ before work path command limit run,
    Checking checker environment text before (work ++ [⟨.run command limit, .ended run⟩]) said path
      command ∧
    (∀ other ∈ toolRuns (before ++ work), other.1 ≠ command → succeeded other.2 = true) ∧
    run.ok = true ∧ (Diagnostic.Listing.read run.response).any Diagnostic.isError = false ∧
    report = Verification.ofRun run

/-- The last of the runs is the last exchange of work that runs tools only. -/
theorem exists_concat_of_toolRuns (front : List (Host.Command × Host.Outcome))
    {outcome : Host.Outcome} (only : ∀ exchange ∈ work, (toolRun? exchange).isSome = true)
    (shape : toolRuns work = front ++ [(command, outcome)]) :
    ∃ init limit, work = init ++ [⟨.run command limit, outcome⟩] ∧ toolRuns init = front := by
  rcases List.eq_nil_or_concat work with rfl | ⟨init, ⟨question, answer⟩, rfl⟩
  · cases front <;> cases shape
  · rw [List.concat_eq_append] at *
    have last := only ⟨question, answer⟩ (by simp)
    cases question with
    | run other limit =>
      rw [toolRuns_append] at shape
      obtain ⟨same, tail⟩ := List.append_inj' shape rfl
      cases tail
      exact ⟨init, limit, rfl, same⟩
    | _ => cases last

/-- **A check that is reported without an error** ends with a run of its command. -/
theorem exists_last_of_twice (only : ∀ exchange ∈ work, (toolRun? exchange).isSome = true)
    (twice : Twice build command (toolRuns work) check)
    (clear : (checker.report (.ok check)).hasError = false) :
    ∃ init limit run, work = init ++ [⟨.run command limit, .ended run⟩] ∧
      (∀ other ∈ toolRuns init, other.1 ≠ command → succeeded other.2 = true) ∧ run.ok = true ∧
      (Diagnostic.Listing.read run.response).any Diagnostic.isError = false ∧
      checker.report (.ok check) = Verification.ofRun run := by
  generalize shape : toolRuns work = runs at twice
  cases twice with
  | once outcome =>
    obtain ⟨run, rfl, success, silent, report⟩ := exists_ended_of_report clear
    obtain ⟨init, limit, rfl, none⟩ := exists_concat_of_toolRuns [] only shape
    exact ⟨init, limit, run, rfl, by simp [none], success, silent, report⟩
  | broken first unsuccessful lacks outcome failure failed =>
    rw [hasError_report_of_failed failed] at clear
    cases clear
  | again first unsuccessful lacks built builtWell outcome =>
    obtain ⟨run, rfl, success, silent, report⟩ := exists_ended_of_report clear
    obtain ⟨init, limit, rfl, two⟩ := exists_concat_of_toolRuns
      [(command, .ended first), (build, built)] only shape
    exact ⟨init, limit, run, rfl, by simp [two, builtWell], success, silent, report⟩

/-- **A report without an error is vouched for.** -/
theorem vouched_of_report {report : Verification}
    (held : Held (checker.verify environment text) said report) (clear : report.hasError = false) :
    Vouched checker environment text said report := by
  obtain ⟨result, checked, rfl⟩ := Dialogue.held_map.1 held
  unfold Checker.check at checked
  split at checked
  · next place inside =>
    obtain ⟨lake, root, ⟨error, rfl, -⟩ | ⟨failure, rfl, first⟩ |
      ⟨before, work, path, command, check, rfl, checking, first, twice⟩⟩ :=
        checkInside_cases inside checked
    · cases clear
    · generalize toolRuns said = runs at first
      cases first with
      | broken outcome failure failed =>
        rw [hasError_report_of_failed failed] at clear
        cases clear
    · obtain ⟨init, limit, run, rfl, builds, success, silent, report⟩ :=
        exists_last_of_twice checking.work twice clear
      refine ⟨before, init, path, command, limit, run, checking, ?_, success, silent, report⟩
      intro other member
      rw [toolRuns_append] at member
      rcases List.mem_append.1 member with member | member
      · intro _
        generalize toolRuns before = runs at first member
        cases first with
        | unbuilt => cases member
        | built outcome success =>
          obtain rfl := List.mem_singleton.1 member
          exact success
      · exact builds other member
  · next alone =>
    rcases checkAlone_cases alone checked with ⟨error, rfl, -⟩ |
      ⟨before, work, path, command, outcome, rfl, checking, none, shape⟩
    · cases clear
    · have twice : Twice command command (toolRuns work) (CheckRun.ofOutcome command outcome) := by
        rw [shape]
        exact .once outcome
      obtain ⟨init, limit, run, rfl, builds, success, silent, report⟩ :=
        exists_last_of_twice checking.work twice clear
      refine ⟨before, init, path, command, limit, run, checking, ?_, success, silent, report⟩
      rw [toolRuns_append, none, List.nil_append]
      exact builds

/-! ### How often the tools are run -/

namespace Checker

/-- The command builds the project. -/
def isBuild (checker : Checker) (command : Host.Command) : Bool :=
  checker.place.isSome && command.arguments = ["build".toList]

/-- The command checks a file. -/
def isCheck (checker : Checker) (command : Host.Command) : Bool :=
  match checker.place, command.arguments with
  | some _, [first, second, _] => first = "env".toList && second = "lean".toList
  | none, [_] => true
  | _, _ => false

end Checker

/-- **How often the tools are run**: there are at most two builds and at most two checks, and the second
check comes last, right after a first one that failed for missing build output and a build that
succeeded. -/
structure Bounded (checker : Checker) (runs : List (Host.Command × Host.Outcome)) : Prop where
  known : ∀ run ∈ runs, checker.isBuild run.1 = true ∨ checker.isCheck run.1 = true
  builds : runs.countP (fun run => checker.isBuild run.1) ≤ 2
  checks : runs.countP (fun run => checker.isCheck run.1) ≤ 2
  again : runs.countP (fun run => checker.isCheck run.1) = 2 →
    ∃ before command first build built outcome,
      runs = before ++ [(command, .ended first), (build, built), (command, outcome)] ∧
      checker.isCheck command = true ∧ first.ok = false ∧ lacksBuildOutput first = true ∧
      checker.isBuild build = true ∧ succeeded built = true

section Inside

variable (inside : checker.place = some place)

include inside

theorem kind_command
    (checking : Checking checker environment text before work said path command) :
    checker.isCheck command = true ∧ checker.isBuild command = false := by
  have arguments := checking.arguments
  simp only [Checker.checkArguments, inside] at arguments
  constructor
  · simp [Checker.isCheck, inside, arguments]
  · simp [Checker.isBuild, arguments]

theorem kind_buildCommand (lake root : Text) :
    checker.isCheck (buildCommand lake root) = false ∧
      checker.isBuild (buildCommand lake root) = true := by
  simp [Checker.isCheck, Checker.isBuild, buildCommand, inside]

theorem bounded_buildFirst {lake root : Text} {failure : Option CheckRun}
    (first : BuildFirst (buildCommand lake root) runs failure) : Bounded checker runs := by
  obtain ⟨other, builds⟩ := kind_buildCommand inside lake root
  cases first with
  | unbuilt => exact ⟨nofun, Nat.zero_le _, Nat.zero_le _, nofun⟩
  | built outcome success => constructor <;> simp [builds, other]
  | broken outcome failure failed => constructor <;> simp [builds, other]

/-- **In a project** the tools are run in the order build, check, build, check. -/
theorem bounded_inside {limit : Nat} {autoBuild : Bool}
    (held : Held (checkInside environment place text limit autoBuild) said result) :
    Bounded checker (toolRuns said) := by
  obtain ⟨lake, root, ⟨error, -, first⟩ | ⟨failure, -, first⟩ |
    ⟨before, work, path, command, check, -, checking, first, twice⟩⟩ :=
      checkInside_cases inside held
  · exact bounded_buildFirst inside first
  · exact bounded_buildFirst inside first
  · obtain ⟨checks, noBuild⟩ := kind_command inside checking
    obtain ⟨noCheck, builds⟩ := kind_buildCommand inside lake root
    rw [checking.toolRuns]
    generalize toolRuns before = runs at first
    generalize toolRuns work = later at twice
    have early : runs.countP (fun run => checker.isBuild run.1) ≤ 1 ∧
        runs.countP (fun run => checker.isCheck run.1) = 0 ∧
        ∀ run ∈ runs, checker.isBuild run.1 = true := by
      cases first with
      | unbuilt => exact ⟨Nat.zero_le 1, rfl, nofun⟩
      | built outcome success => simp [builds, noCheck]
    obtain ⟨few, none, only⟩ := early
    have known : ∀ run ∈ runs, checker.isBuild run.1 = true ∨ checker.isCheck run.1 = true :=
      fun run member => .inl (only run member)
    cases twice with
    | once outcome =>
      refine ⟨List.forall_mem_append.2 ⟨known, by simp [checks]⟩, ?_, ?_, ?_⟩
      · simp [noBuild]; omega
      · simp [checks, none]
      · simp [checks, none]
    | broken first unsuccessful lacks outcome failure failed =>
      refine ⟨List.forall_mem_append.2 ⟨known, by simp [checks, builds]⟩, ?_, ?_, ?_⟩
      · simp [noBuild, builds]; omega
      · simp [checks, noCheck, none]
      · simp [checks, noCheck, none]
    | again first unsuccessful lacks built success outcome =>
      refine ⟨List.forall_mem_append.2 ⟨known, by simp [checks, builds]⟩, ?_, ?_, fun _ => ?_⟩
      · simp [noBuild, builds]; omega
      · simp [checks, noCheck, none]
      · exact ⟨runs, command, first, _, built, outcome, rfl, checks, unsuccessful, lacks, builds,
          success⟩

end Inside

theorem bounded_alone (alone : checker.place = none) {limit : Nat}
    (held : Held (checkAlone environment text limit) said result) :
    Bounded checker (toolRuns said) := by
  rcases checkAlone_cases alone held with ⟨error, -, shape⟩ |
    ⟨before, work, path, command, outcome, -, checking, none, shape⟩
  · rw [shape]
    exact ⟨nofun, Nat.zero_le _, Nat.zero_le _, nofun⟩
  · have arguments := checking.arguments
    simp only [Checker.checkArguments, alone] at arguments
    have checks : checker.isCheck command = true := by simp [Checker.isCheck, alone, arguments]
    have noBuild : checker.isBuild command = false := by simp [Checker.isBuild, alone]
    rw [checking.toolRuns, none, shape]
    constructor <;> simp [checks, noBuild]

theorem bounded_verify {report : Verification}
    (held : Held (checker.verify environment text) said report) : Bounded checker (toolRuns said) := by
  obtain ⟨result, checked, rfl⟩ := Dialogue.held_map.1 held
  unfold Checker.check at checked
  split at checked
  · next place inside => exact bounded_inside inside checked
  · next alone => exact bounded_alone alone checked

/-! ### What a report is taken for -/

/-- Only a report without an error counts as a proof. -/
theorem hasError_of_proved {report : Verification} (proved : Feedback.classify report = .proved) :
    report.hasError = false := by
  unfold Feedback.classify at proved
  split at proved
  · cases proved
  · split at proved
    · cases proved
    · next clear =>
      unfold Feedback.reportsError at clear
      unfold Verification.hasError
      cases found : report.diagnostics with
      | none => rfl
      | some diagnostics =>
        rw [found] at clear
        exact Bool.eq_false_iff.2 clear

theorem severity_restoreMessage (session : Session) (submitted : Text) (message : Message) :
    (session.restoreMessage submitted message).severity = message.severity := by
  unfold Session.restoreMessage
  split <;> rfl

/-- An error of a report is a message of the session. -/
theorem exists_error_of_hasError {report : Verification} (error : report.hasError = true)
    (source : Text) : ∃ message ∈ deriveMessages report source, message.severity = .error := by
  obtain ⟨diagnostics, found, any⟩ := (Option.any_eq_true ..).1 error
  obtain ⟨diagnostic, member, isError⟩ := List.any_eq_true.1 any
  have placed : diagnostic.toMessage source ∈ diagnostics.map (Diagnostic.toMessage · source) :=
    List.mem_map_of_mem member
  refine ⟨diagnostic.toMessage source, ?_, of_decide_eq_true isError⟩
  unfold deriveMessages
  rw [found]
  dsimp only
  split
  · exact List.mem_append_left _ placed
  · split
    · next empty =>
      rw [empty] at placed
      cases placed
    · exact placed

/-- **A session is only told of success** when the report has no error. -/
theorem hasError_of_success {session : Session} {report : Verification}
    (success : ((session.absorb report).result report).success = true) :
    report.hasError = false := by
  cases error : report.hasError with
  | false => rfl
  | true =>
    obtain ⟨message, member, severity⟩ := exists_error_of_hasError error session.submission
    have received : session.restoreMessage session.submission message ∈
        session.receivedMessages report := List.mem_map_of_mem member
    have none : Message.anyOf .error (session.receivedMessages report) = false := by
      simpa [Session.result, Session.absorb] using success
    rw [Message.anyOf, List.any_eq_false] at none
    have other := none _ received
    rw [severity_restoreMessage, severity] at other
    simp at other

/-- **No success without a check**, whatever the project looks like and whatever the tools do: a report
without an error, a verdict of proof and the success of a session are vouched for by the check of the
text. And the tools are not run more often than they have to be. -/
theorem verify_sound (checker : Checker) (environment : Environment) (text : Text)
    (respondent : Respondent Host.Query Host.Query.Answer) :
    let held := (checker.verify environment text).heldWith respondent []
    (held.1.hasError = false → Vouched checker environment text held.2 held.1) ∧
      (Feedback.classify held.1 = .proved → Vouched checker environment text held.2 held.1) ∧
      (∀ session : Session,
        let compiled := (session.compile.relay (checker.verify environment)).heldWith respondent []
        compiled.1.1.success = true →
          ∃ report, Vouched checker environment session.submission compiled.2 report ∧
            compiled.1 = ((session.absorb report).result report, session.absorb report)) ∧
      Bounded checker (toolRuns held.2) := by
  intro held
  have verified : Held (checker.verify environment text) held.2 held.1 :=
    Dialogue.held_heldWith respondent _
  refine ⟨vouched_of_report verified,
    fun proved => vouched_of_report verified (hasError_of_proved proved), ?_,
    bounded_verify verified⟩
  intro session compiled success
  have relayed : Held (session.compile.relay (checker.verify environment)) compiled.2 compiled.1 :=
    Dialogue.held_heldWith respondent _
  generalize compiled.2 = said, compiled.1 = outcome at relayed success ⊢
  obtain ⟨report, reported, rfl⟩ := Dialogue.held_map.1 relayed
  exact ⟨report, vouched_of_report reported (hasError_of_success success), rfl⟩

/-- A host on which nothing was built so far, and everything goes well. -/
def unbuilt : Respondent Host.Query Host.Query.Answer
  | _, .resolve path => .ok path
  | _, .present path => !Text.endsWith buildOutput path
  | _, .homeDirectory => none
  | _, .makeTemporary directory _ => .ok (Path.join directory "check.lean")
  | _, .removeTemporary _ => ()
  | _, .run _ _ => .ended ⟨true, some 0, [], []⟩
  | _, .read _ => .ok []
  | _, .write _ _ => .ok ()
  | _, .makeDirectory _ => .ok ()
  | _, .isDirectory _ => true
  | _, .send _ => none
  | _, .freshId => []

/-- There the project is built and the text is checked once, and the report is vouched for. -/
theorem verify_sound_unbuilt :
    let checker : Checker := ⟨some "/work", 1000, true⟩
    let text : Text := "theorem t : True := trivial"
    let held := (checker.verify (fun _ => none) text).heldWith unbuilt []
    held.1.hasError = false ∧ (toolRuns held.2).length = 2 ∧
      Vouched checker (fun _ => none) text held.2 held.1 := by
  intro checker text held
  have clear : held.1.hasError = false := by decide
  exact ⟨clear, by decide, (verify_sound checker _ text unbuilt).1 clear⟩

end Project
end ProofDesk
