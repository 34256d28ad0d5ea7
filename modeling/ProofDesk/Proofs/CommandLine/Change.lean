import ProofDesk.Proofs.CommandLine.Preparation
import ProofDesk.Proofs.CommandLine.Steps

/-!
# Commands that change a file

The commands `edit`, `structure` and `script` read a file, perform steps on it and write it back when
that is wanted. The report comes last, so a command may fail for the report when the file has been
written already, and a write that fails half way leaves the file cut. Every other failure leaves all
files alone.

* `ends_write` and `Stays` — a file that is written or cut, and one that stays what it is.
* `emit_cases` — the report keeps the content of any other file.
* `Worked` — the work of a command: what it read, performed and reported.
* `change_cases` — a command fails before it writes, or does its work and goes on to the report.
* `change_leaves` — **what is left behind**, on every machine and for all arguments.
* `changed_by_failure` — a failure for the report, with the file changed.
-/

namespace ProofDesk
namespace CommandLine

open Dialogue (Held)
open Rehearsal (Fault Machine Tree Keeps)

variable {α : Type} {machine middle after : Machine} {path text content out : Text}
  {arguments : Arguments} {environment : Environment} {around : Surroundings} {report : Json}

/-! ### Reports -/

section Reports

variable {result : Except Failure Unit} {outcome : Except Failure Text}

/-- **A write that failed** has left all files as they were, or the file with the first bytes of the text
only. -/
def Cut (tree : Tree) (path text : Text) (later : Tree) : Prop :=
  later = tree ∨ ∃ bytes, tree.fill path (Machine.front? bytes text) = .ok later

/-- **Writing a file** fails and may leave the file cut, or gives the file its content. -/
theorem ends_write {failure : WriteError → Failure}
    (ends : Ends (orFail failure (Host.writeFile path text)) machine result after) :
    (∃ error, result = .error (failure error) ∧ Cut machine.tree path text after.tree) ∨
      result = .ok () ∧ machine.tree.write path text = .ok after.tree := by
  rcases ends_orFail ends with ⟨error, rfl, ran⟩ | ⟨_, rfl, ran⟩
  · refine .inl ⟨error, rfl, ?_⟩
    rcases Rehearsal.write_cases ran with ⟨_, -, same⟩ | ⟨_, bytes, -, filled⟩ | ⟨succeeded, -⟩
    · exact .inl same
    · exact .inr ⟨bytes, filled⟩
    · cases succeeded
  · rcases Rehearsal.write_cases ran with ⟨_, failed, -⟩ | ⟨_, _, failed, -⟩ | ⟨-, written⟩
    · cases failed
    · cases failed
    · exact .inr ⟨rfl, written⟩

/-- The file at a path keeps its content, and relative paths their directory. -/
def Stays (tree : Tree) (path content : Text) (later : Tree) : Prop :=
  later.workplace = tree.workplace ∧ later.read path = .ok content

theorem keeps_makeDirectories (tree : Tree) (path content directory : Text) :
    Keeps (Stays tree path content) (Host.makeDirectories directory) := by
  refine Rehearsal.keeps_makeDirectories ?_ directory
  rintro later place ⟨workplace, found⟩ free
  refine ⟨workplace, Tree.read_put found (by rw [free]; nofun) ?_ _⟩
  rintro rfl
  rw [(Tree.read_eq_ok.1 found).2] at free
  cases free

/-- **Writing the report** to another file keeps the content of a file; a failure says that it is about
the report. -/
structure Writes (path content out : Text) (report : Json) (result : Except Failure Unit)
    (after : Machine) : Prop where
  kept : after.tree.read path = .ok content
  failed : ∀ failure, result = .error failure → failure.phase = .report
  written : result = .ok () → after.tree.read out = .ok report.pretty

/-- The directories above the file are there, and the file itself is written. -/
theorem writes_of_stays (tree : Tree) (stays : Stays tree path content machine.tree)
    (apart : tree.destination out ≠ tree.destination path)
    (ends : Ends (orFail (Failure.ofReport out) (Host.writeFile out report.pretty)) machine result
      after) :
    Writes path content out report result after := by
  obtain ⟨workplace, found⟩ := stays
  have apart' : machine.tree.destination out ≠ machine.tree.destination path := by
    rwa [Tree.destination_congr workplace, Tree.destination_congr workplace]
  rcases ends_write ends with ⟨error, rfl, cut⟩ | ⟨rfl, written⟩
  · refine ⟨?_, fun failure same => ?_, nofun⟩
    · rcases cut with same | ⟨bytes, filled⟩
      · rwa [same]
      · exact Tree.read_fill_of_ne found filled apart'
    · cases same
      cases error <;> rfl
  · exact ⟨Tree.read_fill_of_ne found written apart', nofun, fun _ => Tree.read_write written⟩

theorem writeReport_cases (found : machine.tree.read path = .ok content)
    (apart : machine.tree.destination out ≠ machine.tree.destination path)
    (ends : Ends (writeReport out report) machine result after) :
    Writes path content out report result after := by
  unfold writeReport at ends
  extract_lets finish at ends
  split at ends
  · next directory _ =>
    have stays := keeps_makeDirectories machine.tree path content directory machine ⟨rfl, found⟩
    rcases ends_bind ends with ⟨failure, rfl, failed⟩ | ⟨_, middle, made, rest⟩
    · rcases ends_orFail failed with ⟨error, reason, ran⟩ | ⟨_, succeeded, -⟩
      · rw [ran] at stays
        refine ⟨stays.2, fun other same => ?_, nofun⟩
        cases same
        cases reason
        rfl
      · cases succeeded
    · rcases ends_orFail made with ⟨error, reason, -⟩ | ⟨_, -, ran⟩
      · cases reason
      · rw [ran] at stays
        exact writes_of_stays machine.tree stays apart rest
  · exact writes_of_stays machine.tree ⟨rfl, found⟩ apart ends

/-- The report is where the arguments want it: in a file, or printed. -/
def Reported (arguments : Arguments) (report : Json) (output : Text) (after : Machine) : Prop :=
  match arguments.value? "--output-json" with
  | some out => after.tree.read out = .ok report.pretty
  | none => output = report.pretty ++ ['\n']

theorem reported_of_file {output : Text} (wanted : arguments.value? "--output-json" = some out)
    (written : after.tree.read out = .ok report.pretty) : Reported arguments report output after := by
  rw [Reported, wanted]
  exact written

theorem reported_of_printed (unwanted : arguments.value? "--output-json" = none) :
    Reported arguments report (report.pretty ++ ['\n']) after := by
  rw [Reported, unwanted]

/-- **The report keeps the content** of the file that it is about, and nothing else can fail by then. -/
theorem emit_cases (found : machine.tree.read path = .ok content)
    (apart : ∀ out, arguments.value? "--output-json" = some out →
      machine.tree.destination out ≠ machine.tree.destination path)
    (ends : Ends (emit arguments report) machine outcome after) :
    after.tree.read path = .ok content ∧
      (∀ failure, outcome = .error failure → failure.phase = .report) ∧
        ∀ output, outcome = .ok output → Reported arguments report output after := by
  unfold emit at ends
  split at ends
  · next out wanted =>
    rcases ends_bind ends with ⟨failure, rfl, failed⟩ | ⟨_, middle, done, rest⟩
    · have writes := writeReport_cases found (apart out wanted) failed
      refine ⟨writes.kept, fun other same => ?_, nofun⟩
      cases same
      exact writes.failed failure rfl
    · have writes := writeReport_cases found (apart out wanted) done
      cases rest
      exact ⟨writes.kept, nofun, fun _ _ => reported_of_file wanted (writes.written rfl)⟩
  · next unwanted =>
    cases ends
    refine ⟨found, nofun, fun output same => ?_⟩
    cases same
    exact reported_of_printed unwanted

end Reports

/-! ### The steps that are asked for -/

/-- The commands that change a file. -/
def changing : List Text := ["edit".toList, "structure".toList, "script".toList]

/-- The steps that the arguments of such a command ask for. -/
def stepsOf (name : Text) (arguments : Arguments) : Step (List Session.Step) :=
  if name = "edit".toList then editSteps arguments
  else if name = "structure".toList then return outlineSteps arguments
  else scriptSteps arguments

theorem settled_stepsOf (name : Text) (arguments : Arguments) : Settled (stepsOf name arguments) := by
  unfold stepsOf
  split
  · exact (settled_needed ..).bind fun _ => (settled_needed ..).bind fun _ => .inl ⟨_, rfl⟩
  · split
    · exact .inl ⟨_, rfl⟩
    · refine (settled_needed ..).bind fun script => ?_
      split
      · exact .inl ⟨_, rfl⟩
      · exact .inr ⟨_, rfl, rfl⟩

/-- **Such a command** looks at its surroundings and changes the file by its steps. -/
theorem command_of_changing {name : Text} (changes : name ∈ changing) (environment : Environment)
    (arguments : Arguments) :
    command environment name arguments = surroundings environment arguments >>= fun around =>
      change around arguments (stepsOf name arguments) := by
  rcases List.mem_cons.1 changes with rfl | changes
  · rfl
  · rcases List.mem_cons.1 changes with rfl | changes
    · rfl
    · obtain rfl := List.mem_singleton.1 changes
      rfl

/-! ### The work on a file -/

/-- The report on the steps. -/
def changeReport (path : Text) (written : Bool) (initial : CompileResult) (reports : List Json)
    (panel : Session.Panel) : Json :=
  Json.record [
    Json.field "file" path, Json.field "written" written, Json.field "initial" initial,
    Json.field "steps" reports, Json.field "panel" panel]

/-- **The command has done its work**: it has read the file, performed the steps that were asked for
and reported on each of them, and it has the document made by those that report success. -/
structure Worked (steps : Step (List Session.Step)) (arguments : Arguments) (tree : Tree)
    (path text document : Text) (performed : List (Session.Step × Json)) (report : Json) : Prop where
  read : tree.read path = .ok text
  asked : steps = pure (performed.map Prod.fst)
  folds : Folds text performed document
  told : ∃ initial panel,
    report = changeReport path (arguments.has "--write") initial (performed.map Prod.snd) panel

section Work

variable {outcome : Except Failure Text} {steps : Step (List Session.Step)}

/-- What is held with a verifier is held with its answers. -/
theorem held_of_verified {work : Verified α} {value : α}
    (ends : Ends (around.verified work) machine (.ok value) after) : ∃ said, Held work said value := by
  obtain ⟨other, same, ran⟩ := ends_sure ends
  cases same
  obtain ⟨told, held⟩ := Dialogue.exists_held Machine.answer (work.relay around.verify) machine
  rw [ran] at held
  exact Dialogue.exists_held_relay held

/-- **The command failed when it wrote the file**, and may have cut it. -/
structure Breaks (arguments : Arguments) (tree : Tree) (path document : Text)
    (outcome : Except Failure Text) (after : Machine) : Prop where
  wanted : arguments.has "--write" = true
  failed : ∃ failure, outcome = .error failure ∧ failure.phase = .file
  cut : Cut tree path document after.tree

/-- **The end of the work**: the file is written if that is wanted, and then comes the report. -/
def Goes (arguments : Arguments) (tree : Tree) (path document : Text) (report : Json)
    (outcome : Except Failure Text) (after : Machine) : Prop :=
  ∃ later : Machine,
    (if arguments.has "--write" then tree.write path document = .ok later.tree else later.tree = tree) ∧
    Ends (emit arguments report) later outcome after

theorem writing_cases {document : Text} (same : middle.tree = machine.tree)
    (ends : Ends
      (if arguments.has "--write" = true then do
        orFail (fun error => .unwritable path error.reason) (Host.writeFile path document)
        emit arguments report
      else emit arguments report) middle outcome after) :
    Breaks arguments machine.tree path document outcome after ∨
      Goes arguments machine.tree path document report outcome after := by
  split at ends
  · next write =>
    rcases ends_bind ends with ⟨failure, rfl, failed⟩ | ⟨_, later, written, emits⟩
    · rcases ends_write failed with ⟨error, reason, cut⟩ | ⟨succeeded, -⟩
      · cases reason
        exact .inl ⟨write, ⟨_, rfl, rfl⟩, same ▸ cut⟩
      · cases succeeded
    · rcases ends_write written with ⟨error, failed, -⟩ | ⟨-, put⟩
      · cases failed
      · rw [same] at put
        exact .inr ⟨later, by rwa [if_pos write], emits⟩
  · next write => exact .inr ⟨middle, by rwa [if_neg write], ends⟩

/-- **What a command does to its file**: it fails before anything is written, or it does its work, and
then fails when it writes the file or goes on to the report. -/
theorem change_cases (file : arguments.value? "--file" = some path) (settled : Settled steps)
    (ends : Ends (change around arguments steps) machine outcome after) :
    Spares machine.tree outcome after ∨ ∃ text document performed report,
      Worked steps arguments machine.tree path text document performed report ∧
        (Breaks arguments machine.tree path document outcome after ∨
          Goes arguments machine.tree path document report outcome after) := by
  unfold change at ends
  rw [needed, file, pure_bind] at ends
  rcases settled.prepares.cases ends with spares | ⟨list, m₁, same₁, asked, rest₁⟩
  · exact .inl spares
  rcases (prepares_readFile path).cases rest₁ with spares | ⟨text, m₂, same₂, read, rest₂⟩
  · exact .inl (same₁ ▸ spares)
  rw [same₁] at same₂
  rcases (prepares_newSession around).cases rest₂ with spares | ⟨session, m₃, same₃, -, rest₃⟩
  · exact .inl (same₂ ▸ spares)
  rw [same₂] at same₃
  rcases (prepares_verified around _).cases rest₃ with
    spares | ⟨⟨initial, loaded⟩, m₄, same₄, load, rest₄⟩
  · exact .inl (same₃ ▸ spares)
  rw [same₃] at same₄
  rcases (prepares_verified around _).cases rest₄ with
    spares | ⟨⟨reports, final⟩, m₅, same₅, run, rest₅⟩
  · exact .inl (same₄ ▸ spares)
  rw [same₄] at same₅
  have content : machine.tree.read path = .ok text := same₁ ▸ read_of_readFile read
  obtain ⟨_, loads⟩ := held_of_verified load
  obtain ⟨rfl, clauses⟩ := Session.document_of_load loads
  obtain ⟨_, runs⟩ := held_of_verified run
  obtain ⟨reported, folds⟩ := folds_of_performAll clauses runs
  have worked : Worked steps arguments machine.tree path loaded.document final.document
      (list.zip reports) (changeReport path (arguments.has "--write") initial reports final.panel) := by
    refine ⟨content, ?_, folds, initial, final.panel, ?_⟩
    · rw [List.map_fst_zip (Nat.le_of_eq reported.symm)]
      exact settled.eq_pure asked
    · rw [List.map_snd_zip (Nat.le_of_eq reported)]
  exact .inr ⟨_, _, _, _, worked, writing_cases same₅ rest₅⟩

/-- **What a command leaves behind** that changes a file. Without the flag for it the file keeps its
content. A failure before the file is written leaves all files as they were, and one while it is written
may leave it cut. Otherwise the file holds the document made by the steps that report success, also when
the report fails. -/
structure Leaves (steps : Step (List Session.Step)) (arguments : Arguments) (tree : Tree)
    (path : Text) (outcome : Except Failure Text) (after : Machine) : Prop where
  unwritten : arguments.has "--write" = false → after.tree.read path = tree.read path
  prepared : ∀ failure, outcome = .error failure → failure.phase = .preparation → after.tree = tree
  broken : ∀ failure, outcome = .error failure → failure.phase = .file →
    arguments.has "--write" = true ∧ ∃ text document performed report,
      Worked steps arguments tree path text document performed report ∧
        Cut tree path document after.tree
  written : arguments.has "--write" = true →
    (∀ failure, outcome = .error failure → failure.phase = .report) →
      ∃ text document performed report,
        Worked steps arguments tree path text document performed report ∧
          ((performed.filter fun entry => reportsOk entry.2).foldlM
            (fun document entry => entry.1.applied? document) text) = some document ∧
          after.tree.read path = .ok document ∧
          ∀ output, outcome = .ok output → Reported arguments report output after

theorem leaves_of_spares (spares : Spares machine.tree outcome after) :
    Leaves steps arguments machine.tree path outcome after := by
  obtain ⟨same, failure, rfl, early⟩ := spares
  refine ⟨fun _ => by rw [same], fun _ _ _ => same, fun other failed phase => ?_, fun _ about => ?_⟩
  · cases failed
    rw [early] at phase
    cases phase
  · rw [about failure rfl] at early
    cases early

/-- No failure but one of the report is left when the work is done and the file written. -/
theorem leaves_of_reported
    (about : ∀ failure, outcome = .error failure → failure.phase = .report)
    (unwritten : arguments.has "--write" = false → after.tree.read path = machine.tree.read path)
    (written : arguments.has "--write" = true → ∃ text document performed report,
      Worked steps arguments machine.tree path text document performed report ∧
        after.tree.read path = .ok document ∧
          ∀ output, outcome = .ok output → Reported arguments report output after) :
    Leaves steps arguments machine.tree path outcome after := by
  refine ⟨unwritten, fun failure failed early => ?_, fun failure failed phase => ?_, fun wanted _ => ?_⟩
  · rw [about failure failed] at early
    cases early
  · rw [about failure failed] at phase
    cases phase
  · obtain ⟨text, document, performed, report, worked, holds, reported⟩ := written wanted
    exact ⟨text, document, performed, report, worked, worked.folds.foldlM_eq, holds, reported⟩

section Done

variable {text document : Text} {performed : List (Session.Step × Json)}
  (worked : Worked steps arguments machine.tree path text document performed report)

include worked

theorem leaves_of_breaks (breaks : Breaks arguments machine.tree path document outcome after) :
    Leaves steps arguments machine.tree path outcome after := by
  obtain ⟨wanted, ⟨failure, rfl, phase⟩, cut⟩ := breaks
  refine ⟨fun unwanted => ?_, fun other failed early => ?_, fun _ _ _ => ?_, fun _ about => ?_⟩
  · rw [wanted] at unwanted
    cases unwanted
  · cases failed
    rw [phase] at early
    cases early
  · exact ⟨wanted, text, document, performed, report, worked, cut⟩
  · rw [about failure rfl] at phase
    cases phase

/-- The work is done, and what is left to do is the report. -/
theorem leaves_of_goes
    (apart : ∀ out, arguments.value? "--output-json" = some out →
      machine.tree.destination out ≠ machine.tree.destination path)
    (goes : Goes arguments machine.tree path document report outcome after) :
    Leaves steps arguments machine.tree path outcome after := by
  obtain ⟨middle, written, ends⟩ := goes
  cases write : arguments.has "--write" with
  | false =>
    rw [write, if_neg Bool.false_ne_true] at written
    obtain ⟨kept, about, -⟩ := emit_cases (written ▸ worked.read) (by rwa [written]) ends
    refine leaves_of_reported about (fun _ => kept.trans worked.read.symm) fun wanted => ?_
    rw [write] at wanted
    cases wanted
  | true =>
    rw [write, if_pos rfl] at written
    obtain ⟨-, put, -⟩ := Tree.exists_put_of_fill written
    have workplace : middle.tree.workplace = machine.tree.workplace := by
      rw [put]
      rfl
    have apart' : ∀ out, arguments.value? "--output-json" = some out →
        middle.tree.destination out ≠ middle.tree.destination path := by
      intro out wanted
      rw [Tree.destination_congr workplace, Tree.destination_congr workplace]
      exact apart out wanted
    obtain ⟨kept, about, reported⟩ := emit_cases (Tree.read_write written) apart' ends
    refine leaves_of_reported about (fun unwanted => ?_) fun _ =>
      ⟨text, document, performed, report, worked, kept, reported⟩
    rw [write] at unwanted
    cases unwanted

end Done

/-- **A command that changes a file**, with whatever arguments and on whatever machine, when the report
does not go to the file itself. -/
theorem change_leaves (environment : Environment) (machine : Machine) {name path : Text}
    {arguments : Arguments} (changes : name ∈ changing)
    (file : arguments.value? "--file" = some path)
    (apart : ∀ out, arguments.value? "--output-json" = some out →
      machine.tree.destination out ≠ machine.tree.destination path) :
    let ended := (run environment (name :: arguments)).run Machine.answer machine
    ∃ outcome, ended.1 = Exit.ofResult outcome ∧
      Leaves (stepsOf name arguments) arguments machine.tree path outcome ended.2 := by
  obtain ⟨outcome, after, ends⟩ := exists_ends (command environment name arguments) machine
  have ended : (run environment (name :: arguments)).run Machine.answer machine =
      (Exit.ofResult outcome, after) := by
    unfold run
    rw [Dialogue.run_bind]
    have ran : (command environment name arguments).run.run Machine.answer machine = (outcome, after) :=
      ends
    rw [List.head?_cons, Option.getD_some, List.tail_cons, ran]
    rfl
  rw [ended]
  refine ⟨outcome, rfl, ?_⟩
  rw [command_of_changing changes] at ends
  rcases (prepares_surroundings environment arguments).cases ends with
    spares | ⟨around, middle, same, -, changed⟩
  · exact leaves_of_spares spares
  have cases := change_cases file (settled_stepsOf name arguments) changed
  rw [same] at cases
  rcases cases with spares | ⟨text, document, performed, report, worked, breaks | goes⟩
  · exact leaves_of_spares spares
  · exact leaves_of_breaks worked breaks
  · exact leaves_of_goes worked apart goes

end Work

/-! ### A command line -/

/-- The tools lie at the root. -/
def atRoot : Environment :=
  .ofList [("TMPDIR", "/tmp"), ("LEAN", "/tool"), ("LAKE", "/tool"), ("HOME", "/home")]

/-- A directory with a file and with another directory in it. The questions about files meet faults. -/
def workshop (faults : List (Option Fault)) : Machine where
  tree :=
    { entries := [(["w".toList], .directory),
        (["w".toList, "T.lean".toList], .file (some "example : True := by\n  sorry\n")),
        (["w".toList, "d".toList], .directory), (["tmp".toList], .directory),
        (["tool".toList], .program)]
      workplace := ["w".toList] }
  script := []
  calls := []
  ids := ["5e551d01", "1257a9ce"]
  faults

/-- The arguments that fill the placeholder of the file, with the report in another file. -/
def fillingTo (out : Text) : Arguments :=
  ["--file".toList, "T.lean".toList, "--clause".toList, "sorry_0".toList, "--text".toList,
    "trivial".toList, "--write".toList, "--output-json".toList, out]

theorem apart_fillingTo {faults : List (Option Fault)} {out : Text}
    (apart : (workshop faults).tree.destination out ≠ (workshop faults).tree.destination "T.lean") :
    ∀ other, (fillingTo out).value? "--output-json" = some other →
      (workshop faults).tree.destination other ≠ (workshop faults).tree.destination "T.lean" := by
  intro other wanted
  have same : (fillingTo out).value? "--output-json" = some out := rfl
  rw [same] at wanted
  cases wanted
  exact apart

/-- The medium is full behind ten bytes. -/
def full : Fault := .cut 10 (.other ⟨"No space left on device (os error 28)".toList, by decide⟩)

/-- What is left behind when the placeholder is filled and the report wanted below a new directory. -/
def filled (faults : List (Option Fault)) : Exit × Machine :=
  (run atRoot ("edit".toList :: fillingTo "new/report.json")).run Machine.answer (workshop faults)

/-- The placeholder is filled, and the report is written below a new directory. On a medium that is full
by the time of the first write, the file is cut. -/
theorem change_leaves_filled :
    ((filled []).1.code = 0 ∧
      ((filled []).2.tree.read "T.lean").toOption = some ("example : True := by\n  trivial\n" : Text) ∧
      ∃ outcome, (filled []).1 = Exit.ofResult outcome ∧
        Leaves (stepsOf "edit" (fillingTo "new/report.json")) (fillingTo "new/report.json")
          (workshop []).tree "T.lean" outcome (filled []).2) ∧
    let faults := [none, none, none, none, some full]
    (filled faults).1.stderr =
        "Error: \"failed to write T.lean: No space left on device (os error 28)\"\n".toList ∧
      ((filled faults).2.tree.read "T.lean").toOption = some ("example : " : Text) ∧
      ∃ outcome, (filled faults).1 = Exit.ofResult outcome ∧
        Leaves (stepsOf "edit" (fillingTo "new/report.json")) (fillingTo "new/report.json")
          (workshop faults).tree "T.lean" outcome (filled faults).2 :=
  ⟨⟨by decide +kernel, by decide +kernel,
      change_leaves atRoot (workshop []) (by decide) rfl (apart_fillingTo (by decide))⟩,
    by decide +kernel, by decide +kernel,
    change_leaves atRoot (workshop _) (by decide) rfl (apart_fillingTo (by decide))⟩

/-- **A failure may come after the file was written**: where a directory lies in the place of the report,
the command fails, and the file has been changed all the same. -/
theorem changed_by_failure :
    ¬ ∀ (environment : Environment) (machine : Machine) (name path : Text) (arguments : Arguments),
      name ∈ changing → arguments.value? "--file" = some path →
        (∀ out, arguments.value? "--output-json" = some out →
          machine.tree.destination out ≠ machine.tree.destination path) →
          let ended := (run environment (name :: arguments)).run Machine.answer machine
          ended.1.code ≠ 0 → ended.2.tree.read path = machine.tree.read path := by
  intro keeps
  have same := keeps atRoot (workshop []) "edit" "T.lean" (fillingTo "d") (by decide) rfl
    (apart_fillingTo (by decide)) (by decide +kernel)
  have changed : ¬ (((run atRoot ("edit".toList :: fillingTo "d")).run Machine.answer
      (workshop [])).2.tree.read "T.lean").toOption =
        ((workshop []).tree.read "T.lean").toOption := by decide +kernel
  exact changed (congrArg Except.toOption same)

end CommandLine
end ProofDesk
