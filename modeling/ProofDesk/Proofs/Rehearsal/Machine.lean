import ProofDesk.Host.Directories
import ProofDesk.Proofs.Project.Tools
import ProofDesk.Proofs.Rehearsal.Tree
import ProofDesk.Rehearsal.Machine
import ProofDesk.Settings.Basic
import ProofDesk.Settings.Dotenv

/-!
# What a machine keeps

Most of what a program asks leaves the files of a machine as they are, whatever faults it meets. So does
the check of a text, as its temporary file gets a path of its own and is gone afterwards.

* `answer_cases` — a question is carried out, or a fault strikes it.
* `write_cases` and `makeTemporary_cases` — what becomes of a file that is written.
* `Keeps` — a dialogue keeps a property of the files, whatever machine it is held with.
* `Idle` — a dialogue leaves all files as they are.
* `idle_withTemporary` — work with a temporary file leaves no trace.
* `idle_verify` — the verification of a text changes no file.
-/

namespace ProofDesk
namespace Rehearsal

open Dialogue (Only)

variable {α β : Type} {kept : Tree → Prop} {machine after : Machine}
  {directory content text path : Text} {environment : Environment}

/-! ### Questions and faults -/

/-- **A question** is carried out, or a fault strikes it; either way by a machine with the same files. -/
theorem answer_cases (query : Host.Query) (machine : Machine) : ∃ met : Machine,
    met.tree = machine.tree ∧ (Machine.answer query machine = met.carryOut query ∨
      ∃ fault, Machine.answer query machine = met.refuse fault query) := by
  unfold Machine.answer
  split
  · refine ⟨{ machine with faults := machine.faults.tail }, rfl, ?_⟩
    dsimp only
    split
    · exact .inr ⟨_, rfl⟩
    · exact .inl rfl
  · exact ⟨machine, rfl, .inl rfl⟩

/-- What is read is the content of the file. -/
theorem read_of_answer (asked : Machine.answer (.read path) machine = (.ok text, after)) :
    machine.tree.read path = .ok text := by
  obtain ⟨met, same, carried | ⟨fault, struck⟩⟩ := answer_cases (.read path) machine
  · rw [carried] at asked
    exact same ▸ congrArg Prod.fst asked
  · rw [struck] at asked
    cases asked

/-- **A write** leaves all files alone, cuts the file, or gives it the content. -/
theorem write_cases {result : Except WriteError Unit}
    (asked : Machine.answer (.write path content) machine = (result, after)) :
    (∃ error, result = .error (.unopened error) ∧ after.tree = machine.tree) ∨
      (∃ error bytes, result = .error (.unfinished error) ∧
        machine.tree.fill path (Machine.front? bytes content) = .ok after.tree) ∨
      result = .ok () ∧ machine.tree.write path content = .ok after.tree := by
  obtain ⟨met, same, carried | ⟨fault, struck⟩⟩ := answer_cases (.write path content) machine
  · rw [carried] at asked
    change met.write path content = _ at asked
    unfold Machine.write at asked
    split at asked
    · next written =>
      cases asked
      exact .inr (.inr ⟨rfl, same ▸ written⟩)
    · cases asked
      exact .inl ⟨_, rfl, same⟩
  · rw [struck] at asked
    cases fault with
    | refused error =>
      cases asked
      exact .inl ⟨_, rfl, same⟩
    | cut bytes error =>
      change met.cutWrite bytes error path content = _ at asked
      unfold Machine.cutWrite at asked
      split at asked
      · next filled =>
        cases asked
        exact .inr (.inl ⟨_, bytes, rfl, same ▸ filled⟩)
      · cases asked
        exact .inl ⟨_, rfl, same⟩

/-! ### Dialogues held with a machine -/

/-- **The dialogue keeps a property of the files**, whatever machine it is held with. -/
def Keeps (kept : Tree → Prop) (dialogue : Hosted α) : Prop :=
  ∀ machine : Machine, kept machine.tree → kept (dialogue.run Machine.answer machine).2.tree

/-- **The dialogue leaves all files as they are.** -/
def Idle (dialogue : Hosted α) : Prop :=
  ∀ machine : Machine, (dialogue.run Machine.answer machine).2.tree = machine.tree

theorem Idle.keeps {dialogue : Hosted α} (idle : Idle dialogue) (kept : Tree → Prop) :
    Keeps kept dialogue := by
  intro machine holds
  rw [idle machine]
  exact holds

theorem keeps_done (value : α) : Keeps kept (.done value) := fun _ holds => holds

theorem idle_done (value : α) : Idle (.done value) := fun _ => rfl

theorem Keeps.bind {dialogue : Hosted α} {f : α → Hosted β} (first : Keeps kept dialogue)
    (second : ∀ value, Keeps kept (f value)) : Keeps kept (dialogue >>= f) := by
  intro machine holds
  rw [Dialogue.run_bind]
  exact second _ _ (first machine holds)

theorem Idle.bind {dialogue : Hosted α} {f : α → Hosted β} (first : Idle dialogue)
    (second : ∀ value, Idle (f value)) : Idle (dialogue >>= f) := by
  intro machine
  rw [Dialogue.run_bind, second _ _, first machine]

/-- **Every question is answered by a dialogue that changes no file.** -/
theorem idle_relay {Q : Type} {A : Q → Type} {inquire : (q : Q) → Hosted (A q)}
    (idle : ∀ q, Idle (inquire q)) (dialogue : Dialogue Q A α) : Idle (dialogue.relay inquire) := by
  induction dialogue with
  | done value => exact idle_done value
  | ask q next ih => exact (idle q).bind ih

/-! ### Questions that change nothing -/

/-- The question does not change files. -/
def Changeless : Host.Query → Prop
  | .write _ _ | .makeDirectory _ | .makeTemporary _ _ | .removeTemporary _ => False
  | _ => True

theorem tree_run (command : Host.Command) (machine : Machine) :
    (machine.run command).2.tree = machine.tree := by
  unfold Machine.run
  extract_lets tree
  split
  · rfl
  · split
    · rfl
    · rfl
    · split
      · rfl
      · rfl

theorem tree_carryOut {query : Host.Query} (changeless : Changeless query) (machine : Machine) :
    (machine.carryOut query).2.tree = machine.tree := by
  cases query with
  | write path content => exact absurd changeless id
  | makeDirectory path => exact absurd changeless id
  | makeTemporary directory content => exact absurd changeless id
  | removeTemporary path => exact absurd changeless id
  | run command limit => exact tree_run command machine
  | _ => rfl

theorem tree_refuse {query : Host.Query} (changeless : Changeless query) (fault : Fault)
    (machine : Machine) : (machine.refuse fault query).2.tree = machine.tree := by
  cases query with
  | write path content => exact absurd changeless id
  | makeDirectory path => exact absurd changeless id
  | makeTemporary directory content => exact absurd changeless id
  | removeTemporary path => exact absurd changeless id
  | run command limit => exact tree_run command machine
  | _ => rfl

theorem tree_answer {query : Host.Query} (changeless : Changeless query) (machine : Machine) :
    (Machine.answer query machine).2.tree = machine.tree := by
  obtain ⟨met, same, carried | ⟨fault, struck⟩⟩ := answer_cases query machine
  · rw [carried, tree_carryOut changeless, same]
  · rw [struck, tree_refuse changeless, same]

theorem idle_of_only {dialogue : Hosted α} (only : Only Changeless dialogue) : Idle dialogue := by
  induction only with
  | done value => exact idle_done value
  | ask here _ ih =>
    intro machine
    rw [← tree_answer here machine]
    exact ih _ _

theorem idle_question (query : Host.Query) (changeless : Changeless query) :
    Idle (Dialogue.question query) :=
  idle_of_only (.ask changeless fun _ => .done _)

theorem idle_of_looks {dialogue : Hosted α} (only : Only Project.Looks dialogue) : Idle dialogue := by
  induction only with
  | done value => exact idle_done value
  | @ask query next here _ ih =>
    have changeless : Changeless query := by
      cases query with
      | resolve path => trivial
      | present path => trivial
      | homeDirectory => trivial
      | _ => exact absurd here id
    exact (idle_question query changeless).bind ih

/-! ### Temporary files -/

/-- **A temporary file** is put at a free place, to which its path leads, or all files are as they were. -/
theorem makeTemporary_cases {result : Except WriteError Text}
    (asked : Machine.answer (.makeTemporary directory content) machine = (result, after)) :
    (∃ error, result = .error error ∧ after.tree = machine.tree) ∨
      ∃ path place, result = .ok path ∧ machine.tree.entry? place = none ∧
        after.tree = machine.tree.put place (.file (some content)) ∧
          after.tree.walk path = .ok place := by
  obtain ⟨met, same, carried | ⟨fault, struck⟩⟩ := answer_cases (.makeTemporary directory content) machine
  · rw [carried] at asked
    change met.makeTemporary directory content = _ at asked
    unfold Machine.makeTemporary at asked
    rw [← same]
    split at asked
    · cases asked
      exact .inl ⟨_, rfl, rfl⟩
    · next candidate found =>
      split at asked
      · next tree written =>
        cases asked
        have nowhere : (met.tree.walk candidate).isOk = false := by
          simpa using List.find?_some found
        obtain ⟨-, put, leads⟩ := Tree.exists_put_of_fill written
        exact .inr ⟨_, _, rfl, Tree.free_of_fill nowhere written, put, leads⟩
      · cases asked
        exact .inl ⟨_, rfl, rfl⟩
  · rw [struck] at asked
    cases fault with
    | refused error | cut bytes error =>
      cases asked
      exact .inl ⟨_, rfl, same⟩

/-- **Work with a temporary file** leaves no trace. -/
theorem idle_withTemporary {work : Text → Hosted Project.CheckRun} (idle : ∀ path, Idle (work path))
    (environment : Environment) (text : Text) :
    Idle (Project.withTemporary environment text work) := by
  intro machine
  obtain ⟨answer, after, made⟩ : ∃ answer after,
      Machine.answer (.makeTemporary (Project.temporaryDirectory environment) text) machine =
        (answer, after) := ⟨_, _, rfl⟩
  unfold Project.withTemporary
  rw [Dialogue.run_bind]
  have asked : (Host.makeTemporary (Project.temporaryDirectory environment) text).run Machine.answer
      machine = (answer, after) := made
  rw [asked]
  rcases makeTemporary_cases made with ⟨error, rfl, same⟩ | ⟨path, place, rfl, free, put, leads⟩
  · exact same
  · dsimp only
    rw [Dialogue.run_bind]
    have worked := idle path after
    generalize (work path).run Machine.answer after = outcome at worked ⊢
    show (outcome.2.removeFile path).tree = machine.tree
    unfold Machine.removeFile
    rw [worked, leads, put]
    exact Tree.remove_put free _

/-! ### Checks -/

theorem idle_runCommand (limit : Nat) (command : Host.Command) :
    Idle (Project.runCommand limit command) :=
  (idle_question (.run command limit) trivial).bind fun _ => idle_done _

theorem idle_build (lake root : Text) (limit : Nat) : Idle (Project.build lake root limit) :=
  (idle_runCommand limit _).bind fun _ => idle_done _

theorem idle_checkTwice (lake root : Text) (limit : Nat) (autoBuild : Bool) (command : Host.Command) :
    Idle (Project.checkTwice lake root limit autoBuild command) := by
  refine (idle_runCommand limit command).bind fun first => ?_
  split
  · refine (idle_build lake root limit).bind fun built => ?_
    cases built with
    | some failure => exact idle_done failure
    | none => exact idle_runCommand limit command
  · exact idle_done first

theorem idle_buildFirst (lake root : Text) (limit : Nat) (autoBuild : Bool) :
    Idle (Project.buildFirst lake root limit autoBuild) := by
  unfold Project.buildFirst
  split
  · refine (idle_question (.present _) trivial).bind fun (present : Bool) => ?_
    split
    · exact idle_done _
    · exact idle_build lake root limit
  · exact idle_done _

theorem idle_checkInside (environment : Environment) (place text : Text) (limit : Nat)
    (autoBuild : Bool) : Idle (Project.checkInside environment place text limit autoBuild) := by
  refine (idle_of_looks (Project.only_findRoot place)).bind fun found => ?_
  cases found with
  | error error => exact idle_done _
  | ok root =>
    refine (idle_of_looks (Project.only_tool ..)).bind fun lake => ?_
    refine (idle_buildFirst lake root limit autoBuild).bind fun built => ?_
    cases built with
    | some failure => exact idle_done _
    | none => exact idle_withTemporary (fun path => idle_checkTwice lake root limit autoBuild _) environment text

theorem idle_checkAlone (environment : Environment) (text : Text) (limit : Nat) :
    Idle (Project.checkAlone environment text limit) :=
  (idle_of_looks (Project.only_tool ..)).bind fun _ =>
    idle_withTemporary (fun _ => idle_runCommand limit _) environment text

/-- **The verification of a text** changes no file. -/
theorem idle_verify (checker : Project.Checker) (environment : Environment) (text : Text) :
    Idle (checker.verify environment text) := by
  refine Idle.bind ?_ fun _ => idle_done _
  unfold Project.Checker.check
  split
  · exact idle_checkInside environment _ text checker.limit checker.autoBuild
  · exact idle_checkAlone environment text checker.limit

/-! ### Settings -/

theorem idle_loadDotenv (directory : Text) (environment : Environment) :
    Idle (Dotenv.load directory environment) := by
  refine (idle_question (.read _) trivial).bind fun (found : Except FileError Text) => ?_
  cases found with
  | ok content => exact idle_done _
  | error error => exact idle_done _

theorem idle_ofFile (environment : Environment) (path : Text) :
    Idle (Settings.ofFile environment path) := by
  refine (idle_question (.read path) trivial).bind fun (found : Except FileError Text) => ?_
  cases found with
  | error error => exact idle_done _
  | ok content =>
    dsimp only
    split
    · exact idle_done _
    · exact idle_done _

/-! ### Directories -/

section Directories

variable (closed : ∀ {tree : Tree} {place : List Text}, kept tree → tree.entry? place = none →
  kept (tree.put place .directory))

include closed

theorem keeps_makeDirectory (path : Text) : Keeps kept (Host.makeDirectory path) := by
  intro machine holds
  show kept (Machine.answer (.makeDirectory path) machine).2.tree
  obtain ⟨met, same, carried | ⟨fault, struck⟩⟩ := answer_cases (.makeDirectory path) machine
  · rw [carried]
    show kept (met.change (met.tree.makeDirectory path)).2.tree
    rw [← same] at holds
    unfold Machine.change
    split
    · next tree made =>
      obtain ⟨place, free, rfl⟩ := Tree.exists_put_of_makeDirectory made
      exact closed holds free
    · exact holds
  · rw [struck]
    exact same ▸ holds

theorem keeps_ensureDirectory (path : Text) : Keeps kept (Host.ensureDirectory path) := by
  refine (keeps_makeDirectory closed path).bind fun (made : Except FileError Unit) => ?_
  split
  · exact keeps_done _
  · exact keeps_done _
  · refine ((idle_question (.isDirectory path) trivial).keeps kept).bind fun (there : Bool) => ?_
    cases there with
    | true => exact keeps_done _
    | false => exact keeps_done _

/-- **Directories are made** one by one, each at a free place. -/
theorem keeps_makeDirectories (path : Text) : Keeps kept (Host.makeDirectories path) := by
  unfold Host.makeDirectories
  generalize path.length + 1 = most
  induction most generalizing path with
  | zero => exact keeps_done _
  | succ most ih =>
    unfold Host.makeDirectoriesFrom
    split
    · exact keeps_done _
    · refine (keeps_ensureDirectory closed path).bind fun made => ?_
      split
      · exact keeps_done _
      · split
        · exact keeps_done _
        · refine (ih _).bind fun above => ?_
          cases above with
          | ok _ => exact keeps_ensureDirectory closed path
          | error error => exact keeps_done _
      · exact keeps_done _

end Directories

end Rehearsal
end ProofDesk
