import ProofDesk.CommandLine.Run
import ProofDesk.Proofs.Session.Reached

/-!
# Steps of a command

A command performs steps on a document and reports on each of them. A step that reports success has
made a new document of the one before, and a refused one has left it alone.

* `Session.Step.applied?` — what a step makes of a document, told without a session.
* `Session.applied_of_perform` — a session does with its document what the step makes of it.
* `CommandLine.Folds` — the steps that report success, applied one after the other.
* `CommandLine.folds_of_performAll` — a run of steps ends with the document that they make.
-/

namespace ProofDesk

open Dialogue (Exchange Held)

namespace Session

variable {session after : Session} {document updated id new : Text} {lines : List Text}
  {said : List (Exchange Text fun _ => Verification)} {step : Step} {answer : Answer} {target : Clause}

/-! ### What a step makes of a document -/

/-- A session that only has a document. -/
def holding (document : Text) : Session := { fresh ⟨[], []⟩ false with document }

/-- **What a step makes of a document**; nothing when it is refused. -/
def Step.applied? : Step → Text → Option Text
  | .load document, _ => some document
  | .edit id new, document => do
    let clause ← (Clause.scan document).find? fun clause => clause.id = id
    (clause.splice document new).toOption
  | .addOutline lines, document => do
    let target ← (Clause.scan document).find? fun clause =>
      clause.category = .mainProof ∨ clause.category = .placeholder
    (target.splice document ((holding document).outlineText target lines)).toOption
  | _, document => some document

theorem applied?_edit (id new document : Text) : Step.applied? (.edit id new) document =
    ((Clause.scan document).find? fun clause => clause.id = id).bind fun clause =>
      (clause.splice document new).toOption := rfl

theorem applied?_addOutline (lines : List Text) (document : Text) :
    Step.applied? (.addOutline lines) document =
      ((Clause.scan document).find? fun clause =>
        clause.category = .mainProof ∨ clause.category = .placeholder).bind fun target =>
          (target.splice document ((holding document).outlineText target lines)).toOption := rfl

theorem outlineText_holding (session : Session) (target : Clause) (lines : List Text) :
    session.outlineText target lines = (holding session.document).outlineText target lines := rfl

/-- The id of a clause finds the clause. -/
theorem find?_id (member : target ∈ Clause.scan document) :
    ((Clause.scan document).find? fun clause => clause.id = target.id) = some target := by
  cases found : (Clause.scan document).find? fun clause => clause.id = target.id with
  | none => simpa using List.find?_eq_none.1 found target member
  | some first =>
    have same : first.id = target.id := by simpa using List.find?_some found
    rw [List.inj_on_of_nodup_map (Clause.nodup_ids_scan document) (List.mem_of_find?_eq_some found)
      member same]

/-! ### Sessions -/

theorem document_of_load {compilation : CompileResult}
    (held : Held (session.load document) said (compilation, after)) :
    after.document = document ∧ after.clauses = Clause.scan document := by
  cases held with
  | ask report rest =>
    cases rest
    exact ⟨rfl, rfl⟩

/-- What is planned for an edit is what the edit makes of the document. -/
theorem planEdit_eq (scanned : session.clauses = Clause.scan session.document) (id new : Text) :
    (session.planEdit id new).toOption.map Prod.snd = Step.applied? (.edit id new) session.document := by
  rw [applied?_edit, planEdit, clause?, scanned]
  cases (Clause.scan session.document).find? fun clause => clause.id = id with
  | none => rfl
  | some clause =>
    rw [Option.bind_some]
    dsimp only
    cases clause.splice session.document new with
    | error error => rfl
    | ok updated => rfl

/-- **An edit** is refused and leaves the session as it was, or makes of the document what it makes of
any document. -/
theorem applied_of_edit (scanned : session.clauses = Clause.scan session.document)
    {result : Except EditError EditResult}
    (held : Held (session.edit id new) said (result, after)) :
    (∃ error, result = .error error ∧ after = session ∧
      Step.applied? (.edit id new) session.document = none) ∨
    ∃ edited, result = .ok edited ∧ after.clauses = Clause.scan after.document ∧
      Step.applied? (.edit id new) session.document = some after.document := by
  have planned := planEdit_eq scanned id new
  unfold edit at held
  split at held
  · next refusal refused =>
    rw [refused] at planned
    cases held
    exact .inl ⟨refusal, rfl, rfl, planned.symm⟩
  · next clause document accepted =>
    rw [accepted] at planned
    obtain ⟨before, behind, ⟨compilation, loaded⟩, rfl, ran, ended⟩ := Dialogue.held_bind.1 held
    cases ended
    obtain ⟨rfl, clauses⟩ := document_of_load ran
    exact .inr ⟨_, rfl, clauses, planned.symm⟩

/-- **An outline** is an edit of the clause that it replaces. -/
theorem applied_of_addOutline (scanned : session.clauses = Clause.scan session.document)
    {result : Except EditError EditResult}
    (held : Held (session.addOutline lines) said (result, after)) :
    (∃ error, result = .error error ∧ after = session ∧
      Step.applied? (.addOutline lines) session.document = none) ∨
    ∃ edited, result = .ok edited ∧ after.clauses = Clause.scan after.document ∧
      Step.applied? (.addOutline lines) session.document = some after.document := by
  unfold addOutline outlineTarget? at held
  rw [scanned] at held
  rw [applied?_addOutline]
  cases found : (Clause.scan session.document).find? fun clause =>
      clause.category = .mainProof ∨ clause.category = .placeholder with
  | none =>
    rw [found] at held
    cases held
    exact .inl ⟨_, rfl, rfl, rfl⟩
  | some target =>
    rw [found] at held
    have same := applied?_edit target.id (session.outlineText target lines) session.document
    rw [find?_id (List.mem_of_find?_eq_some found), Option.bind_some] at same
    rw [Option.bind_some, ← outlineText_holding, ← same]
    exact applied_of_edit scanned held

/-- **One step** is refused and leaves the session as it was, or makes of the document what the step
makes of it. -/
theorem applied_of_perform (scanned : session.clauses = Clause.scan session.document)
    (held : Held (session.perform step) said (answer, after)) :
    (∃ error, answer = .refused error ∧ after = session ∧ step.applied? session.document = none) ∨
    (∀ error, answer ≠ .refused error) ∧ after.clauses = Clause.scan after.document ∧
      step.applied? session.document = some after.document := by
  cases step with
  | load document =>
    obtain ⟨before, behind, ⟨compilation, loaded⟩, rfl, ran, ended⟩ := Dialogue.held_bind.1 held
    cases ended
    obtain ⟨rfl, clauses⟩ := document_of_load ran
    exact .inr ⟨nofun, clauses, rfl⟩
  | edit id new =>
    obtain ⟨before, behind, ⟨result, edited⟩, rfl, ran, ended⟩ := Dialogue.held_bind.1 held
    cases ended
    rcases applied_of_edit scanned ran with ⟨error, rfl, rfl, none⟩ | ⟨edited, rfl, clauses, some⟩
    · exact .inl ⟨error, rfl, rfl, none⟩
    · exact .inr ⟨nofun, clauses, some⟩
  | addOutline lines =>
    obtain ⟨before, behind, ⟨result, edited⟩, rfl, ran, ended⟩ := Dialogue.held_bind.1 held
    cases ended
    rcases applied_of_addOutline scanned ran with ⟨error, rfl, rfl, none⟩ | ⟨edited, rfl, clauses, some⟩
    · exact .inl ⟨error, rfl, rfl, none⟩
    · exact .inr ⟨nofun, clauses, some⟩
  | _ =>
    cases held
    exact .inr ⟨nofun, scanned, rfl⟩

end Session

namespace CommandLine

variable {document last : Text} {steps : List Session.Step} {reports : List Json}
  {performed : List (Session.Step × Json)} {session after : Session}
  {said : List (Exchange Text fun _ => Verification)}

/-! ### Reports on steps -/

/-- The report says that the step succeeded. -/
def reportsOk (report : Json) : Bool := (report.field? "ok").bind Json.bool? = some true

/-- **The report on a step** says that it succeeded unless the step was refused. -/
theorem reportsOk_stepReport (step : Session.Step) (answer : Session.Answer) :
    reportsOk (stepReport step answer) = true ↔ ∀ error, answer ≠ .refused error := by
  cases answer with
  | refused error => exact iff_of_false (show ¬ false = true by decide) fun accepted => accepted error rfl
  | _ => exact iff_of_true rfl nofun

/-- **The steps that report success, applied one after the other.** A step that reports anything else
cannot be applied. -/
inductive Folds : Text → List (Session.Step × Json) → Text → Prop
  | done (document : Text) : Folds document [] document
  | applied {document next last : Text} {step : Session.Step} {report : Json}
      {rest : List (Session.Step × Json)} (ok : reportsOk report = true)
      (makes : step.applied? document = some next) (later : Folds next rest last) :
      Folds document ((step, report) :: rest) last
  | refused {document last : Text} {step : Session.Step} {report : Json}
      {rest : List (Session.Step × Json)} (failed : reportsOk report = false)
      (makes : step.applied? document = none) (later : Folds document rest last) :
      Folds document ((step, report) :: rest) last

/-- The refused steps may be left out. -/
theorem Folds.foldlM_eq (folds : Folds document performed last) :
    ((performed.filter fun entry => reportsOk entry.2).foldlM
      (fun document entry => entry.1.applied? document) document) = some last := by
  induction folds with
  | done document => rfl
  | applied ok makes _ ih =>
    rw [List.filter_cons, if_pos ok, List.foldlM_cons, makes]
    exact ih
  | refused failed makes _ ih =>
    rw [List.filter_cons, if_neg (by simp [failed])]
    exact ih

/-- **A run of steps** reports on each of them, and ends with the document that those make which report
success. -/
theorem folds_of_performAll (scanned : session.clauses = Clause.scan session.document)
    (held : Held (performAll session steps) said (reports, after)) :
    reports.length = steps.length ∧ Folds session.document (steps.zip reports) after.document := by
  induction steps generalizing session said reports with
  | nil =>
    cases held
    exact ⟨rfl, .done _⟩
  | cons step steps ih =>
    obtain ⟨before, behind, ⟨answer, middle⟩, rfl, now, held⟩ := Dialogue.held_bind.1 held
    obtain ⟨before', behind', ⟨rest, final⟩, rfl, later, ended⟩ := Dialogue.held_bind.1 held
    cases ended
    rcases Session.applied_of_perform scanned now with ⟨error, rfl, rfl, none⟩ | ⟨accepted, clauses, some⟩
    · obtain ⟨length, folds⟩ := ih scanned later
      exact ⟨congrArg (· + 1) length, .refused rfl none folds⟩
    · obtain ⟨length, folds⟩ := ih clauses later
      exact ⟨congrArg (· + 1) length, .applied ((reportsOk_stepReport ..).2 accepted) some folds⟩

end CommandLine
end ProofDesk
