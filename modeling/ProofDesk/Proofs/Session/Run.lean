import ProofDesk.Session.Step
import ProofDesk.Proofs.Clause.Splice
import ProofDesk.Proofs.Dialogue

/-!
# Runs of a session

A run performs one step after another, the verifier answering as it likes. Each step either looks at
the session or has one document verified, so one case split serves every invariant.

* `perform_cases` — what a step can do.
* `Editable` — which edits and outlines a session accepts, and what a refusal is.
* `Consistent` — what a session knows agrees with what was said and answered so far.
* `consistent_performAll` — consistency is kept by a run of any length.
* `run_consistent` — both hold after every run of a fresh session.
-/

namespace ProofDesk
namespace Session

open Dialogue (Respondent Exchange)

/-! ### Runs -/

/-- The steps performed one after the other, with their answers. -/
def performAll (session : Session) : List Step → Verified (List Answer × Session)
  | [] => return ([], session)
  | step :: rest => do
    let (answer, session) ← session.perform step
    let (answers, session) ← session.performAll rest
    return (answer :: answers, session)

/-- The verification that an answer tells about. -/
def Answer.compilation? : Answer → Option CompileResult
  | .compiled result => some result
  | .edited result => some result.compilation
  | _ => none

/-- The step had a document verified: it was a load, or an edit or an outline that succeeded. -/
def Step.verified : Step → Answer → Bool
  | .load _, _ => true
  | .edit _ _, .edited _ => true
  | .addOutline _, .edited _ => true
  | _, _ => false

/-- One verification of a document, and success whatever it reports. -/
def Accepts (session : Session) (edit : Verified (Except EditError EditResult × Session)) : Prop :=
  ∃ document, ∃ result : CompileResult → EditResult,
    (∀ compilation, (result compilation).compilation = compilation) ∧
      edit = do
        let (compilation, after) ← session.load document
        return (.ok (result compilation), after)

/-- **Which edits a session accepts.** A refusal asks nothing and leaves the session as it was. -/
structure Editable (session : Session) : Prop where
  edit_known : ∀ id new, id ∈ session.clauses.map Clause.id →
    Accepts session (session.edit id new)
  edit_unknown : ∀ id new, id ∉ session.clauses.map Clause.id →
    session.edit id new = .done (.error (.clauseNotFound id), session)
  outline_target : ∀ lines, (∃ clause ∈ session.clauses,
      clause.category = .mainProof ∨ clause.category = .placeholder) →
    Accepts session (session.addOutline lines)
  outline_noTarget : ∀ lines, (∀ clause ∈ session.clauses,
      clause.category ≠ .mainProof ∧ clause.category ≠ .placeholder) →
    session.addOutline lines = .done (.error .noEditableTarget, session)

/-- **What a session knows agrees with what happened**: the steps that were performed, their
answers, and what was said to the verifier. -/
structure Consistent (steps : List Step) (answers : List Answer)
    (said : List (Exchange Text fun _ => Verification)) (session : Session) : Prop where
  answered : steps.length = answers.length
  clauses : session.clauses = Clause.scan session.document
  goals : session.goals = deriveGoals session.document session.messages
    (said.getLast?.bind fun exchange => exchange.2.proofState)
  calls : session.compilations = said.length
  counted : session.compilations =
    (steps.zip answers).countP fun (step, answer) => step.verified answer
  messages : 0 < session.compilations → session.messages ≠ []
  results : (answers.filterMap Answer.compilation?).length = session.compilations
  success : ∀ result, (answers.filterMap Answer.compilation?).getLast? = some result →
    (result.success = true ↔ ∀ message ∈ session.messages, message.severity ≠ .error)
  refusals : ∀ clause, Answer.refused (.spanOutOfRange clause) ∉ answers

variable {session : Session}

/-! ### Edits and outlines -/

theorem exists_clause?_of_mem {id : Text} (member : id ∈ session.clauses.map Clause.id) :
    ∃ clause ∈ session.clauses, session.clause? id = some clause := by
  obtain ⟨clause, inside, same⟩ := List.mem_map.1 member
  cases found : session.clause? id with
  | none =>
    have other := List.find?_eq_none.1 found clause inside
    simp [same] at other
  | some first => exact ⟨first, List.mem_of_find?_eq_some found, rfl⟩

theorem edit_known (scanned : session.clauses = Clause.scan session.document) {id : Text}
    (member : id ∈ session.clauses.map Clause.id) (new : Text) :
    Accepts session (session.edit id new) := by
  obtain ⟨clause, inside, found⟩ := exists_clause?_of_mem member
  obtain ⟨updated, spliced⟩ := Clause.exists_splice_of_mem_scan (scanned ▸ inside) new
  refine ⟨updated, fun compilation =>
    ⟨clause.id, clause.category, clause.content, new, compilation, updated⟩, fun _ => rfl, ?_⟩
  unfold edit planEdit
  rw [found]
  dsimp only
  rw [spliced]
  rfl

theorem edit_unknown {id : Text} (unknown : id ∉ session.clauses.map Clause.id) (new : Text) :
    session.edit id new = .done (.error (.clauseNotFound id), session) := by
  have missing : session.clause? id = none := by
    refine List.find?_eq_none.2 fun clause inside same => unknown ?_
    exact List.mem_map.2 ⟨clause, inside, by simpa using same⟩
  unfold edit planEdit
  rw [missing]
  rfl

/-- **A session whose clauses are those of its document** accepts every edit of a clause. -/
theorem editable_of_scanned (scanned : session.clauses = Clause.scan session.document) :
    Editable session where
  edit_known _ new member := edit_known scanned member new
  edit_unknown _ new unknown := edit_unknown unknown new
  outline_target lines := by
    rintro ⟨clause, inside, kind⟩
    unfold addOutline
    cases found : session.outlineTarget? with
    | none => exact absurd kind (by simpa using List.find?_eq_none.1 found clause inside)
    | some target =>
      have member := List.mem_map_of_mem (f := Clause.id) (List.mem_of_find?_eq_some found)
      exact edit_known scanned member _
  outline_noTarget lines := by
    intro other
    have missing : session.outlineTarget? = none := by
      refine List.find?_eq_none.2 fun clause inside kind => ?_
      have := other clause inside
      simp_all
    unfold addOutline
    rw [missing]
    rfl

/-! ### One step -/

/-- The step looks at the session or is refused: nothing is asked, and nothing changes. -/
def Quiet (session : Session) (step : Step) : Prop :=
  ∃ answer, session.perform step = .done (answer, session) ∧ step.verified answer = false ∧
    answer.compilation? = none ∧ ∀ clause, answer ≠ .refused (.spanOutOfRange clause)

/-- The step has one document verified and tells the result. -/
def Verifying (session : Session) (step : Step) : Prop :=
  ∃ document, ∃ answer : CompileResult → Answer,
    (session.perform step = do
      let (compilation, after) ← session.load document
      return (answer compilation, after)) ∧
    ∀ compilation, step.verified (answer compilation) = true ∧
      (answer compilation).compilation? = some compilation

theorem Accepts.verifying {step : Step} {edit : Verified (Except EditError EditResult × Session)}
    (accepts : Accepts session edit)
    (performed : session.perform step = do
      let (result, after) ← edit
      return (Answer.ofEdit result, after))
    (counts : ∀ result, step.verified (.edited result) = true) : Verifying session step := by
  obtain ⟨document, result, told, rfl⟩ := accepts
  refine ⟨document, fun compilation => .edited (result compilation), ?_, fun compilation =>
    ⟨counts _, congrArg some (told compilation)⟩⟩
  rw [performed]
  rfl

theorem quiet_of_refused {step : Step} {edit : Verified (Except EditError EditResult × Session)}
    {error : EditError} (refused : edit = .done (.error error, session))
    (performed : session.perform step = do
      let (result, after) ← edit
      return (Answer.ofEdit result, after))
    (counts : step.verified (.refused error) = false)
    (other : ∀ clause, error ≠ .spanOutOfRange clause) : Quiet session step := by
  refine ⟨.refused error, ?_, counts, rfl, fun clause same => other clause (by cases same; rfl)⟩
  rw [performed, refused]
  rfl

/-- **What a step can do.** -/
theorem perform_cases (editable : Editable session) (step : Step) :
    Quiet session step ∨ Verifying session step := by
  cases step with
  | load document => exact .inr ⟨document, .compiled, rfl, fun _ => ⟨rfl, rfl⟩⟩
  | edit id new =>
    by_cases known : id ∈ session.clauses.map Clause.id
    · exact .inr ((editable.edit_known id new known).verifying rfl fun _ => rfl)
    · exact .inl (quiet_of_refused (editable.edit_unknown id new known) rfl rfl nofun)
  | addOutline lines =>
    by_cases target : ∃ clause ∈ session.clauses,
        clause.category = .mainProof ∨ clause.category = .placeholder
    · exact .inr ((editable.outline_target lines target).verifying rfl fun _ => rfl)
    · have none : ∀ clause ∈ session.clauses,
          clause.category ≠ .mainProof ∧ clause.category ≠ .placeholder :=
        fun clause inside => ⟨fun kind => target ⟨clause, inside, .inl kind⟩,
          fun kind => target ⟨clause, inside, .inr kind⟩⟩
      exact .inl (quiet_of_refused (editable.outline_noTarget lines none) rfl rfl nofun)
  | panel => exact .inl ⟨_, rfl, rfl, rfl, nofun⟩
  | suggestions => exact .inl ⟨_, rfl, rfl, rfl, nofun⟩
  | info => exact .inl ⟨_, rfl, rfl, rfl, nofun⟩
  | clause id => exact .inl ⟨_, rfl, rfl, rfl, nofun⟩
  | goalAt line column => exact .inl ⟨_, rfl, rfl, rfl, nofun⟩
  | messagesAt line column => exact .inl ⟨_, rfl, rfl, rfl, nofun⟩

/-! ### Whole runs -/

section Runs

variable {steps : List Step} {answers : List Answer}
  {said : List (Exchange Text fun _ => Verification)}

theorem consistent_fresh (identity : Identity) (uniqueNames : Bool) :
    Consistent [] [] [] (fresh identity uniqueNames) where
  answered := rfl
  clauses := rfl
  goals := rfl
  calls := rfl
  counted := rfl
  messages := nofun
  results := rfl
  success := nofun
  refusals := nofun

theorem deriveMessages_ne_nil (report : Verification) (source : Text) :
    deriveMessages report source ≠ [] := by
  unfold deriveMessages
  extract_lets messages
  split
  · exact List.append_ne_nil_of_right_ne_nil _ (List.cons_ne_nil _ _)
  · split
    · exact List.cons_ne_nil _ _
    · next some => exact some

theorem Consistent.editable (consistent : Consistent steps answers said session) :
    Editable session :=
  editable_of_scanned consistent.clauses

theorem countP_zip_concat (answered : steps.length = answers.length) (step : Step)
    (answer : Answer) :
    ((steps ++ [step]).zip (answers ++ [answer])).countP (fun (step, answer) => step.verified answer)
      = (steps.zip answers).countP (fun (step, answer) => step.verified answer) +
        (step.verified answer).toNat := by
  rw [List.zip_append answered, List.countP_append]
  cases counts : step.verified answer <;> simp [counts]

/-- A step that asks nothing keeps a session consistent. -/
theorem Consistent.quiet (consistent : Consistent steps answers said session) {step : Step}
    {answer : Answer} (counts : step.verified answer = false)
    (silent : answer.compilation? = none)
    (other : ∀ clause, answer ≠ .refused (.spanOutOfRange clause)) :
    Consistent (steps ++ [step]) (answers ++ [answer]) said session where
  answered := by simp [consistent.answered]
  clauses := consistent.clauses
  goals := consistent.goals
  calls := consistent.calls
  counted := by
    rw [countP_zip_concat consistent.answered, counts, consistent.counted]
    rfl
  messages := consistent.messages
  results := by
    rw [List.filterMap_append, List.filterMap_cons_none silent, List.filterMap_nil, List.append_nil]
    exact consistent.results
  success := by
    rw [List.filterMap_append, List.filterMap_cons_none silent, List.filterMap_nil, List.append_nil]
    exact consistent.success
  refusals clause member := by
    rcases List.mem_append.1 member with before | now
    · exact consistent.refusals clause before
    · exact other clause (List.mem_singleton.1 now).symm

/-- **A verification keeps a session consistent**, whatever it reports on whatever document. -/
theorem Consistent.absorb (consistent : Consistent steps answers said session) {step : Step}
    (document : Text) (report : Verification) {answer : Answer}
    (counts : step.verified answer = true)
    (told : answer.compilation? =
      some (({ session with document }.absorb report).result report)) :
    Consistent (steps ++ [step]) (answers ++ [answer])
      (said ++ [⟨{ session with document }.submission, report⟩])
      ({ session with document }.absorb report) where
  answered := by simp [consistent.answered]
  clauses := rfl
  goals := by
    rw [List.getLast?_concat]
    rfl
  calls := by
    rw [List.length_append, ← consistent.calls]
    rfl
  counted := by
    rw [countP_zip_concat consistent.answered, counts, ← consistent.counted]
    rfl
  messages _ := by
    show List.map _ (deriveMessages report _) ≠ []
    rw [Ne, List.map_eq_nil_iff]
    exact deriveMessages_ne_nil report _
  results := by
    rw [List.filterMap_append, List.filterMap_cons_some told, List.filterMap_nil,
      List.length_append, consistent.results]
    rfl
  success result found := by
    rw [List.filterMap_append, List.filterMap_cons_some told, List.filterMap_nil,
      List.getLast?_concat] at found
    cases found
    simp [result, Message.anyOf]
  refusals clause member := by
    rcases List.mem_append.1 member with before | now
    · exact consistent.refusals clause before
    · rw [← List.mem_singleton.1 now] at told
      cases told

/-- **One step keeps a session consistent.** -/
theorem Consistent.perform (consistent : Consistent steps answers said session)
    (verifier : Respondent Text fun _ => Verification) (step : Step) :
    let outcome := (session.perform step).heldWith verifier said
    Consistent (steps ++ [step]) (answers ++ [outcome.1.1]) outcome.2 outcome.1.2 := by
  rcases perform_cases consistent.editable step with quiet | verifying
  · obtain ⟨answer, performed, counts, silent, other⟩ := quiet
    rw [performed]
    exact consistent.quiet counts silent other
  · obtain ⟨document, answer, performed, tells⟩ := verifying
    rw [performed]
    exact consistent.absorb document (verifier said { session with document }.submission)
      (tells _).1 (tells _).2

/-- **A run of any length keeps a session consistent.** -/
theorem consistent_performAll (consistent : Consistent steps answers said session)
    (verifier : Respondent Text fun _ => Verification) (later : List Step) :
    let outcome := (session.performAll later).heldWith verifier said
    Consistent (steps ++ later) (answers ++ outcome.1.1) outcome.2 outcome.1.2 := by
  induction later generalizing session steps answers said with
  | nil => simpa [performAll] using consistent
  | cons step later ih =>
    have next := ih (consistent.perform verifier step)
    dsimp only at next ⊢
    unfold performAll
    rw [Dialogue.heldWith_bind, Dialogue.heldWith_bind]
    simpa using next

/-- **Every run of a fresh session**, whatever is loaded, edited or looked at and whatever the
verifier answers: the session agrees with what happened, it accepts exactly the edits of its
clauses, and a refusal changes nothing. -/
theorem run_consistent (verifier : Respondent Text fun _ => Verification) (identity : Identity)
    (uniqueNames : Bool) (steps : List Step) :
    let outcome := ((fresh identity uniqueNames).performAll steps).heldWith verifier []
    Consistent steps outcome.1.1 outcome.2 outcome.1.2 ∧ Editable outcome.1.2 := by
  have consistent := consistent_performAll (consistent_fresh identity uniqueNames) verifier steps
  exact ⟨consistent, consistent.editable⟩

end Runs

end Session
end ProofDesk
