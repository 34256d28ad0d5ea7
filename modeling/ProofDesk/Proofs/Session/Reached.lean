import ProofDesk.Proofs.Clause.Ids
import ProofDesk.Proofs.Clause.ReadBack
import ProofDesk.Proofs.Session.Run

/-!
# Sessions that runs lead to

Whatever was loaded and edited, a session that a run leads to is about one document: its clauses are
those of the document, and the verifier was last asked about it. As no two clauses have one id, an id
means one clause, and the edit of an id replaces that clause.

* `Reached` — a run leads from a fresh session to this one.
* `Current` — what a session knows is about its document; `Reached.current` says so after every run.
* `Replaces` — the edit of the id of a clause replaces the clause and verifies the new document.
* `ids_apart` — every id means one clause.
* `edit_content_idle` — replacing a clause by what it holds changes nothing.
-/

namespace ProofDesk
namespace Session

open Dialogue (Respondent Exchange)

variable {verifier : Respondent Text fun _ => Verification}
  {said : List (Exchange Text fun _ => Verification)} {session : Session} {clause : Clause}
  {new updated : Text}

/-! ### Whatever the run -/

/-- **A run leads to the session.** It begins with a fresh one, and `said` is what is said to the
verifier on the way. -/
def Reached (verifier : Respondent Text fun _ => Verification)
    (said : List (Exchange Text fun _ => Verification)) (session : Session) : Prop :=
  ∃ identity uniqueNames steps answers,
    ((fresh identity uniqueNames).performAll steps).heldWith verifier [] = ((answers, session), said)

/-- Loading a document leads to a session about it, whatever the verifier reports. -/
theorem reached_load (verifier : Respondent Text fun _ => Verification) (identity : Identity)
    (uniqueNames : Bool) (document : Text) :
    let loaded := { fresh identity uniqueNames with document }
    Reached verifier [⟨loaded.submission, verifier [] loaded.submission⟩]
      (loaded.absorb (verifier [] loaded.submission)) :=
  ⟨identity, uniqueNames, [.load document], _, rfl⟩

/-- **What a session knows is about its document**, and so was what the verifier was last asked. -/
structure Current (said : List (Exchange Text fun _ => Verification)) (session : Session) : Prop where
  clauses : session.clauses = Clause.scan session.document
  goals : session.goals = deriveGoals session.document session.messages session.proofState
  asked : ∀ exchange, said.getLast? = some exchange → exchange.1 = session.submission
  unasked : said = [] → session.document = []

theorem current_fresh (identity : Identity) (uniqueNames : Bool) :
    Current [] (fresh identity uniqueNames) where
  clauses := rfl
  goals := rfl
  asked := nofun
  unasked _ := rfl

/-- A verification brings a session up to date. -/
theorem current_absorb (document : Text) (report : Verification) :
    Current (said ++ [⟨{ session with document }.submission, report⟩])
      ({ session with document }.absorb report) where
  clauses := rfl
  goals := rfl
  asked exchange last := by
    rw [List.getLast?_concat] at last
    cases last
    rfl
  unasked nothing := absurd nothing (List.append_ne_nil_of_right_ne_nil _ (List.cons_ne_nil _ _))

/-- **One step keeps a session up to date.** -/
theorem Current.perform (current : Current said session)
    (verifier : Respondent Text fun _ => Verification) (step : Step) :
    let outcome := (session.perform step).heldWith verifier said
    Current outcome.2 outcome.1.2 := by
  rcases perform_cases (editable_of_scanned current.clauses) step with quiet | verifying
  · obtain ⟨answer, performed, -, -, -⟩ := quiet
    rw [performed]
    exact current
  · obtain ⟨document, answer, performed, -⟩ := verifying
    rw [performed]
    exact current_absorb document (verifier said { session with document }.submission)

/-- **A run of any length keeps a session up to date.** -/
theorem current_performAll (current : Current said session)
    (verifier : Respondent Text fun _ => Verification) (steps : List Step) :
    let outcome := (session.performAll steps).heldWith verifier said
    Current outcome.2 outcome.1.2 := by
  induction steps generalizing session said with
  | nil => exact current
  | cons step steps ih =>
    have next := ih (current.perform verifier step)
    dsimp only at next ⊢
    unfold performAll
    rw [Dialogue.heldWith_bind, Dialogue.heldWith_bind]
    exact next

theorem Reached.current (reached : Reached verifier said session) : Current said session := by
  obtain ⟨identity, uniqueNames, steps, answers, run⟩ := reached
  have current := current_performAll (current_fresh identity uniqueNames) verifier steps
  rw [run] at current
  exact current

/-- A session with a clause had its document verified. -/
theorem Current.last_asked (current : Current said session) (member : clause ∈ session.clauses) :
    said.getLast?.map Sigma.fst = some session.submission := by
  cases last : said.getLast? with
  | some exchange => exact congrArg some (current.asked exchange last)
  | none =>
    -- An empty document has no clauses.
    have empty := current.unasked (List.getLast?_eq_none_iff.1 last)
    rw [current.clauses, empty] at member
    cases member

/-! ### What an id means -/

theorem Current.eq_of_id_eq (current : Current said session) {other : Clause}
    (member : clause ∈ session.clauses) (member' : other ∈ session.clauses)
    (same : other.id = clause.id) : other = clause := by
  have nodup := Clause.nodup_ids_scan session.document
  rw [← current.clauses] at nodup
  exact List.inj_on_of_nodup_map nodup member' member same

/-- **The id of a clause means this clause.** -/
theorem Current.clause?_id (current : Current said session) (member : clause ∈ session.clauses) :
    session.clause? clause.id = some clause := by
  obtain ⟨first, inside, found⟩ := exists_clause?_of_mem (List.mem_map_of_mem (f := Clause.id) member)
  have same : first.id = clause.id := by simpa using List.find?_some found
  rw [found, current.eq_of_id_eq member inside same]

/-- **The edit of the clause's id replaces the clause**, tells so, and has the new document
verified. -/
def Replaces (session : Session) (clause : Clause) (new updated : Text) : Prop :=
  session.edit clause.id new = do
    let (compilation, after) ← session.load updated
    return (.ok {
      clauseId := clause.id
      category := clause.category
      oldContent := clause.content
      newContent := new
      compilation, document := updated }, after)

theorem Current.replaces (current : Current said session) (member : clause ∈ session.clauses)
    (spliced : clause.splice session.document new = .ok updated) :
    Replaces session clause new updated := by
  unfold Replaces edit planEdit
  rw [current.clause?_id member]
  dsimp only
  rw [spliced]
  rfl

/-- What follows from a replacement, held with a verifier. -/
theorem Replaces.heldWith (replaces : Replaces session clause new updated)
    (verifier : Respondent Text fun _ => Verification)
    (said : List (Exchange Text fun _ => Verification)) : ∃ result report,
      (session.edit clause.id new).heldWith verifier said =
        ((.ok result, { session with document := updated }.absorb report),
          said ++ [⟨{ session with document := updated }.submission, report⟩]) := by
  rw [replaces]
  exact ⟨_, _, rfl⟩

/-- **Every id means one clause.** The ids of a document are pairwise different, as the search for a
free name always ends; so in every session that a run leads to, looking for the id of a clause finds
this clause, no other clause has the id, and every edit of the id replaces this clause. -/
theorem ids_apart :
    (∀ document, ((Clause.scan document).map Clause.id).Nodup) ∧
    (∀ base taken, base ∈ taken → ∃ k ≤ taken.length,
      Clause.freshId base taken = Clause.withNumber base (taken.length + k) ∧
        Clause.withNumber base (taken.length + k) ∉ taken ∧
        ∀ j < k, Clause.withNumber base (taken.length + j) ∈ taken) ∧
    ∀ verifier said session, Reached verifier said session → ∀ clause ∈ session.clauses,
      session.clause? clause.id = some clause ∧
        (∀ other ∈ session.clauses, other.id = clause.id → other = clause) ∧
        ∀ new, ∃ updated, clause.splice session.document new = .ok updated ∧
          Replaces session clause new updated := by
  refine ⟨Clause.nodup_ids_scan, fun base taken used => Clause.exists_freshId_eq used, ?_⟩
  intro verifier said session reached clause member
  have current := reached.current
  refine ⟨current.clause?_id member, fun other => current.eq_of_id_eq member, fun new => ?_⟩
  have scanned : clause ∈ Clause.scan session.document := current.clauses ▸ member
  obtain ⟨updated, spliced⟩ := Clause.exists_splice_of_mem_scan scanned new
  exact ⟨updated, spliced, current.replaces member spliced⟩

/-- The name of a fact that looks numbered, and the name of two facts. -/
theorem ids_apart_numbered :
    let document := Text.joinLines ["example : True := by", "  have h_2 : True := by rfl",
      "  have h : True := by rfl", "  have h : True := by rfl"]
    let clause := Clause.place "have_h_3" .haveProof 3 22 "rfl"
    let verifier : Respondent Text fun _ => Verification := fun _ _ => .ofResponse "Success"
    let session := { fresh ⟨"5e551d01", "1257a9ce"⟩ false with document }.absorb (.ofResponse "Success")
    Reached verifier [⟨document, .ofResponse "Success"⟩] session ∧ clause ∈ session.clauses ∧
      session.clause? "have_h_3" = some clause ∧
      ∃ updated, Replaces session clause "simp" updated := by
  intro document clause verifier session
  have reached : Reached verifier [⟨document, .ofResponse "Success"⟩] session :=
    reached_load verifier ⟨"5e551d01", "1257a9ce"⟩ false document
  have member : clause ∈ session.clauses := by
    show clause ∈ Clause.scan document
    decide +kernel
  obtain ⟨found, -, edits⟩ := ids_apart.2.2 verifier _ session reached clause member
  obtain ⟨updated, -, replaces⟩ := edits "simp"
  exact ⟨reached, member, found, updated, replaces⟩

/-! ### Editing with the current text -/

/-- **Replacing a clause by what it holds changes nothing**: not the document, and in every session
that a run leads to, the edit succeeds, keeps the document and the clauses, and asks the verifier once
more what it was asked last. -/
theorem edit_content_idle :
    (∀ document, ∀ clause ∈ Clause.scan document,
      clause.splice document clause.content = .ok document) ∧
    ∀ verifier said session, Reached verifier said session → ∀ clause ∈ session.clauses,
      ∃ result after submitted report,
        (session.edit clause.id clause.content).heldWith verifier said =
            ((.ok result, after), said ++ [⟨submitted, report⟩]) ∧
          after.document = session.document ∧ after.clauses = session.clauses ∧
          said.getLast?.map Sigma.fst = some submitted := by
  refine ⟨fun document clause member => Clause.splice_content member, ?_⟩
  intro verifier said session reached clause member
  have current := reached.current
  have scanned : clause ∈ Clause.scan session.document := current.clauses ▸ member
  obtain ⟨result, report, held⟩ :=
    (current.replaces member (Clause.splice_content scanned)).heldWith verifier said
  exact ⟨result, _, _, report, held, rfl, current.clauses.symm, current.last_asked member⟩

/-- A `have` line without a proof, where other text would get a space in front of it. -/
theorem edit_content_idle_bare :
    let document := "example : True := by\n  have h : True := by\n  exact h".toList
    let clause := Clause.place "have_h" .haveProof 1 21 []
    let verifier : Respondent Text fun _ => Verification := fun _ _ => .ofResponse "Success"
    let session := { fresh ⟨"5e551d01", "1257a9ce"⟩ false with document }.absorb (.ofResponse "Success")
    Reached verifier [⟨document, .ofResponse "Success"⟩] session ∧ clause ∈ session.clauses ∧
      clause.splice document [] = .ok document ∧
      ∃ result after report, (session.edit "have_h" []).heldWith verifier
          [⟨document, .ofResponse "Success"⟩] =
            ((.ok result, after), [⟨document, .ofResponse "Success"⟩, ⟨document, report⟩]) ∧
        after.document = document ∧ after.clauses = session.clauses := by
  intro document clause verifier session
  have reached : Reached verifier [⟨document, .ofResponse "Success"⟩] session :=
    reached_load verifier ⟨"5e551d01", "1257a9ce"⟩ false document
  have member : clause ∈ session.clauses := by
    show clause ∈ Clause.scan document
    decide +kernel
  obtain ⟨result, after, submitted, report, held, kept, clauses, last⟩ :=
    edit_content_idle.2 verifier _ session reached clause member
  have same : document = submitted := Option.some.inj last
  subst same
  exact ⟨reached, member, edit_content_idle.1 document clause member, result, after, report, held,
    kept, clauses⟩

end Session
end ProofDesk
