import ProofDesk.Proofs.Clause.Coverage
import ProofDesk.Proofs.Clause.Origin
import ProofDesk.Proofs.Session.Reached
import ProofDesk.Proofs.Source.Filling

/-!
# The goals of placeholders

A placeholder is a goal, and in most tactic proofs it is in a clause. An edit that fills the clause of a
placeholder closes the goal, and opens or closes no other one, whatever stands next to it.

* `mem_sorries_of_placeholder` — the clause of a placeholder stands where the scan of its line reports
  one.
* `placeholders_splice` — the placeholders of a document with one clause filled.
* `goals_fill` — the goals of a session after the edit.
* `placeholders_editable` — which goals of a tactic proof are reached by an edit.
* `placeholders_not_editable` — a default value in a header hides the goals of the proof.
-/

namespace ProofDesk

open Source (Fills others placeholders sorryWord)
open Text (size)

namespace Clause

variable {document line new : Text} {clause : Clause} {n : Nat}

/-- **The clause of a placeholder** is one that the scan of the line reports. -/
theorem mem_sorries_of_placeholder {stage : Stage} (member : clause ∈ stage.clausesOf n line)
    (kind : clause.category = .placeholder) :
    clause.start.column ∈ (Source.scanLine stage.depth line).sorries ∧ clause.content = sorryWord := by
  cases origin_of_mem member with
  | placeholder k reported => exact ⟨reported, rfl⟩
  | mainProof entered opens solid => cases kind
  | haveProof entered found => cases kind
  | tacticBlock entered found => cases kind
  | line whole entered => rcases whole with rfl | rfl <;> cases kind

/-- **A placeholder's clause is filled**: its place is gone from the placeholders, the later ones on its
line moved, and all others stayed. -/
theorem placeholders_splice (member : clause ∈ scan document) (kind : clause.category = .placeholder)
    (fills : Fills new) : clause.start ∈ placeholders document ∧
      ∃ updated, clause.splice document new = .ok updated ∧
        placeholders updated = others clause.start (size new) (placeholders document) := by
  obtain ⟨line, found, inside⟩ := mem_scan_iff.1 member
  obtain ⟨reported, content⟩ := mem_sorries_of_placeholder inside kind
  rw [Stage.depth_before] at reported
  have listed : clause.start ∈ placeholders document :=
    Source.mem_placeholders.2 ⟨line, found, reported⟩
  obtain ⟨front, behind, rfl, column, left, right, coded⟩ :=
    Source.exists_split_of_mem_sorries reported
  have cut : Cut document clause front behind :=
    ⟨by rw [content, List.append_assoc, found], column.symm⟩
  have written := spliceLine_sorryWord fills.single front behind
  have single : '\n' ∉ front ++ (new ++ behind) := by
    have old := Text.not_mem_of_mem_lines (List.mem_of_getElem? found)
    simp only [List.mem_append, not_or] at old ⊢
    exact ⟨old.1, fills.single, old.2.2⟩
  have place : clause.start = ⟨clause.start.line, size front⟩ := by rw [← column]
  have filled := Source.places_fill fills found left right coded
  have spliced := cut.splice_eq member new
  rw [content, written] at spliced
  refine ⟨listed, _, spliced, ?_⟩
  rw [Source.placeholders_eq_placesFrom, lines_joinLines_set single, filled,
    Source.placeholders_eq_placesFrom, place]

end Clause

namespace Session

open Clause (Covers Inside InStatement PlainHeader TacticProof)
open Dialogue (Respondent Exchange)

/-- **Filling a placeholder closes its goal and no other.** In a document, its place is gone from the
placeholders, those behind it on its line moved by the difference of the sizes, and all others stayed.
In a session that a run leads to, the edit of its clause succeeds, and the goals afterwards are those of
the other placeholders, and what the new messages tell. -/
theorem goals_fill :
    (∀ document, ∀ clause ∈ Clause.scan document, clause.category = .placeholder →
      ∀ new, Fills new → clause.start ∈ placeholders document ∧ (placeholders document).Nodup ∧
        ∃ updated, clause.splice document new = .ok updated ∧
          placeholders updated = others clause.start (size new) (placeholders document)) ∧
    ∀ verifier said session, Reached verifier said session → ∀ clause ∈ session.clauses,
      clause.category = .placeholder → ∀ new, Fills new → ∃ result after asked report,
        (session.edit clause.id new).heldWith verifier said =
            ((.ok result, after), said ++ [⟨asked, report⟩]) ∧
          clause.splice session.document new = .ok after.document ∧
          after.goals = (others clause.start (size new) (placeholders session.document)).map
              (placeholderGoal report.proofState) ++
            after.messages.filterMap fun message =>
              message.unsolvedGoal?.map fun text => ⟨text, message.start, report.proofState⟩ := by
  constructor
  · intro document clause member kind new fills
    obtain ⟨inside, filled⟩ := Clause.placeholders_splice member kind fills
    exact ⟨inside, Source.nodup_placeholders document, filled⟩
  · intro verifier said session reached clause member kind new fills
    have current := reached.current
    have scanned : clause ∈ Clause.scan session.document := current.clauses ▸ member
    obtain ⟨-, updated, spliced, rest⟩ := Clause.placeholders_splice scanned kind fills
    obtain ⟨result, report, held⟩ := (current.replaces member spliced).heldWith verifier said
    refine ⟨result, _, _, report, held, spliced, ?_⟩
    rw [← rest]
    rfl

/-- Two placeholders on one line, behind characters of more than one byte. -/
theorem goals_fill_pair :
    let document := "theorem t : True ∧ True := by exact ⟨sorry, sorry⟩".toList
    let clause := Clause.place "sorry_0" .placeholder 0 41 sorryWord
    let verifier : Respondent Text fun _ => Verification := fun _ _ => .ofResponse "Success"
    let session := { fresh ⟨"5e551d01", "1257a9ce"⟩ false with document }.absorb (.ofResponse "Success")
    Reached verifier [⟨document, .ofResponse "Success"⟩] session ∧ clause ∈ session.clauses ∧
      Fills "trivial" ∧ placeholders document = [⟨0, 41⟩, ⟨0, 48⟩] ∧
      (∃ updated, clause.splice document "trivial" = .ok updated ∧ placeholders updated = [⟨0, 50⟩]) ∧
      ∃ result after asked report, (session.edit "sorry_0" "trivial").heldWith verifier
          [⟨document, .ofResponse "Success"⟩] =
            ((.ok result, after), [⟨document, .ofResponse "Success"⟩, ⟨asked, report⟩]) ∧
        after.goals = placeholderGoal report.proofState ⟨0, 50⟩ ::
          after.messages.filterMap fun message =>
            message.unsolvedGoal?.map fun text => ⟨text, message.start, report.proofState⟩ := by
  intro document clause verifier session
  have reached : Reached verifier [⟨document, .ofResponse "Success"⟩] session :=
    reached_load verifier ⟨"5e551d01", "1257a9ce"⟩ false document
  have member : clause ∈ Clause.scan document := by decide +kernel
  have absent : ¬ sorryWord <:+: "trivial".toList := fun occurs =>
    absurd (Text.contains_iff.2 occurs) (by decide)
  have fills : Fills "trivial" :=
    { solid := by decide, unquoted := by decide, noHyphen := by decide, noSlash := by decide,
      single := by decide, complete := absent }
  have places : placeholders document = [⟨0, 41⟩, ⟨0, 48⟩] := by decide +kernel
  have remaining : others clause.start (size "trivial") (placeholders document) = [⟨0, 50⟩] := by
    rw [places]
    decide
  obtain ⟨-, -, updated, spliced, filled⟩ := goals_fill.1 document clause member rfl _ fills
  obtain ⟨result, after, asked, report, held, -, goals⟩ :=
    goals_fill.2 verifier _ session reached clause member rfl _ fills
  have here : others clause.start (size "trivial") (placeholders session.document) = [⟨0, 50⟩] :=
    remaining
  rw [here] at goals
  exact ⟨reached, member, fills, places, ⟨updated, spliced, filled.trans remaining⟩, result, after,
    asked, report, held, goals⟩

/-! ### Reaching a goal -/

section Editable

variable {document : Text} {declared opened column : Nat} {place : Position}

/-- The clause of a placeholder is edited in every session about the document. -/
theorem Current.exists_editable {said : List (Exchange Text fun _ => Verification)}
    {session : Session} (current : Current said session) (about : session.document = document)
    (listed : place ∈ placeholders document)
    (covered : ∃ clause ∈ Clause.scan document, Clause.Covers clause place) :
    placeholderGoal session.proofState place ∈ session.goals ∧
      ∃ clause ∈ session.clauses, Clause.Covers clause place ∧
        ∀ new, ∃ updated, clause.splice document new = .ok updated ∧
          Replaces session clause new updated := by
  subst about
  obtain ⟨clause, member, covers⟩ := covered
  have known : clause ∈ session.clauses := current.clauses ▸ member
  refine ⟨?_, clause, known, covers, fun new => ?_⟩
  · rw [current.goals]
    exact List.mem_append_left _ (List.mem_map_of_mem listed)
  · obtain ⟨updated, spliced⟩ := Clause.exists_splice_of_mem_scan member new
    exact ⟨updated, spliced, current.replaces known spliced⟩

/-- **The placeholders of a tactic proof are editable** behind a header without another `:=`: one that is
not in the statement of a `have` line is in exactly one clause, and in every session about the document
its goal is listed and the clause can be replaced by any text. Any other placeholder of the proof is in
no clause. -/
theorem placeholders_editable (proof : TacticProof document declared opened column)
    (listed : place ∈ placeholders document)
    (inside : Inside document declared opened column place) :
    (PlainHeader document declared opened ∧ ¬ InStatement document opened place →
      (∃! clause, clause ∈ Clause.scan document ∧ Covers clause place) ∧
      ∀ verifier said session, Reached verifier said session → session.document = document →
        placeholderGoal session.proofState place ∈ session.goals ∧
          ∃ clause ∈ session.clauses, Covers clause place ∧
            ∀ new, ∃ updated, clause.splice document new = .ok updated ∧
              Replaces session clause new updated) ∧
    (¬ PlainHeader document declared opened ∨ InStatement document opened place →
      ∀ clause ∈ Clause.scan document, ¬ Covers clause place) := by
  constructor
  · rintro ⟨plain, proved⟩
    have covered := Clause.exists_covers proof plain listed inside proved
    refine ⟨?_, fun verifier said session reached about =>
      reached.current.exists_editable about listed covered⟩
    obtain ⟨clause, member, covers⟩ := covered
    refine ⟨clause, ⟨member, covers⟩, ?_⟩
    rintro other ⟨member', covers'⟩
    exact Clause.eq_of_covers member' member covers' covers
  · intro lost
    by_cases plain : PlainHeader document declared opened
    · exact Clause.not_covers proof plain listed inside (lost.resolve_left (not_not_intro plain))
    · exact Clause.not_covers_of_left proof plain listed inside

/-- A signature of two lines, and a placeholder that a `have` line proves. -/
theorem placeholders_editable_have :
    let document := Text.joinLines ["theorem t :", "    True := by", "  have h : True := by sorry",
      "  exact h"]
    let place : Position := ⟨2, 22⟩
    TacticProof document 0 1 14 ∧ PlainHeader document 0 1 ∧ place ∈ placeholders document ∧
      Inside document 0 1 14 place ∧ ¬ InStatement document 1 place ∧
      (∃! clause, clause ∈ Clause.scan document ∧ Covers clause place) ∧
      ∃ verifier said session, Reached verifier said session ∧ session.document = document ∧
        placeholderGoal session.proofState place ∈ session.goals ∧
          ∃ clause ∈ session.clauses, Covers clause place ∧ ∃ updated,
            clause.splice document "trivial" = .ok updated ∧
              Replaces session clause "trivial" updated := by
  intro document place
  have proof : TacticProof document 0 1 14 :=
    ⟨by decide +kernel, by decide, by decide +kernel, by decide +kernel⟩
  have plain : PlainHeader document 0 1 := by unfold PlainHeader; decide +kernel
  have listed : place ∈ placeholders document := by decide +kernel
  have inside : Inside document 0 1 14 place := ⟨by decide, by decide +kernel⟩
  have proved : ¬ InStatement document 1 place := by unfold InStatement; decide +kernel
  obtain ⟨single, sessions⟩ := (placeholders_editable proof listed inside).1 ⟨plain, proved⟩
  let verifier : Respondent Text fun _ => Verification := fun _ _ => .ofResponse "Success"
  have reached := reached_load verifier ⟨"5e551d01", "1257a9ce"⟩ false document
  obtain ⟨goal, clause, member, covers, edits⟩ := sessions verifier _ _ reached rfl
  exact ⟨proof, plain, listed, inside, proved, single, verifier, _, _, reached, rfl, goal, clause,
    member, covers, edits "trivial"⟩

/-- Nothing is a clause of the proof when a binder on a line of its own has a default value, or when a
proof that is a term has the first `:= by`; nor is what a `have` line states. -/
theorem placeholders_not_editable :
    let defaulted := Text.joinLines ["theorem t", "    (n : Nat := 5)", "    : n = n := by", "  sorry"]
    let termed := Text.joinLines ["theorem t : True :=", "  have h : True := by sorry", "  h"]
    let stating := Text.joinLines ["theorem t : True := by", "  have h : sorry := by trivial",
      "  trivial"]
    (TacticProof defaulted 0 2 17 ∧ ⟨3, 2⟩ ∈ placeholders defaulted ∧ Inside defaulted 0 2 17 ⟨3, 2⟩ ∧
      Clause.scan defaulted = []) ∧
    (TacticProof termed 0 1 21 ∧ ⟨1, 22⟩ ∈ placeholders termed ∧ Inside termed 0 1 21 ⟨1, 22⟩ ∧
      ∀ clause ∈ Clause.scan termed, ¬ Covers clause ⟨1, 22⟩) ∧
    (TacticProof stating 0 0 22 ∧ ⟨1, 11⟩ ∈ placeholders stating ∧ Inside stating 0 0 22 ⟨1, 11⟩ ∧
      ∀ clause ∈ Clause.scan stating, ¬ Covers clause ⟨1, 11⟩) := by
  intro defaulted termed stating
  have proof : TacticProof defaulted 0 2 17 :=
    ⟨by decide +kernel, by decide, by decide +kernel, by decide +kernel⟩
  have proof' : TacticProof termed 0 1 21 :=
    ⟨by decide +kernel, by decide, by decide +kernel, by decide +kernel⟩
  have proof'' : TacticProof stating 0 0 22 :=
    ⟨by decide +kernel, by decide, by decide +kernel, by decide +kernel⟩
  have inside : Inside defaulted 0 2 17 ⟨3, 2⟩ := ⟨by decide, by decide +kernel⟩
  have inside' : Inside termed 0 1 21 ⟨1, 22⟩ := ⟨by decide, by decide +kernel⟩
  have inside'' : Inside stating 0 0 22 ⟨1, 11⟩ := ⟨by decide, by decide +kernel⟩
  exact ⟨⟨proof, by decide +kernel, inside, by decide +kernel⟩,
    ⟨proof', by decide +kernel, inside', by decide +kernel⟩,
    proof'', by decide +kernel, inside'', by decide +kernel⟩

end Editable

end Session
end ProofDesk
