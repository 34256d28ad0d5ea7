import ProofDesk.Proofs.Session.Advice

/-!
# The goals of clauses

Goals come from the placeholders of a document and clauses from a second pass over its lines, which
skips lines, leaves out columns and knows contexts. Both passes hand on the same number of open
comments, so every clause that is a placeholder has a goal of its own.

* `starts_sublist_of_lineShape` and `starts_sublist_scanFrom` — the clauses of placeholders among the
  placeholders of one line, and of lines.
* `Session.placeholderGoals` — the goals that placeholders make; all goals begin with them.
* `Paired` — a clause and its goal.
* `paired_of_reached` — in every session that a run leads to, each clause of a placeholder is paired
  with a goal, and no two with the same one.
-/

namespace ProofDesk

open Source (bounds placeholders placesFrom scanLine scanLines sorryWord)
open Text (size)

/-- The clause is a placeholder. -/
def Clause.isPlaceholder (clause : Clause) : Bool := clause.category = .placeholder

namespace Clause

variable {line : Text} {scanned : Source.LineScan} {clauses : List Clause} {n : Nat}

/-! ### Clauses among placeholders -/

theorem map_start_placeholderClauses (count n : Nat) (columns : List Nat) :
    (placeholderClauses count n columns).map Clause.start = columns.map (⟨n, ·⟩) := by
  calc (placeholderClauses count n columns).map Clause.start
      = (columns.zipIdx.map Prod.fst).map (⟨n, ·⟩) := by
        rw [placeholderClauses, List.map_map, List.map_map]
        rfl
    _ = columns.map (⟨n, ·⟩) := by rw [List.zipIdx_map_fst]

theorem filter_placeholderClauses (count n : Nat) (columns : List Nat) :
    (placeholderClauses count n columns).filter isPlaceholder = placeholderClauses count n columns := by
  refine List.filter_eq_self.2 fun clause member => ?_
  obtain ⟨⟨column, k⟩, -, rfl⟩ := List.mem_map.1 member
  rfl

/-- **On one line**, the clauses of placeholders stand where the scan reports some of the
placeholders, in the same order. -/
theorem starts_sublist_of_lineShape (shape : LineShape n line scanned clauses) :
    ((clauses.filter isPlaceholder).map Clause.start).Sublist (scanned.sorries.map (⟨n, ·⟩)) := by
  cases shape with
  | nothing => exact List.nil_sublist _
  | placeholders count found =>
    rw [filter_placeholderClauses, map_start_placeholderClauses]
    exact found.map _
  | piece id other cut =>
    rw [List.filter_singleton, isPlaceholder, place, decide_eq_false other]
    exact List.nil_sublist _

theorem starts_sublist_clausesOf (stage : Stage) (n : Nat) (line : Text) :
    (((stage.clausesOf n line).filter isPlaceholder).map Clause.start).Sublist
      ((scanLine stage.depth line).sorries.map (⟨n, ·⟩)) :=
  starts_sublist_of_lineShape
    (lineShape_lineClauses (piecesFit_scanLine stage.depth line) stage.context stage.taken)

/-- **On any lines**: the pass that finds the clauses and the one that finds the placeholders stay in
step, as both hand on the number of open comments. -/
theorem starts_sublist_scanFrom (stage : Stage) (n : Nat) (all : List Text) :
    (((scanFrom stage.context stage.taken n (scanLines stage.depth all)).filter isPlaceholder).map
      Clause.start).Sublist (placesFrom stage.depth n all) := by
  induction all generalizing stage n with
  | nil => exact List.nil_sublist _
  | cons line rest ih =>
    rw [Stage.scanFrom_cons, List.filter_append, List.map_append, placesFrom]
    exact (starts_sublist_clausesOf stage n line).append (ih (stage.next n line) (n + 1))

/-- **The clauses of placeholders of a document** stand at placeholders, in the same order. -/
theorem starts_sublist (document : Text) :
    (((scan document).filter isPlaceholder).map Clause.start).Sublist (placeholders document) := by
  rw [Source.placeholders_eq_placesFrom]
  exact starts_sublist_scanFrom Stage.start 0 (Text.lines document)

end Clause

namespace Session

open Dialogue (Respondent Exchange)

variable {verifier : Respondent Text fun _ => Verification}
  {said : List (Exchange Text fun _ => Verification)} {session : Session} {clause : Clause}

/-! ### Goals of placeholders -/

/-- The goals that the placeholders of the document make. -/
def placeholderGoals (session : Session) : List Goal :=
  (placeholders session.document).map (placeholderGoal session.proofState)

/-- The goal of a clause that is a placeholder. -/
def goalOf (session : Session) (clause : Clause) : Goal :=
  placeholderGoal session.proofState clause.start

/-- **All goals begin with those of the placeholders.** -/
theorem Current.placeholderGoals_prefix (current : Current said session) :
    session.placeholderGoals <+: session.goals :=
  ⟨_, current.goals.symm⟩

/-- There is one goal at a placeholder. -/
theorem filter_placeholderGoals {place : Position} (listed : place ∈ placeholders session.document) :
    session.placeholderGoals.filter (fun goal => goal.position = place) =
      [placeholderGoal session.proofState place] := by
  have once : (placeholders session.document).filter (fun other => decide (other = place)) = [place] := by
    have count := List.count_eq_one_of_mem (Source.nodup_placeholders session.document) listed
    have alike := List.filter_beq (l := placeholders session.document) place
    rw [count] at alike
    simpa [beq_eq_decide] using alike
  rw [placeholderGoals, List.filter_map]
  exact congrArg (List.map (placeholderGoal session.proofState)) once

/-- The first goal on the line of a placeholder is that of a placeholder. -/
theorem Current.exists_goalAt? (current : Current said session) {place : Position}
    (listed : place ∈ placeholders session.document) : ∃ goal ∈ session.placeholderGoals,
      session.goalAt? place.line = some goal ∧ goal.position.line = place.line := by
  have some : (session.placeholderGoals.find? fun goal => goal.position.line = place.line).isSome := by
    rw [List.find?_isSome]
    exact ⟨_, List.mem_map_of_mem listed, decide_eq_true rfl⟩
  obtain ⟨goal, found⟩ := Option.isSome_iff_exists.1 some
  obtain ⟨others, whole⟩ := current.placeholderGoals_prefix
  refine ⟨goal, List.mem_of_find?_eq_some found, ?_, of_decide_eq_true (List.find?_some found :)⟩
  rw [goalAt?, ← whole, List.find?_append, found]
  rfl

/-! ### Clauses and their goals -/

/-- **A clause and its goal.** -/
structure Paired (session : Session) (clause : Clause) : Prop where
  /-- The clause holds the word. -/
  content : clause.content = sorryWord
  /-- The word stands at the span of the clause, and no character of names on either side. -/
  bounded : ∃ front behind, (Text.lines session.document)[clause.start.line]? =
      some (front ++ (sorryWord ++ behind)) ∧ clause.start.column = size front ∧
    clause.stop = ⟨clause.start.line, clause.start.column + size sorryWord⟩ ∧
    bounds front.getLast? = true ∧ bounds behind.head? = true
  /-- Exactly one placeholder makes a goal where the clause begins. -/
  single : session.placeholderGoals.filter (fun goal => goal.position = clause.start) =
    [session.goalOf clause]
  /-- Whoever asks for a goal on the line gets one. -/
  shown : ∃ goal ∈ session.placeholderGoals, session.goalAt? clause.start.line = some goal ∧
    goal.position.line = clause.start.line

theorem Current.starts_sublist (current : Current said session) :
    (session.sorries.map Clause.start).Sublist (placeholders session.document) := by
  rw [sorries, current.clauses]
  exact Clause.starts_sublist session.document

/-- **The clause of a placeholder is paired with a goal.** -/
theorem Current.paired (current : Current said session) (member : clause ∈ session.sorries) :
    Paired session clause := by
  have listed : clause.start ∈ placeholders session.document :=
    current.starts_sublist.subset (List.mem_map_of_mem member)
  obtain ⟨inside, kind⟩ := List.mem_filter.1 member
  rw [current.clauses] at inside
  obtain ⟨line, found, held⟩ := Clause.mem_scan_iff.1 inside
  obtain ⟨reported, content⟩ := Clause.mem_sorries_of_placeholder held (of_decide_eq_true kind)
  obtain ⟨front, behind, rfl, column, left, right, -⟩ := Source.exists_split_of_mem_sorries reported
  obtain ⟨_, _, lies⟩ := Clause.exists_onLine_of_mem_scan inside
  have stop : clause.stop = ⟨clause.start.line, clause.start.column + size sorryWord⟩ := by
    rw [lies.stop, content]
  exact ⟨content, ⟨front, behind, found, column, stop, left, right⟩, filter_placeholderGoals listed,
    current.exists_goalAt? listed⟩

/-- **Every clause of a placeholder has its goal.** In every session that a run leads to, the goals
begin with those of the placeholders; the clause of a placeholder holds the word and nothing else,
there is exactly one of these goals where it begins, and a goal is found on its line. The goals of
these clauses come in the order of the clauses and no two are the same, so there are never more such
clauses than goals. -/
theorem paired_of_reached (reached : Reached verifier said session) :
    session.placeholderGoals <+: session.goals ∧
    (∀ clause ∈ session.clauses, clause.category = .placeholder → Paired session clause) ∧
    (session.sorries.map session.goalOf).Sublist session.placeholderGoals ∧
    (∀ clause ∈ session.sorries, ∀ other ∈ session.sorries, clause ≠ other →
      session.goalOf clause ≠ session.goalOf other) ∧
    session.sorries.length ≤ session.goals.length := by
  have current := reached.current
  have goals : (session.sorries.map session.goalOf).Sublist session.placeholderGoals := by
    have mapped := current.starts_sublist.map (placeholderGoal session.proofState)
    rwa [List.map_map] at mapped
  have apart : (session.sorries.map session.goalOf).Nodup := by
    refine goals.nodup (List.Nodup.map ?_ (Source.nodup_placeholders session.document))
    intro place other same
    exact congrArg Goal.position same
  refine ⟨current.placeholderGoals_prefix, fun clause member kind => ?_, goals, ?_, ?_⟩
  · exact current.paired (List.mem_filter.2 ⟨member, decide_eq_true kind⟩)
  · intro clause member other member' different same
    exact different (List.inj_on_of_nodup_map apart member member' same)
  · calc session.sorries.length = (session.sorries.map session.goalOf).length :=
          (List.length_map _).symm
      _ ≤ session.placeholderGoals.length := goals.length_le
      _ ≤ session.goals.length := current.placeholderGoals_prefix.length_le

/-- Three goals and two clauses of placeholders: the first goal is inside the clause of a fact. -/
theorem paired_of_reached_behind_fact :
    let document := Text.joinLines ["theorem t : True ∧ True := by", "  have h : True := by sorry",
      "  exact ⟨sorry, sorry⟩"]
    let verifier : Respondent Text fun _ => Verification := fun _ _ => .ofResponse "Success"
    let session :=
      { fresh ⟨"5e551d01", "1257a9ce"⟩ false with document }.absorb (.ofResponse "Success")
    let first := Clause.place "sorry_1" .placeholder 2 11 sorryWord
    let second := Clause.place "sorry_2" .placeholder 2 18 sorryWord
    Reached verifier [⟨document, .ofResponse "Success"⟩] session ∧ session.sorries = [first, second] ∧
      placeholders document = [⟨1, 22⟩, ⟨2, 11⟩, ⟨2, 18⟩] ∧ Paired session first ∧
      Paired session second ∧ session.goalOf first ≠ session.goalOf second ∧
      session.sorries.length ≤ session.goals.length := by
  intro document verifier session first second
  have reached : Reached verifier [⟨document, .ofResponse "Success"⟩] session :=
    reached_load verifier ⟨"5e551d01", "1257a9ce"⟩ false document
  have sorries : session.sorries = [first, second] := by decide +kernel
  have inside : ∀ clause ∈ session.sorries, clause ∈ session.clauses := fun _ member =>
    (List.mem_filter.1 member).1
  have one : first ∈ session.sorries := by rw [sorries]; exact List.mem_cons_self
  have two : second ∈ session.sorries := by rw [sorries]; exact List.mem_cons_of_mem _ List.mem_cons_self
  obtain ⟨-, paired, -, apart, fewer⟩ := paired_of_reached reached
  exact ⟨reached, sorries, by decide +kernel, paired first (inside first one) rfl,
    paired second (inside second two) rfl, apart first one second two (by decide), fewer⟩

end Session
end ProofDesk
