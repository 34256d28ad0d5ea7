import ProofDesk.Proofs.Clause.Range
import ProofDesk.Proofs.Session.Reached
import ProofDesk.Proofs.Source.Places

/-!
# What stands before an edit

A document is scanned line by line, and what a line hands on to the next ones does not reach back. So
the clauses and the placeholders of the first lines of a document are those of any other document that
begins with these lines. An edit keeps the lines before the line of its clause, whatever the new text
is, as the new text never reaches back over the beginning of that line.

* `SameFront` — two lists agree in what stands on the first lines, and have it at the front.
* `sameFront_scan` and `sameFront_placeholders` — the clauses and the placeholders of two documents
  that share their first lines.
* `take_lines_splice` — the lines before the line of a replaced clause.
* `edit_keeps_front` — an edit changes nothing that stands before the line of its clause.
-/

namespace ProofDesk

open Source (placeholders placesFrom scanLines)

/-! ### The front of a list -/

section Front

variable {α : Type} {line : α → Nat} {n : Nat} {front rest items items' : List α}

/-- What stands on one of the first `n` lines. -/
def onFirst (line : α → Nat) (n : Nat) (items : List α) : List α :=
  items.filter fun a => line a < n

/-- **The same front.** The same items stand on the first `n` lines, in the same order, and they come
first in both lists. -/
structure SameFront (line : α → Nat) (n : Nat) (items items' : List α) : Prop where
  same : onFirst line n items = onFirst line n items'
  first : onFirst line n items <+: items
  first' : onFirst line n items' <+: items'

theorem onFirst_append (early : ∀ a ∈ front, line a < n) (late : ∀ a ∈ rest, n ≤ line a) :
    onFirst line n (front ++ rest) = front := by
  unfold onFirst
  rw [List.filter_append, List.filter_eq_self.2 fun a member => decide_eq_true (early a member),
    List.filter_eq_nil_iff.2 fun a member => by simpa using late a member, List.append_nil]

/-- Two lists that begin alike have the same front, when the rest of both stands on later lines. -/
theorem SameFront.of_append {rest' : List α} (early : ∀ a ∈ front, line a < n)
    (late : ∀ a ∈ rest, n ≤ line a) (late' : ∀ a ∈ rest', n ≤ line a) :
    SameFront line n (front ++ rest) (front ++ rest') := by
  have here := onFirst_append early late
  have here' := onFirst_append early late'
  exact ⟨here.trans here'.symm, here.symm ▸ List.prefix_append .., here'.symm ▸ List.prefix_append ..⟩

end Front

/-! ### Documents -/

variable {document document' new updated : Text} {clause : Clause} {place : Position} {n : Nat}

namespace Clause

/-- The clauses of lines stand on these lines. -/
theorem line_of_mem_scanFrom {stage : Stage} {all : List Text}
    (member : clause ∈ scanFrom stage.context stage.taken n (scanLines stage.depth all)) :
    n ≤ clause.start.line ∧ clause.start.line < n + all.length := by
  obtain ⟨k, line, found, inside⟩ := Stage.exists_line_of_mem_scanFrom member
  have number := (Stage.onLine_of_mem_clausesOf inside).start
  have short := (List.getElem?_eq_some_iff.1 found).1
  omega

/-- **A document is scanned front to back**: its first lines decide which clauses come first, and all
others are on later lines. -/
theorem exists_scan_eq_append (front : List Text) (n : Nat) : ∃ early : List Clause,
    ∀ document, (Text.lines document).take n = front →
      ∃ late, scan document = early ++ late ∧ (∀ clause ∈ early, clause.start.line < n) ∧
        ∀ clause ∈ late, n ≤ clause.start.line := by
  refine ⟨scanFrom Stage.start.context Stage.start.taken 0 (scanLines Stage.start.depth front), ?_⟩
  rintro document rfl
  have whole := Stage.scanFrom_append Stage.start 0 ((Text.lines document).take n)
    ((Text.lines document).drop n)
  rw [List.take_append_drop] at whole
  refine ⟨_, whole, fun clause member => ?_, fun clause member => ?_⟩
  · have bound := (line_of_mem_scanFrom member).2
    rw [List.length_take] at bound
    omega
  · have bound := line_of_mem_scanFrom member
    rw [List.length_take, List.length_drop] at bound
    omega

/-- **The clauses of the first lines** are those of every document that begins with these lines. -/
theorem sameFront_scan (same : (Text.lines document).take n = (Text.lines document').take n) :
    SameFront (fun clause : Clause => clause.start.line) n (scan document) (scan document') := by
  obtain ⟨early, scanned⟩ := exists_scan_eq_append ((Text.lines document).take n) n
  obtain ⟨late, whole, bound, bound'⟩ := scanned document rfl
  obtain ⟨late', whole', -, bound''⟩ := scanned document' same.symm
  rw [whole, whole']
  exact .of_append bound bound' bound''

/-- **The lines before the line of a replaced clause** stay, also when the clause was scanned from
another document. -/
theorem take_lines_splice (spliced : clause.splice document new = .ok updated) :
    clause.start.line < (Text.lines document).length ∧
      (Text.lines updated).take clause.start.line = (Text.lines document).take clause.start.line := by
  obtain ⟨-, line, before, inside, behind, found, -, rfl⟩ := splice_eq_ok.1 spliced
  have short := (List.getElem?_eq_some_iff.1 found).1
  have length : ((Text.lines document).take clause.start.line).length = clause.start.line :=
    List.length_take_of_le (Nat.le_of_lt short)
  rw [Text.lines_set short]
  exact ⟨short, List.take_left' length⟩

end Clause

namespace Source

/-- The placeholders of lines stand on these lines. -/
theorem line_of_mem_placesFrom {depth : Nat} {all : List Text} (member : place ∈ placesFrom depth n all) :
    n ≤ place.line ∧ place.line < n + all.length := by
  obtain ⟨k, line, found, number, -⟩ := mem_placesFrom.1 member
  have short := (List.getElem?_eq_some_iff.1 found).1
  omega

/-- **The placeholders of the first lines** are those of every document that begins with these lines. -/
theorem sameFront_placeholders (same : (Text.lines document).take n = (Text.lines document').take n) :
    SameFront Position.line n (placeholders document) (placeholders document') := by
  have whole : ∀ t, placeholders t = placesFrom 0 0 ((Text.lines t).take n) ++
      placesFrom (depthAfter 0 ((Text.lines t).take n)) ((Text.lines t).take n).length
        ((Text.lines t).drop n) := by
    intro t
    have parts := placesFrom_append 0 0 ((Text.lines t).take n) ((Text.lines t).drop n)
    rwa [List.take_append_drop, Nat.zero_add, ← placeholders_eq_placesFrom] at parts
  have late : ∀ t, ∀ place ∈ placesFrom (depthAfter 0 ((Text.lines t).take n))
      ((Text.lines t).take n).length ((Text.lines t).drop n), n ≤ place.line := by
    intro t place member
    have bound := line_of_mem_placesFrom member
    rw [List.length_take, List.length_drop] at bound
    omega
  have later := late document'
  rw [whole document, whole document']
  rw [← same] at later ⊢
  refine .of_append (fun place member => ?_) (late document) later
  have bound := (line_of_mem_placesFrom member).2
  rw [List.length_take] at bound
  omega

end Source

/-! ### Sessions -/

namespace Session

open Dialogue (Respondent Exchange)

/-- The goals that the messages of a session tell. -/
def toldGoals (session : Session) : List Goal :=
  session.messages.filterMap fun message =>
    message.unsolvedGoal?.map fun text => ⟨text, message.start, session.proofState⟩

/-- **The goals of a session** are those of the placeholders of its document, and then those that its
messages tell. -/
theorem Current.goals_eq {said : List (Exchange Text fun _ => Verification)} {session : Session}
    (current : Current said session) :
    session.goals =
      (placeholders session.document).map (placeholderGoal session.proofState) ++ session.toldGoals :=
  current.goals

/-- **An edit changes nothing that stands before the line of its clause.** Two documents that share
their first lines have the same clauses and the same placeholders on these lines, and have them first. In
every session that a run leads to, the edit of a clause succeeds with any text; it keeps the lines before
that of the clause and the clauses on them, which stay first in the list, and the goals of the
placeholders on them stay where they are. -/
theorem edit_keeps_front :
    (∀ document document' n, (Text.lines document).take n = (Text.lines document').take n →
      SameFront (fun clause : Clause => clause.start.line) n (Clause.scan document)
          (Clause.scan document') ∧
        SameFront Position.line n (placeholders document) (placeholders document')) ∧
    ∀ verifier said session, Reached verifier said session → ∀ clause ∈ session.clauses, ∀ new,
      ∃ result after exchange,
        (session.edit clause.id new).heldWith verifier said =
            ((.ok result, after), said ++ [exchange]) ∧
          clause.start.line < (Text.lines session.document).length ∧
          (Text.lines after.document).take clause.start.line =
            (Text.lines session.document).take clause.start.line ∧
          SameFront (fun clause : Clause => clause.start.line) clause.start.line session.clauses
            after.clauses ∧
          session.goals = (placeholders session.document).map (placeholderGoal session.proofState) ++
            session.toldGoals ∧
          after.goals = (placeholders after.document).map (placeholderGoal after.proofState) ++
            after.toldGoals ∧
          SameFront Position.line clause.start.line (placeholders session.document)
            (placeholders after.document) := by
  constructor
  · intro document document' n same
    exact ⟨Clause.sameFront_scan same, Source.sameFront_placeholders same⟩
  · intro verifier said session reached clause member new
    have current := reached.current
    have scanned : clause ∈ Clause.scan session.document := current.clauses ▸ member
    obtain ⟨updated, spliced⟩ := Clause.exists_splice_of_mem_scan scanned new
    obtain ⟨result, report, held⟩ := (current.replaces member spliced).heldWith verifier said
    obtain ⟨short, kept⟩ := Clause.take_lines_splice spliced
    have front := Clause.sameFront_scan kept.symm
    rw [← current.clauses] at front
    exact ⟨result, _, _, held, short, kept, front, current.goals_eq, rfl,
      Source.sameFront_placeholders kept.symm⟩

/-- Two placeholders on different lines, the later one filled with a text of two lines that opens a
comment. -/
theorem edit_keeps_front_filled :
    let document := Text.joinLines ["theorem t : True ∧ True := by", "  have h : True := by sorry",
      "  exact ⟨h, sorry⟩"]
    let clause := Clause.place "sorry_1" .placeholder 2 14 Source.sorryWord
    let verifier : Respondent Text fun _ => Verification := fun _ _ => .ofResponse "Success"
    let session := { fresh ⟨"5e551d01", "1257a9ce"⟩ false with document }.absorb (.ofResponse "Success")
    Reached verifier [⟨document, .ofResponse "Success"⟩] session ∧ clause ∈ session.clauses ∧
      ∃ result after exchange, (session.edit "sorry_1" "\n  h /- sorry").heldWith verifier
          [⟨document, .ofResponse "Success"⟩] =
            ((.ok result, after), [⟨document, .ofResponse "Success"⟩, exchange]) ∧
        onFirst (fun clause : Clause => clause.start.line) 2 after.clauses =
          [Clause.place "have_h" .haveProof 1 22 "sorry"] ∧
        onFirst Position.line 2 (placeholders after.document) = [⟨1, 22⟩] := by
  intro document clause verifier session
  have reached : Reached verifier [⟨document, .ofResponse "Success"⟩] session :=
    reached_load verifier ⟨"5e551d01", "1257a9ce"⟩ false document
  have member : clause ∈ session.clauses := by
    show clause ∈ Clause.scan document
    decide +kernel
  obtain ⟨result, after, exchange, held, -, -, clauses, -, -, places⟩ :=
    edit_keeps_front.2 verifier _ session reached clause member "\n  h /- sorry"
  refine ⟨reached, member, result, after, exchange, held, clauses.same.symm.trans ?_,
    places.same.symm.trans ?_⟩
  · show onFirst _ 2 (Clause.scan document) = _
    decide +kernel
  · show onFirst _ 2 (placeholders document) = _
    decide +kernel

end Session
end ProofDesk
