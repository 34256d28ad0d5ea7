import ProofDesk.Proofs.Clause.Range
import ProofDesk.Proofs.Clause.Splice

/-!
# Edits on different lines

An edit replaces one line of a document, by several lines when the new text has line feeds. The lines
above stay where they are, and the lines below move down by the number of these line feeds. So two edits
on different lines may be made in either order, when the lower clause moves down with its line.

* `Clause.movedDown` — a clause some lines further down.
* `count_spliceLine` — a replaced line has the line feeds of the new text, and no others.
* `exists_splice_twice` — two edits that a document takes one by one are taken one after the other, in
  either order, with the same result.
* `splice_comm` — so are any two edits of its clauses on different lines.
-/

namespace ProofDesk
namespace Clause

variable {document line before inside behind new new' updated updated' : Text} {clause first second : Clause}

/-- The clause that many lines further down. -/
def movedDown (clause : Clause) (count : Nat) : Clause :=
  { clause with
    start := ⟨clause.start.line + count, clause.start.column⟩
    stop := ⟨clause.stop.line + count, clause.stop.column⟩ }

/-- **A replaced line has the line feeds of the new text**, and no others. -/
theorem count_spliceLine (single : '\n' ∉ before ++ (inside ++ behind)) (new : Text) :
    (spliceLine before inside behind new).count '\n' = new.count '\n' := by
  simp only [List.mem_append, not_or] at single
  obtain ⟨dropped, kept⟩ := exists_keptPrefix_append before new
  have inFront : '\n' ∉ keptPrefix before new := fun member =>
    single.1 (kept ▸ List.mem_append_left dropped member)
  have glued : '\n' ∉ glue (keptPrefix before new) inside new := by
    unfold glue
    split <;> decide
  rw [spliceLine_eq, List.count_append, List.count_append, List.count_append,
    List.count_eq_zero_of_not_mem inFront, List.count_eq_zero_of_not_mem glued,
    List.count_eq_zero_of_not_mem single.2.2]
  omega

/-- **Two edits one after the other.** When a document takes each of two edits, the upper clause lying on
an earlier line, it takes both in either order, and the results are the same. -/
theorem exists_splice_twice (spliced : first.splice document new = .ok updated)
    (spliced' : second.splice document new' = .ok updated')
    (above : first.start.line < second.start.line) : ∃ both,
      first.splice updated' new = .ok both ∧
        (second.movedDown (new.count '\n')).splice updated new' = .ok both := by
  obtain ⟨sameLine, line, before, inside, behind, found, fits, rfl⟩ := splice_eq_ok.1 spliced
  obtain ⟨sameLine', line', before', inside', behind', found', fits', rfl⟩ := splice_eq_ok.1 spliced'
  have short := (List.getElem?_eq_some_iff.1 found).1
  have short' := (List.getElem?_eq_some_iff.1 found').1
  have feeds : (spliceLine before inside behind new).count '\n' = new.count '\n' := by
    refine count_spliceLine ?_ new
    rw [← (within?_eq_some.1 fits).1]
    exact Text.not_mem_of_mem_lines (List.mem_of_getElem? found)
  obtain ⟨upper, joined⟩ := Text.joinLines_set_above short' above
    (spliceLine before' inside' behind' new') (spliceLine before inside behind new)
  obtain ⟨lower, joined'⟩ := Text.joinLines_set_below short above
    (spliceLine before inside behind new) (spliceLine before' inside' behind' new')
  rw [feeds] at lower joined'
  refine ⟨_, splice_eq_ok.2 ⟨sameLine, line, before, inside, behind, upper.trans found, fits, rfl⟩,
    splice_eq_ok.2 ⟨congrArg (· + new.count '\n') sameLine', line', before', inside', behind',
      lower.trans found', fits', ?_⟩⟩
  rw [joined]
  refine Eq.trans ?_ joined'.symm
  rw [List.set_comm _ _ (Nat.ne_of_gt above)]

/-- **Edits on different lines commute.** Any two clauses of a document on different lines can be
replaced in either order, by any texts: the lower one first, or the upper one first and then the lower
one, moved down by the line feeds of the text that replaced the upper one. All four edits succeed, and
both orders lead to the same document. -/
theorem splice_comm (upper : first ∈ scan document) (lower : second ∈ scan document)
    (above : first.start.line < second.start.line) (new new' : Text) : ∃ updated updated' both,
      second.splice document new' = .ok updated' ∧ first.splice updated' new = .ok both ∧
        first.splice document new = .ok updated ∧
        (second.movedDown (new.count '\n')).splice updated new' = .ok both := by
  obtain ⟨updated, spliced⟩ := exists_splice_of_mem_scan upper new
  obtain ⟨updated', spliced'⟩ := exists_splice_of_mem_scan lower new'
  obtain ⟨both, upperLast, lowerLast⟩ := exists_splice_twice spliced spliced' above
  exact ⟨updated, updated', both, spliced', upperLast, spliced, lowerLast⟩

/-- The proof of a `have` line, which gets two lines of its own, and a placeholder on the line below. -/
theorem splice_comm_two_lines :
    let document := Text.joinLines ["theorem t : True ∧ True := by", "  have h : True := by sorry",
      "  exact ⟨h, sorry⟩"]
    let first := place "have_h" .haveProof 1 22 "sorry"
    let second := place "sorry_1" .placeholder 2 14 Source.sorryWord
    let both := Text.joinLines ["theorem t : True ∧ True := by", "  have h : True := by",
      "    constructor", "    done", "  exact ⟨h, by", "    exact h⟩"]
    first ∈ scan document ∧ second ∈ scan document ∧ first.start.line < second.start.line ∧
      ∃ updated updated', second.splice document "by\n    exact h" = .ok updated' ∧
        first.splice updated' "\n    constructor\n    done" = .ok both ∧
        first.splice document "\n    constructor\n    done" = .ok updated ∧
        (second.movedDown 2).splice updated "by\n    exact h" = .ok both := by
  intro document first second both
  have upper : first ∈ scan document := by decide +kernel
  have lower : second ∈ scan document := by decide +kernel
  have above : first.start.line < second.start.line := by decide
  obtain ⟨updated, updated', result, spliced', upperLast, spliced, lowerLast⟩ :=
    splice_comm upper lower above "\n    constructor\n    done" "by\n    exact h"
  have known : second.splice document "by\n    exact h" = .ok (Text.joinLines
      ["theorem t : True ∧ True := by", "  have h : True := by sorry", "  exact ⟨h, by",
        "    exact h⟩"]) := rfl
  cases known.symm.trans spliced'
  have known' : first.splice (Text.joinLines ["theorem t : True ∧ True := by",
      "  have h : True := by sorry", "  exact ⟨h, by", "    exact h⟩"])
      "\n    constructor\n    done" = .ok both := rfl
  cases known'.symm.trans upperLast
  exact ⟨upper, lower, above, updated, _, spliced', upperLast, spliced, lowerLast⟩

end Clause
end ProofDesk
