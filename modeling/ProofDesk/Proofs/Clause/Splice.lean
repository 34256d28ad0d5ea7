import ProofDesk.Clause.Splice
import ProofDesk.Proofs.Clause.Span

/-!
# Replacing a scanned clause

* `splice_of_onLine` — a clause that lies on a line of the document is replaced there.
* `exists_splice_of_mem_scan` — no scanned clause is ever refused.
-/

namespace ProofDesk
namespace Clause

open Text (size)

variable {document line : Text} {clause : Clause}

/-- **The span of a clause on a line is replaced in that line**, and nowhere else. -/
theorem splice_of_onLine (found : (Text.lines document)[clause.start.line]? = some line)
    (lies : OnLine clause.start.line line clause) (new : Text) :
    ∃ before behind, line = before ++ clause.content ++ behind ∧
      size before = clause.start.column ∧
      clause.splice document new = .ok (Text.joinLines ((Text.lines document).set
        clause.start.line (spliceLine before clause.content behind new))) := by
  obtain ⟨before, behind, whole, sized, cut⟩ := lies.within?
  refine ⟨before, behind, whole, sized, ?_⟩
  have sameLine : clause.start.line = clause.stop.line := by rw [lies.stop]
  have passes : (guard (clause.start.line = clause.stop.line) : Option Unit) = some () :=
    if_pos sameLine
  have inDocument : (do
      guard (clause.start.line = clause.stop.line)
      clause.within? (← (Text.lines document)[clause.start.line]?)) =
        some (before, clause.content, behind) := by
    rw [found, passes]
    exact cut
  unfold Clause.splice
  dsimp only
  rw [inDocument]

/-- **A scanned clause is never refused**, whatever it is replaced by. -/
theorem exists_splice_of_mem_scan (member : clause ∈ scan document) (new : Text) :
    ∃ updated, clause.splice document new = .ok updated := by
  obtain ⟨line, found, lies⟩ := exists_onLine_of_mem_scan member
  obtain ⟨before, behind, -, -, updated⟩ := splice_of_onLine found lies new
  exact ⟨_, updated⟩

end Clause
end ProofDesk
