import ProofDesk.Proofs.Clause.Stage

/-!
# Where clauses come from

A line holds its clauses by one of five rules. What a rule asks of the line, and the clause that it makes,
is stated here once, so that a fact about all clauses of a line is proved rule by rule.

* `Origin` — the five rules.
* `origin_of_mem` — every clause of a line comes from one of them.
* `trim_content` — what a clause holds is trimmed.
-/

namespace ProofDesk
namespace Clause

open Source (byWord scanLine sorryWord tacticSign)
open Text (allBlank size)

variable {stage : Stage} {n : Nat} {line : Text} {clause : Clause}

/-- **The rule that a clause of a line comes from**, and what it asks of the line. -/
inductive Origin (stage : Stage) (n : Nat) (line : Text) : Clause → Prop
  /-- A placeholder of the line. -/
  | placeholder (k : Nat) {column : Nat} (reported : column ∈ (scanLine stage.depth line).sorries) :
      Origin stage n line (place (numberedId .placeholder k) .placeholder n column sorryWord)
  /-- What stands behind the `:= by` of a header. -/
  | mainProof {before rest : Text}
      (entered : stage.context.enter (scanLine stage.depth line).code = .header)
      (opens : Text.breakOn? tacticSign (scanLine stage.depth line).code = some (before, rest))
      (solid : (trimmedAt (size before + size tacticSign) rest).2 ≠ []) :
      Origin stage n line (place (numberedId .mainProof stage.taken.length) .mainProof n
        (trimmedAt (size before + size tacticSign) rest).1
        (trimmedAt (size before + size tacticSign) rest).2)
  /-- The proof of a `have` line. -/
  | haveProof {fact : HaveLine}
      (entered : stage.context.enter (scanLine stage.depth line).code = .proof)
      (found : HaveLine.ofCode? (scanLine stage.depth line).code = some fact) :
      Origin stage n line (place (freshId ("have_" ++ fact.name) stage.taken) .haveProof n
        (trimmedAt (size (scanLine stage.depth line).code - size fact.proof) fact.proof).1
        (trimmedAt (size (scanLine stage.depth line).code - size fact.proof) fact.proof).2)
  /-- What stands behind `by` at the beginning of a line. -/
  | tacticBlock {inside : Text}
      (entered : stage.context.enter (scanLine stage.depth line).code = .proof)
      (found : Text.after? (byWord ++ [' ']) (Text.trim (scanLine stage.depth line).code) =
        some inside) :
      Origin stage n line (place (numberedId .tacticBlock stage.taken.length) .tacticBlock n
        (trimmedAt (size (Text.indentation (scanLine stage.depth line).code) + 3)
          ((Text.trimStart (scanLine stage.depth line).code).drop 3)).1
        (trimmedAt (size (Text.indentation (scanLine stage.depth line).code) + 3)
          ((Text.trimStart (scanLine stage.depth line).code).drop 3)).2)
  /-- A whole line of a proof. -/
  | line {category : Category} (whole : category = .tactic ∨ category = .proofLine)
      (entered : stage.context.enter (scanLine stage.depth line).code = .proof) :
      Origin stage n line (place (numberedId category stage.taken.length) category n
        (trimmedAt (size (Text.indentation (scanLine stage.depth line).code))
          (line.drop (Text.indentation (scanLine stage.depth line).code).length)).1
        (trimmedAt (size (Text.indentation (scanLine stage.depth line).code))
          (line.drop (Text.indentation (scanLine stage.depth line).code).length)).2)

theorem origin_of_mem_placeholderClauses {count : Nat} {columns : List Nat}
    (reported : columns ⊆ (scanLine stage.depth line).sorries)
    (member : clause ∈ placeholderClauses count n columns) : Origin stage n line clause := by
  obtain ⟨⟨column, k⟩, inside, rfl⟩ := List.mem_map.1 member
  exact .placeholder _ (reported (List.fst_mem_of_mem_zipIdx inside))

theorem origin_of_mem_headerClauses
    (entered : stage.context.enter (scanLine stage.depth line).code = .header)
    (member : clause ∈ (headerClauses stage.taken.length n (scanLine stage.depth line)).2) :
    Origin stage n line clause := by
  unfold headerClauses at member
  split at member
  · next before rest opens =>
    dsimp only at member
    split at member
    · dsimp only at member
      split at member
      · cases member
      · next solid =>
        obtain rfl := List.mem_singleton.1 member
        exact .mainProof entered opens solid
    · exact origin_of_mem_placeholderClauses List.filter_sublist.subset member
  · split at member
    · exact origin_of_mem_placeholderClauses (List.Subset.refl _) member
    · cases member

theorem origin_of_mem_proofClauses
    (entered : stage.context.enter (scanLine stage.depth line).code = .proof)
    (member : clause ∈ proofClauses stage.taken n line (scanLine stage.depth line)) :
    Origin stage n line clause := by
  unfold proofClauses at member
  dsimp only at member
  split at member
  · next fact found =>
    obtain rfl := List.mem_singleton.1 member
    exact .haveProof entered found
  · split at member
    · split at member
      · next inside found =>
        obtain rfl := List.mem_singleton.1 member
        exact .tacticBlock entered found
      · obtain rfl := List.mem_singleton.1 member
        refine .line ?_ entered
        split
        · exact .inl rfl
        · exact .inr rfl
    · exact origin_of_mem_placeholderClauses (List.Subset.refl _) member

/-- **Every clause of a line comes from one of the rules.** -/
theorem origin_of_mem (member : clause ∈ stage.clausesOf n line) : Origin stage n line clause := by
  unfold Stage.clausesOf lineClauses at member
  split at member
  · split at member
    · cases member
    · next entered => exact origin_of_mem_headerClauses entered member
    · next entered => exact origin_of_mem_proofClauses entered member
  · cases member

/-! ### Trimmed contents -/

theorem trim_trimmedAt (column : Nat) (segment : Text) :
    Text.trim (trimmedAt column segment).2 = (trimmedAt column segment).2 := by
  unfold trimmedAt
  split
  · rfl
  · exact Text.trim_idem segment

theorem trimmedAt_eq_nil {column : Nat} {segment : Text} :
    (trimmedAt column segment).2 = [] ↔ allBlank segment = true := by
  unfold trimmedAt
  split
  · next blank => exact iff_of_true rfl blank
  · exact Text.trim_eq_nil

/-- **What a clause holds is trimmed.** -/
theorem Origin.trim_content (origin : Origin stage n line clause) :
    Text.trim clause.content = clause.content := by
  cases origin with
  | placeholder k reported =>
    show Text.trim sorryWord = sorryWord
    decide
  | mainProof entered opens solid => exact trim_trimmedAt ..
  | haveProof entered found => exact trim_trimmedAt ..
  | tacticBlock entered found => exact trim_trimmedAt ..
  | line whole entered => exact trim_trimmedAt ..

end Clause
end ProofDesk
