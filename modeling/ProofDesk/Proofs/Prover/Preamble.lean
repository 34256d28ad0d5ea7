import ProofDesk.Proofs.Prover.Signature
import ProofDesk.Proofs.Text.Piece

/-!
# Statements with a preamble

What is to be proved stands at the end of a formal statement, behind imports, definitions and lemmas
with proofs of their own. The statement is cut at the first tactic sign that it has, and this sign need
not be the one of the theorem.

* `Stated` — a preamble, a signature and a proof make up a formal statement.
* `breakOn?_statement` — what begins with a proof sign is found behind the signature, or in the preamble.
* `refineBySorry_of_clear` and `refineBySorry_of_early` — the theorem is kept, or a helper is put in its
  place.
* `refineBySorry_keeps_iff` — the theorem is kept exactly when the preamble has no tactic sign, and then
  prompts and verified texts are about it.
* `not_refineBySorry_keeps` — a lemma in the preamble is proved instead of the theorem.
-/

namespace ProofDesk
namespace Prover

open Dialogue (Respondent)
open Statement (refineBySorry)

variable {preamble signature proof more rest before behind : Text} {config : Config}

/-- **A formal statement**: a preamble of whole lines, a signature without a proof sign at the beginning
of its line, and a tactic proof that does not end in a blank. -/
structure Stated (preamble signature proof : Text) : Prop where
  wholeLines : ∀ c, preamble.getLast? = some c → c = '\n'
  begins : ∃ c, signature.head? = some c ∧ Text.isBlank c = false
  single : ¬ Source.proofSign <:+: signature
  ends : ∃ c, proof.getLast? = some c ∧ Text.isBlank c = false

/-- The text of a formal statement. -/
def statementOf (preamble signature proof : Text) : Text :=
  preamble ++ (signature ++ (Source.tacticSign ++ proof))

/-- The text of a formal statement with a placeholder for the proof. -/
def refinedOf (preamble signature : Text) : Text := statementOf preamble signature " sorry"

/-! ### The first sign -/

/-- Behind a signature without a proof sign, what begins with one is found at once. -/
theorem breakOn?_signature (single : ¬ Source.proofSign <:+: signature) (more rest : Text) :
    Text.breakOn? (Source.proofSign ++ more) (signature ++ (Source.proofSign ++ more ++ rest)) =
      some (signature, rest) := by
  refine Text.breakOn?_eq_some.2 ⟨(List.append_assoc ..).symm, fun front tail occurs => ?_⟩
  rw [List.append_assoc front] at occurs
  rcases List.append_eq_append_iff.1 occurs with ⟨gap, rfl, -⟩ | ⟨gap, rfl, reaches⟩
  · rw [List.length_append]
    exact Nat.le_add_right ..
  · -- An earlier occurrence would lie in the signature, or begin at its last colon.
    cases gap with
    | nil => simp
    | cons c gap =>
      obtain ⟨rfl, second⟩ := List.cons.inj reaches
      cases gap with
      | nil => cases (List.cons.inj second).1
      | cons d gap =>
        obtain ⟨rfl, -⟩ := List.cons.inj second
        exact absurd ⟨front, gap, by simp [Source.proofSign]⟩ single

/-- **What begins with a proof sign** is found behind the signature, unless it stands in the preamble,
where nothing behind it matters. -/
theorem breakOn?_statement (stated : Stated preamble signature proof)
    (single : '\n' ∉ Source.proofSign ++ more) (rest : Text) :
    Text.breakOn? (Source.proofSign ++ more)
        (preamble ++ (signature ++ (Source.proofSign ++ more ++ rest))) =
      ((Text.breakOn? (Source.proofSign ++ more) preamble).map fun cut =>
          (cut.1, cut.2 ++ (signature ++ (Source.proofSign ++ more ++ rest)))).or
        (some (preamble ++ signature, rest)) := by
  have own := breakOn?_signature stated.single more rest
  rcases List.eq_nil_or_concat preamble with rfl | ⟨front, last, rfl⟩
  · rw [List.nil_append, own]
    rfl
  · obtain rfl : last = '\n' := stated.wholeLines last (by simp)
    have solid : Source.proofSign ++ more ≠ [] := nofun
    have misses := fun rest => Text.misses_of_not_mem single front rest
    have line := Text.breakOn?_of_misses solid (misses [])
    have whole := Text.breakOn?_of_misses solid
      (misses (signature ++ (Source.proofSign ++ more ++ rest)))
    rw [List.concat_eq_append, List.append_assoc, List.singleton_append, whole, line, own]
    have nothing : Text.breakOn? (Source.proofSign ++ more) [] = none := rfl
    cases Text.breakOn? (Source.proofSign ++ more) front with
    | some cut => simp
    | none => simp [nothing]

/-! ### Refined statements -/

theorem trimEnd_statementOf (stated : Stated preamble signature proof) :
    Text.trimEnd (statementOf preamble signature proof) = statementOf preamble signature proof := by
  obtain ⟨c, last, visible⟩ := stated.ends
  refine Text.trimEnd_eq_self fun d found => ?_
  rw [statementOf, List.getLast?_append, List.getLast?_append, List.getLast?_append, last] at found
  cases found
  exact visible

/-- A statement that ends in no blank is cut at its first tactic sign. -/
theorem refineBySorry_of_cut {statement front : Text}
    (trimmed : Text.trimEnd statement = statement)
    (cut : Text.breakOn? Source.tacticSign statement = some (front, rest)) :
    refineBySorry statement = front ++ Source.tacticSign ++ " sorry" := by
  unfold refineBySorry
  rw [trimmed]
  dsimp only
  rw [cut]

/-- The first tactic sign of a formal statement. -/
theorem breakOn?_statementOf (stated : Stated preamble signature proof) :
    Text.breakOn? Source.tacticSign (statementOf preamble signature proof) =
      ((Text.breakOn? Source.tacticSign preamble).map fun cut =>
          (cut.1, cut.2 ++ (signature ++ (Source.tacticSign ++ proof)))).or
        (some (preamble ++ signature, proof)) :=
  breakOn?_statement stated (by decide) proof

/-- **The theorem is kept** when no tactic sign stands in the preamble. -/
theorem refineBySorry_of_clear (stated : Stated preamble signature proof)
    (clear : ¬ Source.tacticSign <:+: preamble) :
    refineBySorry (statementOf preamble signature proof) = refinedOf preamble signature := by
  have cut := breakOn?_statementOf stated
  rw [Text.breakOn?_eq_none.2 clear] at cut
  rw [refineBySorry_of_cut (trimEnd_statementOf stated) cut, refinedOf, statementOf,
    List.append_assoc, List.append_assoc]

/-- **A helper is put in the place of the theorem** when a tactic sign stands in the preamble. -/
theorem refineBySorry_of_early (stated : Stated preamble signature proof)
    (early : Text.breakOn? Source.tacticSign preamble = some (before, behind)) :
    refineBySorry (statementOf preamble signature proof) =
      before ++ Source.tacticSign ++ " sorry" := by
  have cut := breakOn?_statementOf stated
  rw [early] at cut
  exact refineBySorry_of_cut (trimEnd_statementOf stated) cut

/-! ### Attempts at a refined statement -/

/-- A statement without the blanks at its beginning is one with a shorter preamble. -/
theorem Stated.trimStart (stated : Stated preamble signature proof) :
    Stated (Text.trimStart preamble) signature proof where
  wholeLines := by
    intro c last
    obtain ⟨front, whole⟩ := Text.trimStart_suffix preamble
    refine stated.wholeLines c ?_
    rw [← whole, List.getLast?_append, last]
    rfl
  begins := stated.begins
  single := stated.single
  ends := stated.ends

theorem trim_statementOf (stated : Stated preamble signature proof) :
    Text.trim (statementOf preamble signature proof) =
      statementOf (Text.trimStart preamble) signature proof := by
  obtain ⟨c, first, visible⟩ := stated.begins
  obtain ⟨others, rfl⟩ := List.head?_eq_some_iff.1 first
  have start : Text.trimStart (statementOf preamble (c :: others) proof) =
      statementOf (Text.trimStart preamble) (c :: others) proof :=
    Text.trimStart_append_cons visible preamble _
  rw [Text.trim, start, trimEnd_statementOf stated.trimStart]

/-- What an attempt is about, when no tactic sign stands in the preamble. -/
theorem normalStatement_of_clear (stated : Stated preamble signature proof)
    (clear : ¬ Source.tacticSign <:+: preamble) :
    normalStatement (statementOf preamble signature proof) =
      refinedOf (Text.trimStart preamble) signature := by
  rw [normalStatement, trim_statementOf stated]
  exact refineBySorry_of_clear stated.trimStart fun occurs =>
    clear (occurs.trans (Text.trimStart_suffix preamble).isInfix)

/-- **The prompt has the theorem** with a placeholder for its proof. -/
theorem exists_prompt_of_clear (stated : Stated preamble signature proof)
    (clear : ¬ Source.tacticSign <:+: preamble) (valid : config.Valid) :
    ∃ prompt, ⟨.user, prompt⟩ ∈
        config.initialTurns (normalStatement (statementOf preamble signature proof)) ∧
      refinedOf (Text.trimStart preamble) signature <:+: prompt := by
  have sorried : Stated preamble signature " sorry" :=
    ⟨stated.wholeLines, stated.begins, stated.single, 'y', by decide, by decide⟩
  refine ⟨_, List.mem_append_right _ (List.mem_singleton.2 rfl), ?_⟩
  have idle : Text.trim (refinedOf (Text.trimStart preamble) signature) =
      refinedOf (Text.trimStart preamble) signature := by
    rw [refinedOf, ← trim_statementOf sorried, Text.trim_idem]
  obtain ⟨-, -, -, hole, -⟩ := Config.valid_iff.1 valid
  rw [normalStatement_of_clear stated clear, idle]
  exact Text.infix_replaceAll (by decide) _ (Text.contains_iff.1 hole)

/-- Behind a preamble without a proof sign, the one that ends the signature is the first. -/
theorem eq_nil_of_sign (stated : Stated preamble signature proof)
    (clear : ¬ Source.proofSign <:+: preamble)
    (occurs : preamble ++ signature ++ Source.proofSign = before ++ Source.proofSign ++ behind) :
    behind = [] := by
  have cut := breakOn?_statement stated (by decide : '\n' ∉ Source.proofSign ++ []) []
  simp only [List.append_nil] at cut
  rw [Text.breakOn?_eq_none.2 clear] at cut
  -- The occurrence is no earlier than the first one, which ends with the header.
  have first := Text.length_le_of_breakOn? cut ((List.append_assoc ..).symm.trans occurs)
  have lengths := congrArg List.length occurs
  simp only [List.length_append] at lengths first
  exact List.eq_nil_of_length_eq_zero (by omega)

/-- **Every text that is verified has the signature of the theorem** when no proof sign stands in the
preamble. -/
theorem prefix_of_mem_verifiedTexts (stated : Stated preamble signature proof)
    (clear : ¬ Source.proofSign <:+: preamble) (respondent : Respondent Inquiry Inquiry.Answer) :
    ∀ text ∈ verifiedTexts
        ((attempt config (statementOf preamble signature proof)).heldWith respondent []).2,
      Text.trimStart preamble ++ signature ++ Source.proofSign <+: text := by
  have noTactic : ¬ Source.tacticSign <:+: preamble := fun occurs =>
    clear ((List.prefix_append ..).isInfix.trans occurs)
  have noSign : ¬ Source.proofSign <:+: Text.trimStart preamble := fun occurs =>
    clear (occurs.trans (Text.trimStart_suffix preamble).isInfix)
  refine verifies_header_of_one_sign ?_ (fun _ _ => eq_nil_of_sign stated.trimStart noSign) respondent
  rw [normalStatement_of_clear stated noTactic]
  simp only [refinedOf, statementOf, List.append_assoc]
  rfl

/-! ### Whether the theorem is kept -/

/-- A helper in the place of the theorem is a shorter statement. -/
theorem ne_refinedOf_of_early (early : Text.breakOn? Source.tacticSign preamble = some (before, behind)) :
    before ++ Source.tacticSign ++ " sorry" ≠ refinedOf preamble signature := by
  intro same
  rw [Text.eq_of_breakOn? early] at same
  have lengths := congrArg List.length same
  have sign : Source.tacticSign.length = 5 := rfl
  simp only [refinedOf, statementOf, List.length_append] at lengths
  omega

/-- **When a statement keeps its theorem**: exactly when no tactic sign stands in the preamble. Then
every prompt has the theorem, and so has every text that is verified when the preamble has no other
proof sign either. Otherwise the statement ends behind the first tactic sign of the preamble. -/
theorem refineBySorry_keeps_iff (stated : Stated preamble signature proof) :
    (refineBySorry (statementOf preamble signature proof) = refinedOf preamble signature ↔
      ¬ Source.tacticSign <:+: preamble) ∧
    (∀ before behind, Text.breakOn? Source.tacticSign preamble = some (before, behind) →
      refineBySorry (statementOf preamble signature proof) =
        before ++ Source.tacticSign ++ " sorry") ∧
    (¬ Source.tacticSign <:+: preamble → ∀ config : Config, config.Valid →
      ∃ prompt, ⟨.user, prompt⟩ ∈
          config.initialTurns (normalStatement (statementOf preamble signature proof)) ∧
        refinedOf (Text.trimStart preamble) signature <:+: prompt) ∧
    (¬ Source.proofSign <:+: preamble → ∀ (config : Config)
      (respondent : Respondent Inquiry Inquiry.Answer),
      ∀ text ∈ verifiedTexts
          ((attempt config (statementOf preamble signature proof)).heldWith respondent []).2,
        Text.trimStart preamble ++ signature ++ Source.proofSign <+: text) := by
  refine ⟨⟨fun kept occurs => ?_, refineBySorry_of_clear stated⟩,
    fun before behind early => refineBySorry_of_early stated early,
    fun clear config valid => exists_prompt_of_clear stated clear valid,
    fun clear config respondent => prefix_of_mem_verifiedTexts stated clear respondent⟩
  obtain ⟨⟨before, behind⟩, early⟩ := Option.isSome_iff_exists.1 (Text.contains_iff.2 occurs)
  rw [refineBySorry_of_early stated early] at kept
  exact ne_refinedOf_of_early early kept

/-- A theorem behind an import and a definition by a term. -/
theorem refineBySorry_keeps_behind_definition :
    let preamble : Text := "import Mathlib\n\ndef two : Nat := 2\n"
    let signature : Text := "theorem t : two + two = 4 "
    Stated preamble signature " rfl" ∧ ¬ Source.tacticSign <:+: preamble ∧
    refineBySorry (statementOf preamble signature " rfl") = refinedOf preamble signature := by
  intro preamble signature
  have stated : Stated preamble signature " rfl" := {
    wholeLines := fun _ last => (Option.some.inj last).symm
    begins := ⟨'t', rfl, by decide⟩
    single := fun occurs => absurd (Text.contains_iff.2 occurs) (by decide)
    ends := ⟨'l', rfl, by decide⟩ }
  have clear : ¬ Source.tacticSign <:+: preamble :=
    fun occurs => absurd (Text.contains_iff.2 occurs) (by decide)
  exact ⟨stated, clear, (refineBySorry_keeps_iff stated).1.2 clear⟩

/-- **A lemma is proved instead of the theorem**, which is false: the preamble has a tactic sign, the
statement ends behind it, and the only text that is verified is the lemma. -/
theorem not_refineBySorry_keeps :
    let preamble : Text := "lemma two : 1 + 1 = 2 := by norm_num\n"
    let signature : Text := "theorem t : 2 + 2 = 5 "
    let statement : Text :=
      "lemma two : 1 + 1 = 2 := by norm_num\ntheorem t : 2 + 2 = 5 := by sorry"
    let held := (attempt Config.standard statement).heldWith
      (unchanging "```lean4\nlemma two : 1 + 1 = 2 := by norm_num\n```") []
    Stated preamble signature " sorry" ∧ statementOf preamble signature " sorry" = statement ∧
      refineBySorry statement ≠ refinedOf preamble signature ∧
      refineBySorry statement = "lemma two : 1 + 1 = 2 := by sorry".toList ∧
      (∃ attempt, held.1 = .ok attempt ∧ attempt.success = true) ∧
      verifiedTexts held.2 = ["lemma two : 1 + 1 = 2 := by norm_num".toList] := by
  refine ⟨?_, by decide, by decide, by decide, ⟨_, rfl, by decide⟩, by decide⟩
  exact {
    wholeLines := fun _ last => (Option.some.inj last).symm
    begins := ⟨'t', rfl, by decide⟩
    single := fun occurs => absurd (Text.contains_iff.2 occurs) (by decide)
    ends := ⟨'y', rfl, by decide⟩ }

end Prover
end ProofDesk
