import ProofDesk.Proofs.Prover.Generation
import ProofDesk.Proofs.Prover.Statement
import ProofDesk.Proofs.Prover.Turns

/-!
# Under which signature a proof is verified

An attempt is meant to verify every proof under the header of its statement. The header is taken up
to the first proof sign behind the declaration, and a signature may have proof signs of its own: the
default value of a binder has one. Behind it, the signature is the generator's.

* `only_attemptFrom` — the texts that an attempt can have verified.
* `EndsHeader` — the first proof sign of the statement is the one that ends its header.
* `verifies_header_iff` — every text that is verified begins with the header exactly when it is.
* `verified_under_weaker_signature` — a statement with a default value, and a proof of less that
  counts as a success.
-/

namespace ProofDesk
namespace Prover

open Dialogue (Respondent Exchange Only)

variable {config : Config} {statement formalStatement header : Text}

/-! ### Texts that are verified -/

/-- The text of a question to the verifier. -/
def Inquiry.verified? : Inquiry → Option Text
  | .generate _ => none
  | .verify text => some text

/-- The texts that were verified, in order. -/
def verifiedTexts (said : List (Exchange Inquiry Inquiry.Answer)) : List Text :=
  said.filterMap fun exchange => exchange.1.verified?

variable {P : Inquiry → Prop}

theorem only_judge {reading : Reading} (turn : Nat)
    (checks : ∀ code text, reading = .checked code text → P (.verify text)) :
    Only P (judge config turn reading) := by
  cases reading with
  | unparsed => exact .done _
  | unmatched code text => exact .done _
  | checked code text => exact .ask (checks code text rfl) fun report => .done _

/-- **An attempt has nothing verified** but readings of generations under its statement. -/
theorem only_attemptFrom (generates : ∀ turns, P (.generate turns))
    (checks : ∀ generation code text, Reading.ofGeneration statement generation = .checked code text →
      P (.verify text)) (base : List Turn) (turn left : Nat) (talk : Conversation) :
    Only P (attemptFrom config statement base turn left talk) := by
  induction left generalizing turn talk with
  | zero => exact .done _
  | succ left ih =>
    refine .ask (generates _) fun answer => ?_
    cases answer with
    | error error => exact .done _
    | ok generation =>
      refine (only_judge turn (checks generation)).bind fun record => ?_
      dsimp only
      split
      · split
        · exact ih _ _
        · exact .done _
      · exact .done _

/-- What a reading that is verified consists of. -/
theorem exists_signature_of_checked {generation code text : Text}
    (checked : Reading.ofGeneration statement generation = .checked code text) :
    Generation.code? generation = some code ∧ Text.contains Statement.errorMarker text = false ∧
      ∃ name signature proof rest front, Statement.declaredName? statement = some name ∧
        Statement.cutAtProof? name statement = some (signature, rest) ∧
        Statement.cutAtProof? name code = some (front, proof) ∧ text = signature ++ proof := by
  unfold Reading.ofGeneration at checked
  split at checked
  · cases checked
  · next code found =>
    dsimp only at checked
    split at checked
    · cases checked
    · next unmarked =>
      cases checked
      rw [Bool.not_eq_true] at unmarked
      exact ⟨found, unmarked, Statement.imposedText_eq unmarked⟩

/-! ### Headers -/

/-- **The first proof sign behind the declaration ends the header.** A statement under which nothing
can be verified counts too: its name closes every block, or its signature reads as a mismatch. -/
def EndsHeader (header statement : Text) : Prop :=
  ∀ name signature rest, Statement.declaredName? statement = some name →
    Statement.cutAtProof? name statement = some (signature, rest) →
    ¬ Generation.fence <:+: name → ¬ Statement.errorMarker <:+: signature → signature = header

theorem header_prefix_of_checked (ends : EndsHeader header statement) {generation code text : Text}
    (checked : Reading.ofGeneration statement generation = .checked code text) : header <+: text := by
  obtain ⟨found, unmarked, name, signature, proof, rest, front, declared, cut, cutCode, rfl⟩ :=
    exists_signature_of_checked checked
  have unfenced : ¬ Generation.fence <:+: name := fun occurs => Generation.not_infix_of_code? found
    (occurs.trans (Statement.eq_of_cutAtProof? cutCode).2.2)
  have clear : ¬ Statement.errorMarker <:+: signature := by
    intro occurs
    have marked := Text.contains_iff.2 (occurs.trans (List.prefix_append signature proof).isInfix)
    rw [unmarked] at marked
    cases marked
  rw [ends name signature rest declared cut unfenced clear]
  exact List.prefix_append ..

/-- The signature of a cut is part of the header. -/
theorem prefix_header_of_cut {name signature rest : Text}
    (cut : Statement.cutAtProof? name (header ++ Statement.sorryProof) = some (signature, rest)) :
    signature <+: header := by
  obtain ⟨whole, sign, -⟩ := Statement.eq_of_cutAtProof? cut
  rcases List.append_eq_append_iff.1 whole with ⟨middle, rfl, placeholder⟩ | ⟨middle, rfl, -⟩
  · -- What is left of the placeholder would end in a proof sign.
    rcases List.eq_nil_or_concat middle with rfl | ⟨middle, last, rfl⟩
    · exact ⟨[], by simp⟩
    · rw [List.concat_eq_append] at *
      obtain ⟨front, same⟩ := sign
      have ended : (front ++ [':']) ++ ['='] = (header ++ middle) ++ [last] := by
        simpa [Source.proofSign] using same
      obtain ⟨-, last⟩ := List.append_inj' ended rfl
      cases last
      have member : '=' ∈ Statement.sorryProof := by
        rw [placeholder]
        simp
      exact absurd member (by decide)
  · exact List.prefix_append ..

/-! ### A generator that writes no proof -/

/-- A generator that always writes the same, and a verifier that finds nothing wrong. -/
def unchanging (generation : Text) : Respondent Inquiry Inquiry.Answer
  | _, .generate _ => .ok generation
  | _, .verify _ => ⟨[], some [], false, none, false⟩

theorem not_fence_infix_bareDeclaration {name : Text} (unfenced : ¬ Generation.fence <:+: name) :
    ¬ Generation.fence <:+: Statement.bareDeclaration name := by
  intro occurs
  have apart : Statement.bareDeclaration name =
      "theorem".toList ++ ' ' :: (name ++ ' ' :: Source.proofSign) := by
    unfold Statement.bareDeclaration
    rw [List.append_assoc]
    rfl
  rw [apart] at occurs
  rcases Text.infix_of_infix_append_cons (by decide) occurs with keyword | later
  · exact absurd (Text.contains_iff.2 keyword) (by decide)
  · rcases Text.infix_of_infix_append_cons (by decide) later with inside | sign
    · exact unfenced inside
    · exact absurd (Text.contains_iff.2 sign) (by decide)

/-- A declaration without a proof is read as the signature of the statement. -/
theorem ofGeneration_bareDeclaration {name signature rest : Text}
    (declared : Statement.declaredName? statement = some name)
    (cut : Statement.cutAtProof? name statement = some (signature, rest))
    (unfenced : ¬ Generation.fence <:+: name) (clear : ¬ Statement.errorMarker <:+: signature) :
    Reading.ofGeneration statement (Generation.fenced (Statement.bareDeclaration name)) =
      .checked (Statement.bareDeclaration name) signature := by
  obtain ⟨solid, named⟩ := Statement.isNameChar_of_declaredName? declared
  have read : Generation.code? (Generation.fenced (Statement.bareDeclaration name)) =
      some (Statement.bareDeclaration name) :=
    Generation.code?_fenced nofun (Statement.trim_bareDeclaration name)
      (not_fence_infix_bareDeclaration unfenced)
  have imposed : Statement.imposedText statement (Statement.bareDeclaration name) = signature := by
    unfold Statement.imposedText Statement.imposeStatement
    rw [declared]
    dsimp only
    rw [cut]
    dsimp only
    rw [Statement.cutAtProof?_bareDeclaration solid named]
    exact List.append_nil signature
  unfold Reading.ofGeneration
  rw [read]
  dsimp only
  rw [imposed, if_neg (by rwa [Text.contains_iff])]

/-- The first generation is verified when it is read as code under the statement. -/
theorem mem_verifiedTexts_of_checked (valid : config.Valid)
    {generation code text : Text} (checked :
      Reading.ofGeneration (normalStatement formalStatement) generation = .checked code text) :
    text ∈ verifiedTexts
      ((attempt config formalStatement).heldWith (unchanging generation) []).2 := by
  obtain ⟨left, turns⟩ := exists_maxTurns_of_valid valid
  have said : (⟨.verify text, unchanging generation [] (.verify text)⟩ :
      Exchange Inquiry Inquiry.Answer) ∈
        ((attempt config formalStatement).heldWith (unchanging generation) []).2 := by
    unfold attempt
    rw [Dialogue.heldWith_bind, turns]
    refine Dialogue.mem_heldWith _ _ _ ?_
    unfold attemptFrom
    rw [Dialogue.heldWith_bind]
    show _ ∈ (Dialogue.heldWith _ (judge config 0 (Reading.ofGeneration _ generation) >>= _) _).2
    rw [Dialogue.heldWith_bind, checked]
    refine Dialogue.mem_heldWith _ _ _ ?_
    exact List.mem_append_right _ (List.mem_singleton.2 rfl)
  exact List.mem_filterMap.2 ⟨_, said, rfl⟩

/-! ### The signature that is verified -/

theorem only_header_prefixes (ends : EndsHeader header (normalStatement formalStatement))
    (respondent : Respondent Inquiry Inquiry.Answer) {text : Text}
    (member : text ∈ verifiedTexts ((attempt config formalStatement).heldWith respondent []).2) :
    header <+: text := by
  have only : Only (fun question => ∀ text, question.verified? = some text → header <+: text)
      (attempt config formalStatement) := by
    refine (only_attemptFrom (fun _ _ same => nomatch same) ?_ _ _ _ _).bind fun result => .done _
    intro generation code text checked _ same
    cases same
    exact header_prefix_of_checked ends checked
  obtain ⟨exchange, said, asked⟩ := List.mem_filterMap.1 member
  rcases only.heldWith exchange said with before | kind
  · cases before
  · exact kind text asked

/-- **When every proof is verified under the header of its statement**, whatever is generated and
whatever is reported: exactly when no earlier proof sign stands behind the declaration. -/
theorem verifies_header_iff (valid : config.Valid) (formalStatement : Text) :
    ∃ header, Source.proofSign <:+ header ∧
      normalStatement formalStatement = header ++ Statement.sorryProof ∧
      ((∀ respondent : Respondent Inquiry Inquiry.Answer,
          ∀ text ∈ verifiedTexts ((attempt config formalStatement).heldWith respondent []).2,
            header <+: text) ↔
        EndsHeader header (normalStatement formalStatement)) := by
  obtain ⟨header, sign, normal⟩ := Statement.exists_header (Text.trim formalStatement)
  refine ⟨header, sign, normal, fun verifies => ?_, fun ends respondent text member =>
    only_header_prefixes ends respondent member⟩
  intro name signature rest declared cut unfenced clear
  have checked := ofGeneration_bareDeclaration declared cut unfenced clear
  have long := verifies _ signature (mem_verifiedTexts_of_checked valid checked)
  unfold normalStatement at cut
  rw [normal] at cut
  exact List.IsPrefix.eq_of_length_le (prefix_header_of_cut cut) long.length_le

/-- A statement with one proof sign. -/
theorem verifies_header_iff_add_zero :
    Config.standard.Valid ∧ ∃ header, Source.proofSign <:+ header ∧
      normalStatement "theorem add_zero (n : Nat) : n + 0 = n := by simp" =
        header ++ Statement.sorryProof ∧
      ((∀ respondent : Respondent Inquiry Inquiry.Answer,
          ∀ text ∈ verifiedTexts ((attempt Config.standard
            "theorem add_zero (n : Nat) : n + 0 = n := by simp").heldWith respondent []).2,
            header <+: text) ↔
        EndsHeader header (normalStatement "theorem add_zero (n : Nat) : n + 0 = n := by simp")) :=
  ⟨Config.valid_standard, verifies_header_iff Config.valid_standard _⟩

/-- **A proof of less is a success.** The statement is about the default value `5`, and what is
verified instead of it is any other statement with the same beginning. -/
theorem verified_under_weaker_signature :
    let held := (attempt Config.standard "theorem t (n : Nat := 5) : n = 6 := by sorry").heldWith
      (unchanging "```lean\ntheorem t (n : Nat := 5) : True := by\n  trivial\n```") []
    normalStatement "theorem t (n : Nat := 5) : n = 6 := by sorry" =
        "theorem t (n : Nat := 5) : n = 6 :=" ++ Statement.sorryProof ∧
      (∃ attempt, held.1 = .ok attempt ∧ attempt.success = true) ∧
      verifiedTexts held.2 = ["theorem t (n : Nat := 5) : True := by\n  trivial".toList] ∧
      ¬ "theorem t (n : Nat := 5) : n = 6 :=".toList <+:
        "theorem t (n : Nat := 5) : True := by\n  trivial".toList := by
  exact ⟨by decide, ⟨_, rfl, by decide⟩, by decide, by decide⟩

/-- A header with one proof sign is the signature of every proof. -/
theorem verifies_header_of_one_sign
    (normal : normalStatement formalStatement = header ++ Statement.sorryProof)
    (one : ∀ before behind, header = before ++ Source.proofSign ++ behind → behind = [])
    (respondent : Respondent Inquiry Inquiry.Answer) :
    ∀ text ∈ verifiedTexts ((attempt config formalStatement).heldWith respondent []).2,
      header <+: text := by
  intro text member
  refine only_header_prefixes (fun name signature rest _ cut _ _ => ?_) respondent member
  rw [normal] at cut
  obtain ⟨before, sign⟩ := (Statement.eq_of_cutAtProof? cut).2.1
  obtain ⟨behind, whole⟩ := prefix_header_of_cut cut
  have last := one before behind (by rw [sign, whole])
  rw [← whole, last, List.append_nil]

end Prover
end ProofDesk
