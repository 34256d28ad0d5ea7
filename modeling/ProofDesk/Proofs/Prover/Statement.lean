import ProofDesk.Prover.Statement
import ProofDesk.Proofs.Source.Declaration
import ProofDesk.Proofs.Text.Search

/-!
# Signatures and proofs of a statement

* `exists_header` — a refined statement is a header that ends in a proof sign, and a placeholder.
* `eq_of_cutAtProof?` — a cut has two sides, the first of which ends in a proof sign.
* `cutAtProof?_bareDeclaration` — a declaration without a proof is cut at its end.
* `imposedText_eq` — a text without the marker of a mismatch is a signature and a proof.
-/

namespace ProofDesk
namespace Statement

variable {name statement code t signature proof : Text}

/-! ### Headers -/

/-- What a refined statement has behind its proof sign. -/
def sorryProof : Text := " by sorry"

/-- **A refined statement is a header with a placeholder**, the header ending in a proof sign. -/
theorem exists_header (statement : Text) :
    ∃ header, Source.proofSign <:+ header ∧ refineBySorry statement = header ++ sorryProof := by
  unfold refineBySorry
  extract_lets statement
  split
  · next front _ _ =>
    refine ⟨front ++ Source.proofSign, List.suffix_append .., ?_⟩
    rw [Source.tacticSign, ← List.append_assoc, List.append_assoc]
    rfl
  · split
    · next front _ _ => exact ⟨front ++ Source.proofSign, List.suffix_append .., rfl⟩
    · refine ⟨statement ++ ' ' :: Source.proofSign, ⟨statement ++ [' '], by simp⟩, ?_⟩
      rw [List.append_assoc]
      rfl

/-! ### Cuts -/

theorem eq_of_splitAtLine? {p : Text → Bool} {atStart : Bool} {front rest : Text}
    (found : splitAtLine? p atStart t = some (front, rest)) : t = front ++ rest ∧ p rest = true := by
  induction t generalizing atStart front with
  | nil =>
    unfold splitAtLine? at found
    split at found
    · next here =>
      cases found
      exact ⟨rfl, (Bool.and_eq_true_iff.1 here).2⟩
    · cases found
  | cons c t ih =>
    unfold splitAtLine? at found
    split at found
    · next here =>
      cases found
      exact ⟨rfl, (Bool.and_eq_true_iff.1 here).2⟩
    · obtain ⟨sides, deeper, same⟩ := Option.map_eq_some_iff.1 found
      cases same
      obtain ⟨rfl, here⟩ := ih deeper
      exact ⟨rfl, here⟩

theorem splitAtLine?_of_here {p : Text → Bool} (here : p t = true) :
    splitAtLine? p true t = some ([], t) := by
  cases t <;> simp [splitAtLine?, here]

/-- A text that declares a name has the name. -/
theorem infix_of_declaresHere (here : declaresHere name t = true) : name <:+: t := by
  obtain ⟨rest, found, -⟩ := (Option.any_eq_true ..).1 here
  obtain ⟨behind, keyword, named⟩ := Option.bind_eq_some_iff.1 found
  have part : name <:+: behind := ⟨[], rest, (Text.after?_eq_some.1 named).symm⟩
  have suffix := (Source.suffix_of_afterKeyword? keyword).trans (Text.trimStart_suffix t)
  exact part.trans suffix.isInfix

/-- **A cut has two sides**: the signature ends in a proof sign, and the text has the name. -/
theorem eq_of_cutAtProof? (cut : cutAtProof? name t = some (signature, proof)) :
    t = signature ++ proof ∧ Source.proofSign <:+ signature ∧ name <:+: t := by
  obtain ⟨⟨front, rest⟩, split, cut⟩ := Option.bind_eq_some_iff.1 cut
  obtain ⟨⟨before, behind⟩, broken, same⟩ := Option.bind_eq_some_iff.1 cut
  cases same
  obtain ⟨rfl, here⟩ := eq_of_splitAtLine? split
  refine ⟨?_, List.suffix_append .., ?_⟩
  · rw [Text.eq_of_breakOn? broken]
    simp
  · exact (infix_of_declaresHere here).trans (List.suffix_append ..).isInfix

/-- A declared name is not empty and has only characters of names. -/
theorem isNameChar_of_declaredName? (declared : declaredName? t = some name) :
    name ≠ [] ∧ ∀ c ∈ name, Source.isNameChar c = true := by
  obtain ⟨⟨front, rest⟩, -, found⟩ := Option.bind_eq_some_iff.1 declared
  obtain ⟨⟨name, behind⟩, named, rfl⟩ := Option.map_eq_some_iff.1 found
  exact Source.isNameChar_of_nameHere? named

/-! ### Declarations without a proof -/

/-- The declaration of a name with nothing before and nothing behind the proof sign. -/
def bareDeclaration (name : Text) : Text := "theorem " ++ name ++ " :="

variable (solid : name ≠ []) (named : ∀ c ∈ name, Source.isNameChar c = true)

theorem trim_bareDeclaration (name : Text) :
    Text.trim (bareDeclaration name) = bareDeclaration name := by
  have start : Text.trimStart (bareDeclaration name) = bareDeclaration name := rfl
  have ends : (bareDeclaration name).getLast? = some '=' := by
    unfold bareDeclaration
    rw [List.getLast?_append]
    rfl
  rw [Text.trim, start]
  refine Text.trimEnd_eq_self fun c last => ?_
  rw [ends] at last
  cases last
  decide

include solid named in
theorem declaresHere_bareDeclaration : declaresHere name (bareDeclaration name) = true := by
  obtain ⟨c, rest, rfl⟩ := List.exists_cons_of_ne_nil solid
  have visible := Source.isBlank_eq_false_of_isNameChar (named c (List.mem_cons_self ..))
  have start : Text.trimStart (bareDeclaration (c :: rest)) = bareDeclaration (c :: rest) := rfl
  have keyword : Source.afterKeyword? (bareDeclaration (c :: rest)) =
      some (c :: rest ++ " :=".toList) := by
    show some (Text.trimStart (' ' :: (c :: rest ++ " :=".toList))) = _
    simp [Text.trimStart, List.dropWhile, visible, show Text.isBlank ' ' = true by decide]
  unfold declaresHere
  rw [start, keyword, Option.bind_some, Text.after?_eq_some.2 rfl]
  decide

include solid named in
/-- **A declaration without a proof is cut at its end.** -/
theorem cutAtProof?_bareDeclaration :
    cutAtProof? name (bareDeclaration name) = some (bareDeclaration name, []) := by
  have new : ':' ∉ "theorem ".toList ++ name ++ [' '] := by
    intro member
    rcases List.mem_append.1 member with front | space
    · rcases List.mem_append.1 front with keyword | inside
      · exact absurd keyword (by decide)
      · exact Source.ne_colon_of_isNameChar (named _ inside) rfl
    · exact absurd space (by decide)
  have broken : Text.breakOn? Source.proofSign (bareDeclaration name) =
      some ("theorem ".toList ++ name ++ [' '], []) := by
    have whole : bareDeclaration name = ("theorem ".toList ++ name ++ [' ']) ++ Source.proofSign :=
      (List.append_assoc _ [' '] Source.proofSign).symm
    rw [whole]
    exact Text.breakOn?_append_cons new
  unfold cutAtProof?
  rw [splitAtLine?_of_here (declaresHere_bareDeclaration solid named)]
  show (Text.breakOn? Source.proofSign (bareDeclaration name)).bind _ = _
  rw [broken]
  show some (_ ++ Source.proofSign, []) = _
  rw [List.nil_append, List.append_assoc]
  rfl

/-! ### Imposed texts -/

theorem contains_errorMarker_message (mismatch : Mismatch) :
    Text.contains errorMarker mismatch.message = true := by
  refine Text.contains_iff.2 (List.IsPrefix.isInfix ?_)
  cases mismatch with
  | noDeclaration => exact List.prefix_append ..
  | noProofSign name =>
    rw [Mismatch.message, List.append_assoc, List.append_assoc]
    exact List.prefix_append ..
  | notDeclared name =>
    rw [Mismatch.message, List.append_assoc, List.append_assoc]
    exact List.prefix_append ..

/-- **A text without the marker of a mismatch** is the signature of the statement and the proof of
the code. -/
theorem imposedText_eq (unmarked : Text.contains errorMarker (imposedText statement code) = false) :
    ∃ name signature proof rest front, declaredName? statement = some name ∧
      cutAtProof? name statement = some (signature, rest) ∧
      cutAtProof? name code = some (front, proof) ∧
      imposedText statement code = signature ++ proof := by
  unfold imposedText at unmarked ⊢
  cases imposed : imposeStatement statement code with
  | error mismatch =>
    rw [imposed] at unmarked
    exact absurd (contains_errorMarker_message mismatch) (by rw [unmarked]; decide)
  | ok text =>
    unfold imposeStatement at imposed
    split at imposed
    · cases imposed
    · next name declared =>
      split at imposed
      · cases imposed
      · next signature rest cut =>
        split at imposed
        · cases imposed
        · next front proof cutCode =>
          cases imposed
          exact ⟨name, signature, proof, rest, front, declared, cut, cutCode, rfl⟩

end Statement
end ProofDesk
