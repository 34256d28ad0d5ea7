import ProofDesk.Session.Basic

/-!
# Proof outlines

A short proof or a placeholder is expanded into the lines of an outline, each of which may hold new
placeholders.

* `Outline.builtin` — outlines for common kinds of goals.
* `Session.outlineTarget?` — the clause that an outline replaces.
* `Session.outlineText` — what it is replaced with.
-/

namespace ProofDesk

/-- The lines of a proof with its gaps left open. -/
structure Outline where
  title : Text
  lines : List Text
  deriving DecidableEq, Repr

namespace Outline

/-- Outlines for common kinds of goals. -/
def builtin : List Outline :=
  [⟨"implication (P → Q)",
      ["have h1 : P := by sorry".toList, "have h2 : P → Q := by sorry".toList,
        "exact h2 h1".toList]⟩,
    ⟨"conjunction (P ∧ Q)",
      ["have h1 : P := by sorry".toList, "have h2 : Q := by sorry".toList,
        "exact ⟨h1, h2⟩".toList]⟩,
    ⟨"lemmas first",
      ["have lemma1 : _ := by sorry".toList, "have lemma2 : _ := by sorry".toList,
        "-- main proof steps".toList, "exact lemma1".toList]⟩]

/-- The lines that are not blank, behind the indentation `base`; a line's own indentation is kept
and blanks at its end are not. -/
def render (base : Text) (lines : List Text) : List Text :=
  (lines.filter fun line => !Text.allBlank line).map fun line => base ++ Text.trimEnd line

end Outline

namespace Session

/-- The clause that an outline replaces: the first placeholder or proof on its theorem's line. These are
the clauses whose ids begin with `main_proof` or `sorry`. -/
def outlineTarget? (session : Session) : Option Clause :=
  session.clauses.find? fun clause =>
    clause.category = .mainProof ∨ clause.category = .placeholder

/-- The text that puts the lines of an outline in the place of a clause. Behind other text they
begin on a line of their own, two columns further in, with `by` in front when a proof sign is
waiting; otherwise they stand where the clause stood. -/
def outlineText (session : Session) (target : Clause) (lines : List Text) : Text :=
  let owner := ((Text.lines session.document)[target.start.line]?).getD []
  let before := ((Text.splitAtByte? target.start.column owner).map Prod.fst).getD []
  let indent := Text.indentation owner
  if Text.allBlank before then
    (Text.joinLines (Outline.render indent lines)).drop indent.length
  else
    let opener : Text :=
      if Text.endsWith Source.proofSign (Text.trimEnd before) then Source.byWord else []
    opener ++ '\n' :: Text.joinLines (Outline.render (indent ++ [' ', ' ']) lines)

end Session
end ProofDesk
