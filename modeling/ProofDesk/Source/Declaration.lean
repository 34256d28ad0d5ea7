import ProofDesk.Text.Blank
import ProofDesk.Text.Alphabet

/-!
# Declarations of theorems and lemmas

A declaration is a keyword, blanks and a name. Its signature ends at a sign behind which the proof
stands.

* `proofSign` and `tacticSign` — the signs before a proof and before a tactic proof.
* `afterKeyword?` — the text behind the keyword and the blanks.
* `nameHere?` — the name, and the text behind it.
* `declaredNames` — the names of all declarations of a text, wherever a keyword begins a word.
-/

namespace ProofDesk
namespace Source

/-- The sign before a proof. -/
def proofSign : Text := [':', '=']

/-- The word that introduces a tactic proof. -/
def byWord : Text := ['b', 'y']

/-- The sign before a tactic proof: both, with one space between them. -/
def tacticSign : Text := proofSign ++ ' ' :: byWord

/-- A character of a declared name. -/
def isNameChar (c : Char) : Bool :=
  !(Text.isBlank c || c == ':' || c == '(' || c == '\x7b' || c == '[' || c == '⦃')

/-- What follows the keyword of a theorem or a lemma and the blanks behind it. -/
def afterKeyword? (t : Text) : Option Text := do
  let rest ← (Text.after? "theorem" t).or (Text.after? "lemma" t)
  if rest.head?.any Text.isBlank then some (Text.trimStart rest) else none

/-- The name that a text declares at its beginning, and what follows the name. -/
def nameHere? (t : Text) : Option (Text × Text) := do
  let rest ← afterKeyword? t
  let name := rest.takeWhile isNameChar
  if name.isEmpty then none else some (name, rest.dropWhile isNameChar)

/-- The names declared behind the next `skip` characters, `before` standing in front of the text. -/
def declaredNamesFrom (before : Option Char) : Nat → Text → List Text
  | _, [] => []
  | skip + 1, c :: rest => declaredNamesFrom (some c) skip rest
  | 0, c :: rest =>
    match if before.any Text.isWordChar then none else nameHere? (c :: rest) with
    | some (name, behind) =>
      name :: declaredNamesFrom (some c) (rest.length - behind.length) rest
    | none => declaredNamesFrom (some c) 0 rest

/-- The names of the declarations of a text, in order. -/
def declaredNames (t : Text) : List Text := declaredNamesFrom none 0 t

end Source
end ProofDesk
