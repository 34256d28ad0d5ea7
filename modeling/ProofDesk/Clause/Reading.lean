import ProofDesk.Text.Blank
import ProofDesk.Text.Search
import ProofDesk.Text.Alphabet
import ProofDesk.Source.Declaration

/-!
# Reading the lines of a proof

What the beginning of a line says about it, and where the proof that it introduces begins. All
functions read code from which the remark at its end has been taken.

* `startsDeclaration`, `isTopLevelCommand`, `isTacticLine` — by the first words of a line.
* `HaveLine.ofCode?` — a line `have name : type := by proof`.
* `trimmedAt` — the column and the text of a segment without the blanks around it.
-/

namespace ProofDesk
namespace Clause

/-- Words that start a declaration with a proof. -/
def declarationWords : List Text := Text.words "theorem lemma example"

/-- Words that end a proof when a line begins with them. -/
def commandWords : List Text :=
  Text.words ("namespace end section open variable universe import def abbrev instance " ++
    "structure class inductive set_option noncomputable #check #eval #print #reduce")

/-- Words that begin a tactic. -/
def tacticWords : List Text :=
  Text.words ("intro intros exact apply rw rwa simp simp_all trivial rfl constructor cases " ++
    "rcases obtain induction unfold left right split exfalso contradiction assumption " ++
    "linarith nlinarith omega norm_num ring ring_nf field_simp aesop decide use refine " ++
    "specialize show calc exists existsi by_contra by_cases push_neg positivity tauto")

/-- A character that ends the first word of a line. -/
def endsWord (c : Char) : Bool :=
  Text.isBlank c || c == '[' || c == ';' || c == '(' || c == '⟨' || c == ','

/-- The characters up to the first one that ends a word. -/
def firstWord (t : Text) : Text := t.takeWhile fun c => !endsWord c

/-- A trimmed line begins a theorem, a lemma or an example, which may be private or protected. -/
def startsDeclaration (stripped : Text) : Bool :=
  let head := ((Text.after? "private " stripped).or (Text.after? "protected " stripped)).getD
    stripped
  declarationWords.any fun word =>
    (Text.after? word head).any fun rest =>
      rest.head?.all fun c => Text.isBlank c || c == ':'

/-- A trimmed line begins a command that cannot stand in a proof. -/
def isTopLevelCommand (stripped : Text) : Bool :=
  (Text.after? "@[" stripped).isSome || commandWords.contains (firstWord stripped)

/-- A trimmed line begins with a known tactic. -/
def isTacticLine (stripped : Text) : Bool := tacticWords.contains (firstWord stripped)

/-- What follows `:=` and the word `by` at the beginning of a text, any blanks between them. -/
def proofAfterAssign? (t : Text) : Option Text := do
  let rest ← Text.after? Source.proofSign t
  let body ← Text.after? Source.byWord (Text.trimStart rest)
  if body.head?.any Text.isWordChar then none else some body

/-- What follows the first place of a text where `:=` introduces a tactic proof. -/
def firstProof? : Text → Option Text
  | [] => none
  | c :: rest => (proofAfterAssign? (c :: rest)).or (firstProof? rest)

/-- A character of the name of an intermediate fact. -/
def isHaveNameChar (c : Char) : Bool := !Text.isBlank c && c != ':'

/-- A line that proves a named intermediate fact by tactics. -/
structure HaveLine where
  /-- The name of the fact. -/
  name : Text
  /-- What follows the word `by`. -/
  proof : Text
  deriving DecidableEq, Repr

/-- Reads `have name : type := by proof`; the proof begins behind the first `:=` after the type's
colon that a word `by` follows. -/
def HaveLine.ofCode? (code : Text) : Option HaveLine := do
  let afterHave ← Text.after? "have" (Text.trimStart code)
  let named := Text.trimStart afterHave
  let name := named.takeWhile isHaveNameChar
  let typed ← Text.after? [':'] (Text.trimStart (named.dropWhile isHaveNameChar))
  let proof ← firstProof? typed
  if (Text.indentation afterHave).isEmpty || name.isEmpty then none else some ⟨name, proof⟩

/-- The column and the text of a segment that begins at `column`, without the blanks around it; a
blank segment is empty at its beginning. -/
def trimmedAt (column : Nat) (segment : Text) : Nat × Text :=
  if Text.allBlank segment then (column, [])
  else (column + Text.size (Text.indentation segment), Text.trim segment)

end Clause
end ProofDesk
