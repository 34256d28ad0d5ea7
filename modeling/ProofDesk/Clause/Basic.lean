import ProofDesk.Text.Numeral
import ProofDesk.Position

/-!
# Editable clauses

A clause is a named span of proof text on one line, which an edit may replace.

* `Clause.within?` — a line cut around the span, when the span fits it.
* `Clause.byteRange?` — the span as byte offsets of a document.
* `Clause.summary` and `Clause.display` — how a clause is shown.
-/

namespace ProofDesk

/-- What kind of proof text a clause holds. -/
inductive Category
  /-- The proof that stands on the line of its theorem. -/
  | mainProof
  /-- The proof of an intermediate fact. -/
  | haveProof
  /-- A placeholder. -/
  | placeholder
  /-- A line that begins with `by`. -/
  | tacticBlock
  /-- A line that begins with a known tactic. -/
  | tactic
  /-- Any other line of a proof. -/
  | proofLine
  deriving DecidableEq, Repr

/-- The name of a category, as ids and reports show it. -/
def Category.name : Category → Text
  | .mainProof => "main_proof"
  | .haveProof => "have"
  | .placeholder => "sorry"
  | .tacticBlock => "tactic_block"
  | .tactic => "tactic"
  | .proofLine => "proof_line"

/-- All categories. -/
def Category.all : List Category :=
  [.mainProof, .haveProof, .placeholder, .tacticBlock, .tactic, .proofLine]

/-- An editable span; both ends lie on one line of the document it was scanned from. -/
structure Clause where
  id : Text
  category : Category
  start : Position
  stop : Position
  content : Text
  deriving DecidableEq, Repr

namespace Clause

/-- The clause that holds `content` at a column of a line. -/
def place (id : Text) (category : Category) (line column : Nat) (content : Text) : Clause :=
  ⟨id, category, ⟨line, column⟩, ⟨line, column + Text.size content⟩, content⟩

/-- A line cut into what stands before, inside and behind the columns of the clause; `none` when
they are out of order, out of range or inside a character. -/
def within? (clause : Clause) (line : Text) : Option (Text × Text × Text) :=
  if clause.start.column ≤ clause.stop.column then do
    let (before, rest) ← Text.splitAtByte? clause.start.column line
    let (inside, behind) ← Text.splitAtByte? (clause.stop.column - clause.start.column) rest
    return (before, inside, behind)
  else none

/-- The byte offset where line number `n` begins. -/
def lineOffset : (lines : List Text) → (n : Nat) → Nat
  | [], _ | _, 0 => 0
  | line :: rest, n + 1 => Text.size line + 1 + lineOffset rest n

/-- The byte offsets of the span in a document, when it fits there. -/
def byteRange? (clause : Clause) (document : Text) : Option (Nat × Nat) := do
  let lines := Text.lines document
  let line ← lines[clause.start.line]?
  let _ ← clause.within? line
  let offset := lineOffset lines clause.start.line
  return (offset + clause.start.column, offset + clause.stop.column)

/-- The category and the content, as the panel shows them. -/
def summary (clause : Clause) : Text := clause.category.name ++ ": " ++ clause.content

/-- The number of characters of its content that a displayed clause shows. -/
def shownLength : Nat := 50

/-- The category, the id and the beginning of the content. -/
def display (clause : Clause) : Text :=
  clause.category.name ++ " [" ++ clause.id ++ "]: " ++ clause.content.take shownLength ++
    (if shownLength < clause.content.length then ("..." : Text) else [])

end Clause
end ProofDesk
