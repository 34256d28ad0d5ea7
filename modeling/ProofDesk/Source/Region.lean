import ProofDesk.Text.Blank

/-!
# Code, string literals and comments of a line

A source line is read from left to right, one character with a look at the next one. The reader
knows block comments, which nest, remarks from `--` to the end of the line, and string literals
with escapes. A literal ends with its line; block comments go on to the next one.

* `Region` — where a character stands.
* `Mode` — what the reader is inside of; `Mode.step` reads one character.
* `marks` — the line with the region of every character; `map_fst_marks` gives the line back.
* `Mode.depth` and `Mode.atDepth` — the number of open block comments, all that one line hands to
  the next.
-/

namespace ProofDesk
namespace Source

/-- Where a character of a line stands. -/
inductive Region
  /-- Outside comments and literals. -/
  | code
  /-- In a string literal, its quotes included. -/
  | literal
  /-- In a block comment, its delimiters included. -/
  | comment
  /-- From `--` to the end of the line. -/
  | remark
  deriving DecidableEq, Repr

/-- What the reader of a line is inside of. -/
inductive Mode
  /-- Outside comments and literals. -/
  | code
  /-- In a string literal. -/
  | literal
  /-- In a string literal, just after a backslash. -/
  | escape
  /-- In a block comment that lies in `outer` others. -/
  | comment (outer : Nat)
  /-- Before the second character of the opening of such a comment. -/
  | opening (outer : Nat)
  /-- Before the second character of the closing of such a comment. -/
  | closing (outer : Nat)
  /-- In a remark. -/
  | remark
  deriving DecidableEq, Repr

namespace Mode

/-- The mode inside `depth` open block comments. -/
def atDepth : Nat → Mode
  | 0 => code
  | outer + 1 => comment outer

/-- The number of block comments that are open. -/
def depth : Mode → Nat
  | comment outer => outer + 1
  | opening outer => outer + 1
  | closing outer => outer
  | code | literal | escape | remark => 0

@[simp] theorem depth_atDepth (n : Nat) : (atDepth n).depth = n := by cases n <;> rfl

/-- Reads `c`, with `next` behind it: the region of `c`, and the mode after it. -/
def step (mode : Mode) (c : Char) (next : Option Char) : Region × Mode :=
  match mode with
  | code =>
    if c = '-' ∧ next = some '-' then (.remark, remark)
    else if c = '/' ∧ next = some '-' then (.comment, opening 0)
    else if c = '"' then (.literal, literal)
    else (.code, code)
  | literal =>
    if c = '\\' then (.literal, escape)
    else if c = '"' then (.literal, code)
    else (.literal, literal)
  | escape => (.literal, literal)
  | comment outer =>
    if c = '/' ∧ next = some '-' then (.comment, opening (outer + 1))
    else if c = '-' ∧ next = some '/' then (.comment, closing outer)
    else (.comment, comment outer)
  | opening outer => (.comment, comment outer)
  | closing outer => (.comment, atDepth outer)
  | remark => (.remark, remark)

/-- The mode at the end of a line. -/
def after : Mode → Text → Mode
  | mode, [] => mode
  | mode, c :: rest => after (mode.step c rest.head?).2 rest

end Mode

/-- The line with the region of every character. -/
def marks : Mode → Text → List (Char × Region)
  | _, [] => []
  | mode, c :: rest => (c, (mode.step c rest.head?).1) :: marks (mode.step c rest.head?).2 rest

@[simp] theorem map_fst_marks (mode : Mode) (line : Text) :
    (marks mode line).map Prod.fst = line := by
  induction line generalizing mode with
  | nil => rfl
  | cons c rest ih => simp [marks, ih]

@[simp] theorem length_marks (mode : Mode) (line : Text) :
    (marks mode line).length = line.length := by
  rw [← List.length_map (f := Prod.fst), map_fst_marks]

end Source
end ProofDesk
