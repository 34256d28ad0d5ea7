import ProofDesk.Source.Region
import ProofDesk.Text.Alphabet
import ProofDesk.Position

/-!
# Placeholders of a source text

A placeholder is the word `sorry` in code, with no character of names on either side. A line is
scanned knowing only the number of block comments that are open where it begins.

* `LineScan` — what a line holds: its placeholders, its code, whether that code says anything, and
  the number of block comments left open.
* `scanLines` — the lines of a text with their scans, the depth handed on from line to line.
* `placeholders` — the places of all placeholders of a text.
-/

namespace ProofDesk
namespace Source

/-- The word that stands for a missing proof. -/
def sorryWord : Text := ['s', 'o', 'r', 'r', 'y']

/-- No character of names stands there. -/
def bounds (neighbour : Option Char) : Bool := !neighbour.any Text.isIdentChar

/-- The text begins with a placeholder, when `before` stands in front of it. -/
def beginsPlaceholder (before : Option Char) (t : Text) : Bool :=
  match Text.after? sorryWord t with
  | some behind => bounds before && bounds behind.head?
  | none => false

/-- The byte columns of the placeholders of marked characters that begin at `column`, with `before`
in front of them. -/
def placeholderColumns (before : Option Char) (column : Nat) : List (Char × Region) → List Nat
  | [] => []
  | (c, region) :: rest =>
    let later := placeholderColumns (some c) (column + c.utf8Size) rest
    if region = .code ∧
        beginsPlaceholder before (((c, region) :: rest).take 6 |>.map Prod.fst) = true then
      column :: later
    else later

/-- What one line holds. -/
structure LineScan where
  /-- The byte columns of the placeholders. -/
  sorries : List Nat
  /-- The line up to its remark. -/
  code : Text
  /-- Whether anything but ASCII blanks stands outside comments. -/
  hasCode : Bool
  /-- The number of block comments open at the end. -/
  depth : Nat
  deriving DecidableEq, Repr

/-- A marked character that is part of the code of its line. -/
def isSolid (mark : Char × Region) : Bool :=
  match mark.2 with
  | .code => !Text.isAsciiBlank mark.1
  | .literal => true
  | .comment | .remark => false

/-- Scans a line that begins inside `depth` block comments. -/
def scanLine (depth : Nat) (line : Text) : LineScan :=
  let mode := Mode.atDepth depth
  let marked := marks mode line
  { sorries := placeholderColumns none 0 marked
    code := (marked.takeWhile fun mark => mark.2 ≠ .remark).map Prod.fst
    hasCode := marked.any isSolid
    depth := (mode.after line).depth }

/-- The byte column where the remark of the line begins, or the size of the line. -/
def LineScan.codeEnd (scan : LineScan) : Nat := Text.size scan.code

/-- Lines with their scans, the first of them beginning inside `depth` block comments. -/
def scanLines : Nat → List Text → List (Text × LineScan)
  | _, [] => []
  | depth, line :: rest =>
    let scan := scanLine depth line
    (line, scan) :: scanLines scan.depth rest

/-- The places of all placeholders of a text, in order. -/
def placeholders (t : Text) : List Position :=
  (scanLines 0 (Text.lines t)).zipIdx.flatMap fun ((_, scan), line) =>
    scan.sorries.map fun column => ⟨line, column⟩

end Source
end ProofDesk
