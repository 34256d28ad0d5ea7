import ProofDesk.Source.Declaration
import ProofDesk.Source.Placeholder
import ProofDesk.Text.Order
import ProofDesk.Text.Search

/-!
# Names of their own for every session

Sessions may share one verifier, so a session gives its declarations a suffix of its own before
they are verified, at the declaration and wherever the name is used. What comes back is told in the
names of the document.

* `suffixNames` — a text with the suffix behind the declared names.
* `suffixOf` — the suffix of a session.
* `stripColumn` — a byte column of the submitted text as a column of the document.
-/

namespace ProofDesk
namespace Renaming

/-- The suffix of the session with this id. -/
def suffixOf (sessionId : Text) : Text := "_s" ++ sessionId

/-- Longer texts come first, and texts of one size in their order. -/
def longerFirst (a b : Text) : Bool :=
  Text.size b < Text.size a || (Text.size a == Text.size b && !Text.precedes b a)

/-- The declared names of a text in the order in which they are looked for. -/
def searchOrder (t : Text) : List Text :=
  ((Source.declaredNames t).mergeSort longerFirst).eraseDups

/-- The text behind the next `skip` characters with the suffix behind the names in it. At each
place the first name in the list that stands there is taken, and the search goes on behind it; a
name that touches a character of names is left as it is. -/
def suffixFrom (names : List Text) (suffix : Text) (before : Option Char) : Nat → Text → Text
  | _, [] => []
  | skip + 1, c :: rest => suffixFrom names suffix (some c) skip rest
  | 0, c :: rest =>
    match names.find? fun name => name.isPrefixOf (c :: rest) with
    | some name =>
      let alone := Source.bounds before && Source.bounds ((c :: rest).drop name.length).head?
      name ++ (if alone then suffix else []) ++
        suffixFrom names suffix (some c) (name.length - 1) rest
    | none => c :: suffixFrom names suffix (some c) 0 rest

/-- The text with the suffix behind its declared names and their uses. The names are looked for as one
pattern, which is taken to be small enough to be built. -/
def suffixNames (suffix t : Text) : Text := suffixFrom (searchOrder t) suffix none 0 t

/-- A byte column of a line as a column of the line without the suffix; a column that does not fall
on a character of the line stays as it is. -/
def stripColumn (suffix : Text) (lines : List Text) (place : Position) : Position :=
  match lines[place.line]?.bind (Text.splitAtByte? place.column) with
  | some (front, _) => ⟨place.line, Text.size (Text.eraseAll suffix front)⟩
  | none => place

end Renaming
end ProofDesk
