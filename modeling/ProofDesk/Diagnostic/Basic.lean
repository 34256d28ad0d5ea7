import ProofDesk.Message

/-!
# Diagnostics

A diagnostic is a remark as the proof assistant prints it: lines count from one, and columns count
characters.

* `Text.byteColumn` — the byte column of a character column; `byteColumn_le` keeps it in the line.
* `Diagnostic.toMessage` — the same remark placed in a source by byte columns.
-/

namespace ProofDesk

/-- The byte column of a character column, at most the size of the line. -/
def Text.byteColumn (line : Text) (column : Nat) : Nat := Text.size (line.take column)

theorem Text.byteColumn_le (line : Text) (column : Nat) :
    Text.byteColumn line column ≤ Text.size line := by
  have whole := Text.size_append (line.take column) (line.drop column)
  rw [List.take_append_drop] at whole
  unfold Text.byteColumn
  omega

/-- A remark as it is printed; line 0 stands for a remark without a place. -/
structure Diagnostic where
  severity : Severity
  /-- The line, counted from one. -/
  line : Nat
  /-- The column, in characters counted from zero. -/
  column : Nat
  /-- The last line, counted from one. -/
  endLine : Option Nat
  /-- The column where the range ends, in characters. -/
  endColumn : Option Nat
  text : Text
  deriving DecidableEq, Repr

namespace Diagnostic

/-- An error without a place. -/
def failure (text : Text) : Diagnostic := ⟨.error, 0, 0, none, none, text⟩

/-- It is an error. -/
def isError (diagnostic : Diagnostic) : Bool := diagnostic.severity = .error

/-- The place of a line and a character column; a column on a line that the source does not have
stays as it is. -/
def placeIn (lines : List Text) (line column : Nat) : Position :=
  ⟨line - 1, match lines[line - 1]? with
    | some text => Text.byteColumn text column
    | none => column⟩

/-- The remark placed in a source; without a full end it is as long as a point. -/
def toMessage (diagnostic : Diagnostic) (source : Text) : Message :=
  let lines := Text.lines source
  let start := placeIn lines diagnostic.line diagnostic.column
  let stop := match diagnostic.endLine, diagnostic.endColumn with
    | some line, some column => placeIn lines line column
    | _, _ => start
  ⟨diagnostic.severity, diagnostic.text, start, stop⟩

/-- What the proof assistant says of a declaration with a placeholder. -/
def incompleteMarker : Text := "declaration uses 'sorry'"

end Diagnostic
end ProofDesk
