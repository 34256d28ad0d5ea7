import ProofDesk.Diagnostic.Basic
import ProofDesk.Text.Alphabet

/-!
# Listings of diagnostics

The printed output of a check holds diagnostics, each begun by a header line
`file.lean:LINE:COLUMN: severity: text`, the place of its end perhaps in between. Lines that begin
no diagnostic continue the one before them.

* `placed?` and `bare?` — the two kinds of header lines.
* `Listing.read` — the diagnostics of an output.
-/

namespace ProofDesk

namespace Text

/-- The lines of printed output: a final line feed begins no line, and the carriage returns at the
end of a line do not belong to it. -/
def printedLines (t : Text) : List Text :=
  let all := lines t
  (if all.getLast? = some [] then all.dropLast else all).map (trimEndOf (· == '\r'))

end Text

namespace Diagnostic
namespace Listing

/-- One or more decimal digits of any script, and what follows them. -/
def digits? (t : Text) : Option (Text × Text) :=
  let digits := t.takeWhile Text.isDecimalDigit
  if digits.isEmpty then none else some (digits, t.dropWhile Text.isDecimalDigit)

/-- A line and a column, with a colon between them. -/
def pair? (t : Text) : Option ((Text × Text) × Text) := do
  let (line, rest) ← digits? t
  let (column, rest) ← digits? (← Text.after? [':'] rest)
  return ((line, column), rest)

/-- The words for severities, one that begins another coming before it. -/
def severityWords : List (Text × Severity) :=
  [("error", .error), ("warning", .warning), ("information", .info), ("info", .info)]

/-- What follows a group in parentheses at the beginning of a text. -/
def afterGroup? (t : Text) : Option Text := do
  let rest ← Text.after? ['('] t
  Text.after? [')'] (rest.dropWhile (· != ')'))

/-- The text of a remark after its colon, without the one blank that may precede it. -/
def textAfterColon? (t : Text) : Option Text := do
  let rest ← Text.after? [':'] t
  match rest with
  | c :: more => return if Text.isBlank c then more else rest
  | [] => return []

/-- A severity, with a tag in parentheses perhaps, a colon, and the text of a remark. -/
def remark? (t : Text) : Option (Severity × Text) :=
  severityWords.findSome? fun (word, severity) => do
    let rest ← Text.after? word t
    let text ← textAfterColon? ((afterGroup? rest).getD rest)
    return (severity, text)

/-- The place and the remark of a header line, read from the colon that ends the file name. -/
def afterFile? (t : Text) : Option Diagnostic := do
  let ((line, column), rest) ← pair? (← Text.after? [':'] t)
  let stop := do pair? (← Text.after? ['-'] rest)
  let rest ← Text.after? [':'] ((stop.map Prod.snd).getD rest)
  if rest.head?.any Text.isBlank then
    let (severity, text) ← remark? (Text.trimStart rest)
    return {
      severity, text
      line := (Text.word? line).getD 0
      column := (Text.word? column).getD 0
      endLine := stop.bind fun found => Text.word? found.1.1
      endColumn := stop.bind fun found => Text.word? found.1.2 }
  else none

/-- A header line whose file name ends at the first `.lean` behind which a place and a remark
follow. -/
def namedFile? : Text → Option Diagnostic
  | [] => none
  | c :: rest =>
    (do afterFile? (← Text.after? ".lean" (c :: rest))).or (namedFile? rest)

/-- A header line with a place: a named file's, or that of the standard input. -/
def placed? (line : Text) : Option Diagnostic :=
  (namedFile? line).or do afterFile? (← Text.after? "<stdin>" line)

/-- A header line without a place: a severity and the text of an error or a warning. -/
def bare? (line : Text) : Option Diagnostic :=
  [Severity.error, .warning].findSome? fun severity => do
    let text ← textAfterColon? (← Text.after? severity.name line)
    return ⟨severity, 0, 0, none, none, text⟩

/-- The diagnostic that a header line begins. -/
def header? (line : Text) : Option Diagnostic := (placed? line).or (bare? line)

/-- A diagnostic with one more line, which stands alone when there was no text. -/
def extend (diagnostic : Diagnostic) (line : Text) : Diagnostic :=
  { diagnostic with
    text := if diagnostic.text = [] then line else diagnostic.text ++ '\n' :: line }

/-- The diagnostics of lines, `current` being the one that a line may continue. -/
def readFrom : Option Diagnostic → List Text → List Diagnostic
  | current, [] => current.toList
  | current, line :: rest =>
    match header? line with
    | some found => current.toList ++ readFrom (some found) rest
    | none => readFrom (current.map (extend · line)) rest

/-- The diagnostics of printed output, without blanks at the end of their texts. -/
def read (output : Text) : List Diagnostic :=
  (readFrom none (Text.printedLines output)).map fun diagnostic =>
    { diagnostic with text := Text.trimEnd diagnostic.text }

end Listing
end Diagnostic
end ProofDesk
