import ProofDesk.Diagnostic.Listing
import ProofDesk.Proofs.Source.Site
import ProofDesk.Proofs.Text.Lines

/-!
# Printed diagnostics are read back

A diagnostic is printed as its place in a file, its severity and its text, and a list of diagnostics as
one below the other. Each one is begun by its own header line, and the other lines of its text are
appended to it one by one. So the list is read back, unless a line of a text would itself begin a
diagnostic, or the reading takes something off a text: blanks at its end, a carriage return at the end of
a line, or a line feed behind an empty first line.

* `printed` and `print` — how a diagnostic and a list of diagnostics are printed.
* `Printable` — what the text and the numbers of a diagnostic must be like.
* `header?_heading` — the first line of a printed diagnostic begins it, whatever its text is.
* `readFrom_printed` — one printed diagnostic is read, and a line behind it may still be appended to it.
* `printedLines_print` — the lines of a printed list are those of its diagnostics.
* `read_print` — a printed list is read back.
-/

namespace ProofDesk
namespace Diagnostic
namespace Listing

open Source (Stops)
open Text (after?_eq_some decimal isBlank isDecimalDigit joinLines lines maxWord)

variable {file first rest : Text} {diagnostic : Diagnostic} {all : List Diagnostic}
  {tail : List Text}

/-! ### Printing -/

/-- The extension of a source file. -/
def sourceExtension : Text := ".lean"

/-- A line and a column. -/
def printedPair (line column : Nat) : Text := decimal line ++ ':' :: decimal column

/-- The end of a range, when it has one. -/
def printedStop : Option Nat → Option Nat → Text
  | some line, some column => '-' :: printedPair line column
  | _, _ => []

/-- The place and the severity, which stand between the name of the file and the text. -/
def printedPlace (diagnostic : Diagnostic) : Text :=
  ':' :: (printedPair diagnostic.line diagnostic.column ++
    (printedStop diagnostic.endLine diagnostic.endColumn ++
      ':' :: ' ' :: (diagnostic.severity.name ++ [':', ' '])))

/-- All that is printed in front of the text. -/
def heading (file : Text) (diagnostic : Diagnostic) : Text :=
  file ++ (sourceExtension ++ printedPlace diagnostic)

/-- A diagnostic about the file with this name, as it is printed. -/
def printed (file : Text) (diagnostic : Diagnostic) : Text :=
  heading file diagnostic ++ diagnostic.text

/-- Diagnostics about a file, as they are printed. -/
def print (file : Text) (all : List Diagnostic) : Text := joinLines (all.map (printed file))

/-- **A diagnostic that is read back.** Its numbers are 64-bit words, it has a whole end or none, and no
blank ends its text and no carriage return a line of it. The text is empty or has a first line, and none
of the other lines begins a diagnostic. -/
structure Printable (diagnostic : Diagnostic) : Prop where
  line : diagnostic.line ≤ maxWord
  column : diagnostic.column ≤ maxWord
  stop : diagnostic.endLine = none ∧ diagnostic.endColumn = none ∨
    ∃ line column, diagnostic.endLine = some line ∧ diagnostic.endColumn = some column ∧
      line ≤ maxWord ∧ column ≤ maxWord
  trimmed : Text.trimEnd diagnostic.text = diagnostic.text
  unreturned : ∀ line ∈ lines diagnostic.text, line.getLast? ≠ some '\r'
  begins : diagnostic.text = [] ∨ (lines diagnostic.text).head? ≠ some []
  continues : ∀ line ∈ (lines diagnostic.text).tail, header? line = none

/-! ### Header lines -/

theorem digits?_decimal (n : Nat) (stops : Stops isDecimalDigit rest) :
    digits? (decimal n ++ rest) = some (decimal n, rest) := by
  have digits : ∀ c ∈ decimal n, isDecimalDigit c = true := fun c member =>
    Text.isDecimalDigit_of_isDigit (Text.isDigit_of_mem_decimal member)
  unfold digits?
  dsimp only
  rw [Source.takeWhile_append digits stops, Source.dropWhile_append digits stops, if_neg]
  simp [Text.decimal_ne_nil]

/-- **A printed line and column** are read, up to a character that is no digit. -/
theorem pair?_printedPair (line column : Nat) (stops : Stops isDecimalDigit rest) :
    pair? (printedPair line column ++ rest) = some ((decimal line, decimal column), rest) := by
  have colon : Stops isDecimalDigit (':' :: (decimal column ++ rest)) := by
    intro c first
    cases first
    decide
  rw [printedPair, List.append_assoc, List.cons_append, pair?, digits?_decimal line colon]
  show (digits? (decimal column ++ rest)).bind _ = _
  rw [digits?_decimal column stops]
  rfl

/-- A printed severity and text are read. -/
theorem remark?_printed (severity : Severity) (text : Text) :
    remark? (Text.trimStart (' ' :: (severity.name ++ ':' :: ' ' :: text))) = some (severity, text) := by
  cases severity <;> rfl

/-- **The place of a diagnostic is read**, whatever its text is. -/
theorem afterFile?_printedPlace (printable : Printable diagnostic) (text : Text) :
    afterFile? (printedPlace diagnostic ++ text) = some { diagnostic with text } := by
  obtain ⟨severity, line, column, endLine, endColumn, old⟩ := diagnostic
  obtain ⟨fits, fits', stop, -, -, -, -⟩ := printable
  dsimp only at fits fits' stop
  have number : ∀ n ≤ maxWord, Text.word? (decimal n) = some n := fun n small =>
    Text.word?_decimal small
  have shape : printedPlace ⟨severity, line, column, endLine, endColumn, old⟩ ++ text =
      [':'] ++ (printedPair line column ++ (printedStop endLine endColumn ++
        ([':'] ++ ' ' :: (severity.name ++ ':' :: ' ' :: text)))) := by
    simp [printedPlace]
  have read := remark?_printed severity text
  generalize severity.name ++ ':' :: ' ' :: text = remark at shape read
  have sign : Text.after? [':'] ([':'] ++ ' ' :: remark) = some (' ' :: remark) := after?_eq_some.2 rfl
  have blank : isBlank ' ' = true := by decide
  have colon : Stops isDecimalDigit ([':'] ++ ' ' :: remark) := by
    intro c first
    cases first
    decide
  rw [shape, afterFile?, after?_eq_some.2 rfl]
  rcases stop with ⟨rfl, rfl⟩ | ⟨line', column', rfl, rfl, fits'', fits'''⟩
  · have point : Text.after? ['-'] ([':'] ++ ' ' :: remark) = none := rfl
    rw [show printedStop none none = [] from rfl, List.nil_append]
    simp only [Option.bind_eq_bind, Option.bind_some, pair?_printedPair _ _ colon, point,
      Option.bind_none, Option.map_none, Option.getD_none, sign, read, List.head?_cons, Option.any_some,
      blank, if_true, number line fits, number column fits', Option.getD_some, Option.pure_def]
  · have hyphen : Stops isDecimalDigit
        (['-'] ++ (printedPair line' column' ++ ([':'] ++ ' ' :: remark))) := by
      intro c first
      cases first
      decide
    have range : Text.after? ['-'] (['-'] ++ (printedPair line' column' ++ ([':'] ++ ' ' :: remark))) =
        some (printedPair line' column' ++ ([':'] ++ ' ' :: remark)) := after?_eq_some.2 rfl
    rw [show printedStop (some line') (some column') = ['-'] ++ printedPair line' column' from rfl,
      List.append_assoc ['-']]
    simp only [Option.bind_eq_bind, Option.bind_some, pair?_printedPair _ _ hyphen, range,
      pair?_printedPair _ _ colon, Option.map_some, Option.getD_some, sign, read, List.head?_cons,
      Option.any_some, blank, if_true, number line fits, number column fits', number line' fits'',
      number column' fits''', Option.pure_def]

/-- **The name of a file ends at the first extension**, which has its own first character nowhere else. -/
theorem namedFile?_append (absent : ¬ sourceExtension <:+: file)
    (found : afterFile? rest = some diagnostic) :
    namedFile? (file ++ (sourceExtension ++ rest)) = some diagnostic := by
  induction file with
  | nil =>
    have here : Text.after? sourceExtension (sourceExtension ++ rest) = some rest :=
      after?_eq_some.2 rfl
    show ((Text.after? sourceExtension (sourceExtension ++ rest)).bind afterFile?).or _ = _
    rw [here]
    show (afterFile? rest).or _ = _
    rw [found]
    rfl
  | cons c file ih =>
    have apart : ∀ more, sourceExtension = c :: file ++ '.' :: more → ¬ more <+: "lean".toList ++ rest := by
      intro more same
      have dot : '.' ∈ sourceExtension.tail := by
        rw [same]
        simp
      exact absurd dot (by decide)
    have later : Text.after? sourceExtension (c :: file ++ (sourceExtension ++ rest)) = none := by
      have reaches := Text.after?_append_of_apart apart
      have none : Text.after? sourceExtension (c :: file) = none := by
        cases begins : Text.after? sourceExtension (c :: file) with
        | none => rfl
        | some more => exact absurd ⟨[], more, (after?_eq_some.1 begins).symm⟩ absent
      rw [none] at reaches
      exact reaches
    have inside : ¬ sourceExtension <:+: file := fun occurs =>
      absent (occurs.trans (List.suffix_cons ..).isInfix)
    show ((Text.after? sourceExtension (c :: file ++ (sourceExtension ++ rest))).bind afterFile?).or
      (namedFile? (file ++ (sourceExtension ++ rest))) = _
    rw [later, ih inside]
    rfl

/-- **A heading begins its diagnostic**, whatever text stands behind it. -/
theorem header?_heading (absent : ¬ sourceExtension <:+: file) (printable : Printable diagnostic)
    (text : Text) : header? (heading file diagnostic ++ text) = some { diagnostic with text } := by
  rw [heading, List.append_assoc, List.append_assoc, header?, placed?,
    namedFile?_append absent (afterFile?_printedPlace printable text)]
  rfl

/-! ### The lines of a diagnostic -/

theorem newline_notMem_heading (single : '\n' ∉ file) (diagnostic : Diagnostic) :
    '\n' ∉ heading file diagnostic := by
  have number : ∀ n, '\n' ∉ decimal n := fun n member =>
    absurd (Text.isDigit_of_mem_decimal member) (by decide)
  have stop : '\n' ∉ printedStop diagnostic.endLine diagnostic.endColumn := by
    unfold printedStop
    split <;> simp [printedPair, number]
  have name : '\n' ∉ diagnostic.severity.name := by
    cases diagnostic.severity <;> decide
  have extension : '\n' ∉ sourceExtension := by decide
  simp [heading, printedPlace, printedPair, single, number, stop, name, extension]

/-- A heading ends in a blank, so the last character of a line that it begins is that or the text's. -/
theorem getLast?_heading_append (file : Text) (diagnostic : Diagnostic) (text : Text) :
    (heading file diagnostic ++ text).getLast? = text.getLast?.or (some ' ') := by
  have last : (heading file diagnostic).getLast? = some ' ' := by
    have place : printedPlace diagnostic = (':' :: (printedPair diagnostic.line diagnostic.column ++
        (printedStop diagnostic.endLine diagnostic.endColumn ++
          ':' :: ' ' :: (diagnostic.severity.name ++ [':'])))) ++ [' '] := by
      simp [printedPlace]
    rw [heading, place, ← List.append_assoc, ← List.append_assoc, List.getLast?_concat]
  rw [List.getLast?_append, last]

/-- Lines are appended to a text that is not empty. -/
theorem foldl_extend (solid : first ≠ [] ∨ tail = []) (diagnostic : Diagnostic) :
    tail.foldl extend { diagnostic with text := first } =
      { diagnostic with text := joinLines (first :: tail) } := by
  induction tail generalizing first with
  | nil => rw [List.foldl_nil, Text.joinLines_singleton]
  | cons line tail ih =>
    have filled : first ≠ [] := solid.resolve_right (List.cons_ne_nil _ _)
    have longer : extend { diagnostic with text := first } line =
        { diagnostic with text := first ++ '\n' :: line } := by
      rw [extend, if_neg filled]
    rw [List.foldl_cons, longer, ih (.inl (by simp)), Text.joinLines_cons_cons]
    cases tail with
    | nil => rw [Text.joinLines_singleton, Text.joinLines_singleton]
    | cons second rest => simp only [Text.joinLines_cons_cons, List.append_assoc, List.cons_append]

/-- **Lines that begin no diagnostic** are appended to the one before them. -/
theorem readFrom_append (continues : ∀ line ∈ tail, header? line = none) (rest : List Text) :
    readFrom (some diagnostic) (tail ++ rest) = readFrom (some (tail.foldl extend diagnostic)) rest := by
  induction tail generalizing diagnostic with
  | nil => rfl
  | cons line tail ih =>
    rw [List.cons_append, readFrom, continues line (List.mem_cons_self ..)]
    exact ih fun line member => continues line (List.mem_cons_of_mem _ member)

/-- The lines of a printed diagnostic are those of its text, the first one behind the heading. -/
theorem exists_lines_printed (single : '\n' ∉ file) (diagnostic : Diagnostic) : ∃ first tail,
    lines diagnostic.text = first :: tail ∧
      lines (printed file diagnostic) = (heading file diagnostic ++ first) :: tail := by
  obtain ⟨first, tail, cut⟩ := List.exists_cons_of_ne_nil (Text.lines_ne_nil diagnostic.text)
  exact ⟨first, tail, cut, Text.lines_append (newline_notMem_heading single diagnostic) cut⟩

/-- **One printed diagnostic is read**, and a line behind it may still be appended to it. -/
theorem readFrom_printed (single : '\n' ∉ file) (absent : ¬ sourceExtension <:+: file)
    (printable : Printable diagnostic) (current : Option Diagnostic) (rest : List Text) :
    readFrom current (lines (printed file diagnostic) ++ rest) =
      current.toList ++ readFrom (some diagnostic) rest := by
  obtain ⟨first, tail, cut, whole⟩ := exists_lines_printed single diagnostic
  have continues : ∀ line ∈ tail, header? line = none := by
    have later := printable.continues
    rwa [cut] at later
  have solid : first ≠ [] ∨ tail = [] := by
    rcases printable.begins with empty | filled
    · have alone : lines diagnostic.text = [[]] := by
        rw [empty]
        rfl
      rw [cut] at alone
      exact .inr (List.cons.inj alone).2
    · rw [cut] at filled
      exact .inl fun empty => filled (congrArg some empty)
  have text : joinLines (first :: tail) = diagnostic.text := by
    rw [← cut, Text.joinLines_lines]
  rw [whole, List.cons_append, readFrom, header?_heading absent printable first]
  show current.toList ++ readFrom _ (tail ++ rest) = _
  rw [readFrom_append continues, foldl_extend solid, text]

/-! ### A whole listing -/

theorem readFrom_flatMap (single : '\n' ∉ file) (absent : ¬ sourceExtension <:+: file)
    (printable : ∀ diagnostic ∈ all, Printable diagnostic) (current : Option Diagnostic) :
    readFrom current (all.flatMap fun diagnostic => lines (printed file diagnostic)) =
      current.toList ++ all := by
  induction all generalizing current with
  | nil => rw [List.flatMap_nil, readFrom, List.append_nil]
  | cons diagnostic all ih =>
    have here := printable diagnostic (List.mem_cons_self ..)
    rw [List.flatMap_cons, readFrom_printed single absent here,
      ih fun diagnostic member => printable diagnostic (List.mem_cons_of_mem _ member)]
    rfl

/-- The last character of what is printed is no line feed. -/
theorem getLast?_printed_ne (printable : Printable diagnostic) :
    (printed file diagnostic).getLast? ≠ some '\n' := by
  rw [printed, getLast?_heading_append]
  intro last
  cases ends : diagnostic.text.getLast? with
  | none =>
    rw [ends] at last
    exact absurd last (by decide)
  | some c =>
    rw [ends] at last
    obtain rfl : c = '\n' := Option.some.inj last
    rw [← printable.trimmed] at ends
    exact absurd (Text.getLast?_trimEnd ends) (by decide)

/-- No line of what is printed ends in a carriage return. -/
theorem getLast?_ne_of_mem_lines_printed (single : '\n' ∉ file) (printable : Printable diagnostic)
    {line : Text} (member : line ∈ lines (printed file diagnostic)) : line.getLast? ≠ some '\r' := by
  obtain ⟨first, tail, cut, whole⟩ := exists_lines_printed single diagnostic
  have unreturned := printable.unreturned
  rw [cut] at unreturned
  rw [whole] at member
  rcases List.mem_cons.1 member with rfl | later
  · rw [getLast?_heading_append]
    cases ends : first.getLast? with
    | none => decide
    | some c =>
      have here := unreturned first (List.mem_cons_self ..)
      rw [ends] at here
      exact here
  · exact unreturned line (List.mem_cons_of_mem _ later)

/-- A line that ends in no carriage return is printed output as it stands. -/
theorem trimEndOf_of_getLast?_ne {line : Text} (ends : line.getLast? ≠ some '\r') :
    Text.trimEndOf (· == '\r') line = line := by
  unfold Text.trimEndOf
  cases shape : line.reverse with
  | nil => exact (List.reverse_eq_nil_iff.1 shape).symm
  | cons c rest =>
    have last : line.getLast? = some c := by
      rw [← List.head?_reverse, shape]
      rfl
    have other : (c == '\r') = false := beq_eq_false_iff_ne.2 fun same => ends (same ▸ last)
    rw [List.dropWhile_cons, other, if_neg Bool.false_ne_true, ← shape, List.reverse_reverse]

/-- **The lines of a printed list** are those of its diagnostics: nothing is taken off them. -/
theorem printedLines_print (single : '\n' ∉ file) (solid : all ≠ [])
    (printable : ∀ diagnostic ∈ all, Printable diagnostic) :
    Text.printedLines (print file all) =
      all.flatMap fun diagnostic => lines (printed file diagnostic) := by
  have whole : lines (print file all) = all.flatMap fun diagnostic => lines (printed file diagnostic) := by
    rw [print, Text.lines_joinLines_eq_flatMap (fun empty => solid (List.map_eq_nil_iff.1 empty)),
      List.flatMap_map]
  have last : (lines (print file all)).getLast? ≠ some [] := by
    obtain ⟨front, final, rfl⟩ := (List.eq_nil_or_concat all).resolve_left solid
    have here := printable final (by simp)
    have filled : printed file final ≠ [] := by
      simp [printed, heading, printedPlace]
    have ends := Text.getLast?_lines_ne filled (getLast?_printed_ne here)
    rw [whole, List.concat_eq_append, List.flatMap_append, List.flatMap_singleton, List.getLast?_append]
    intro blank
    obtain ⟨line, found⟩ := Option.isSome_iff_exists.1
      (List.getLast?_isSome.2 (Text.lines_ne_nil (printed file final)))
    rw [found] at blank ends
    exact ends blank
  unfold Text.printedLines
  dsimp only
  rw [if_neg last, whole]
  refine (List.map_congr_left fun line member => ?_).trans (List.map_id _)
  obtain ⟨diagnostic, listed, member⟩ := List.mem_flatMap.1 member
  exact trimEndOf_of_getLast?_ne
    (getLast?_ne_of_mem_lines_printed single (printable diagnostic listed) member)

/-- **A printed list of diagnostics is read back**, in order and whole. -/
theorem read_print (single : '\n' ∉ file) (absent : ¬ sourceExtension <:+: file)
    (printable : ∀ diagnostic ∈ all, Printable diagnostic) : read (print file all) = all := by
  have kept : ∀ diagnostic ∈ all, { diagnostic with text := Text.trimEnd diagnostic.text } = diagnostic :=
    fun diagnostic member => by rw [(printable diagnostic member).trimmed]
  by_cases empty : all = []
  · rw [empty]
    rfl
  · rw [read, printedLines_print single empty printable, readFrom_flatMap single absent printable]
    exact (List.map_congr_left kept).trans (List.map_id _)

/-- A goal with a blank line, a remark with an end and without a text, and a text with places of its
own. -/
theorem read_print_three :
    let goal : Diagnostic := ⟨.error, 3, 2, none, none, "unsolved goals\nA : Prop\n\n⊢ A"⟩
    let empty : Diagnostic := ⟨.info, 2, 4, some 2, some 9, []⟩
    let places : Diagnostic := ⟨.warning, 1, 8, none, none, "h:1:2: seen\n  in b.lean:7:1"⟩
    '\n' ∉ "tmp/a".toList ∧ ¬ sourceExtension <:+: "tmp/a".toList ∧
      (∀ diagnostic ∈ [goal, empty, places], Printable diagnostic) ∧
      read (print "tmp/a" [goal, empty, places]) = [goal, empty, places] := by
  intro goal empty places
  have single : '\n' ∉ "tmp/a".toList := by decide
  have absent : ¬ sourceExtension <:+: "tmp/a".toList := by decide
  have fits : ∀ n ≤ 9, n ≤ maxWord := fun n small => Nat.le_trans small (by decide)
  have goal' : Printable goal :=
    ⟨fits 3 (by decide), fits 2 (by decide), .inl ⟨rfl, rfl⟩, by decide +kernel, by decide +kernel,
      .inr (by decide +kernel), by decide +kernel⟩
  have empty' : Printable empty :=
    ⟨fits 2 (by decide), fits 4 (by decide),
      .inr ⟨2, 9, rfl, rfl, fits 2 (by decide), fits 9 (by decide)⟩, rfl, by decide, .inl rfl, by decide⟩
  have places' : Printable places :=
    ⟨fits 1 (by decide), fits 8 (by decide), .inl ⟨rfl, rfl⟩, by decide +kernel, by decide +kernel,
      .inr (by decide +kernel), by decide +kernel⟩
  have printable : ∀ diagnostic ∈ [goal, empty, places], Printable diagnostic := by
    intro diagnostic member
    simp only [List.mem_cons, List.not_mem_nil, or_false] at member
    rcases member with rfl | rfl | rfl
    · exact goal'
    · exact empty'
    · exact places'
  exact ⟨single, absent, printable, read_print single absent printable⟩

end Listing
end Diagnostic
end ProofDesk
