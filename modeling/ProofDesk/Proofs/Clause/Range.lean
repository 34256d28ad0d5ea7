import ProofDesk.Clause.Splice
import ProofDesk.Proofs.Text.Lines

/-!
# The bytes that an edit replaces

An edit cuts the line of a clause and puts the lines together again. A clause also tells the bytes of its
span in the document. Both agree for every clause, also for one that was scanned from another document:
the edit is refused exactly when there are no such bytes, and otherwise it replaces these bytes, but for
the blanks in front of text that begins with a line feed, and one space where nothing is replaced.

* `within?_eq_some`, `byteRange?_eq_some` and `splice_eq_ok` — when there is a cut, a range or a new
  document.
* `Replaced` — a document with a range of bytes replaced, told by byte offsets.
* `splice_byteRange` — an edit replaces the bytes of its clause, and nothing else.
-/

namespace ProofDesk
namespace Clause

open Text (isBlank size slice?)

variable {document line before inside behind new updated : Text} {clause : Clause} {first last : Nat}

/-! ### Cuts and ranges -/

/-- **The cut of a line** is there when the columns are in order, in range and on characters. -/
theorem within?_eq_some : clause.within? line = some (before, inside, behind) ↔
    line = before ++ (inside ++ behind) ∧ size before = clause.start.column ∧
      size before + size inside = clause.stop.column := by
  unfold within?
  constructor
  · intro cut
    split at cut
    · next ordered =>
      obtain ⟨⟨front, rest⟩, atFirst, cut⟩ := Option.bind_eq_some_iff.1 cut
      obtain ⟨⟨middle, tail⟩, atLast, same⟩ := Option.bind_eq_some_iff.1 cut
      cases same
      obtain ⟨rfl, sized⟩ := Text.splitAtByte?_eq_some.1 atFirst
      obtain ⟨rfl, length⟩ := Text.splitAtByte?_eq_some.1 atLast
      exact ⟨rfl, sized, by omega⟩
    · cases cut
  · rintro ⟨rfl, start, stop⟩
    rw [if_pos (by omega), ← start, ← stop, Nat.add_sub_cancel_left, Text.splitAtByte?_size_append]
    show (Text.splitAtByte? (size inside) (inside ++ behind)).bind _ = _
    rw [Text.splitAtByte?_size_append]
    rfl

/-- **The bytes of a clause** are those of the cut of its line. -/
theorem byteRange?_eq_some : clause.byteRange? document = some (first, last) ↔
    ∃ line cut, (Text.lines document)[clause.start.line]? = some line ∧ clause.within? line = some cut ∧
      first = lineOffset (Text.lines document) clause.start.line + clause.start.column ∧
      last = lineOffset (Text.lines document) clause.start.line + clause.stop.column := by
  unfold byteRange?
  dsimp only
  constructor
  · intro found
    obtain ⟨line, here, found⟩ := Option.bind_eq_some_iff.1 found
    obtain ⟨cut, fits, same⟩ := Option.bind_eq_some_iff.1 found
    cases same
    exact ⟨line, cut, here, fits, rfl, rfl⟩
  · rintro ⟨line, cut, here, fits, rfl, rfl⟩
    rw [here]
    show (clause.within? line).bind _ = _
    rw [fits]
    rfl

/-- **A new document** is there when both ends are on one line and that line has a cut. -/
theorem splice_eq_ok : clause.splice document new = .ok updated ↔
    clause.start.line = clause.stop.line ∧ ∃ line before inside behind,
      (Text.lines document)[clause.start.line]? = some line ∧
      clause.within? line = some (before, inside, behind) ∧
      updated = Text.joinLines ((Text.lines document).set clause.start.line
        (spliceLine before inside behind new)) := by
  unfold splice
  dsimp only
  by_cases sameLine : clause.start.line = clause.stop.line
  · have passes : (guard (clause.start.line = clause.stop.line) : Option Unit) = some () :=
      if_pos sameLine
    rw [passes]
    constructor
    · intro spliced
      split at spliced
      · next before inside behind cut =>
        obtain ⟨-, -, cut⟩ := Option.bind_eq_some_iff.1 cut
        obtain ⟨line, found, fits⟩ := Option.bind_eq_some_iff.1 cut
        cases spliced
        exact ⟨sameLine, line, before, inside, behind, found, fits, rfl⟩
      · cases spliced
    · rintro ⟨-, line, before, inside, behind, found, fits, rfl⟩
      have cut : (do
          some ()
          clause.within? (← (Text.lines document)[clause.start.line]?)) =
            some (before, inside, behind) := by
        rw [found]
        exact fits
      rw [cut]
  · have fails : (guard (clause.start.line = clause.stop.line) : Option Unit) = none :=
      if_neg sameLine
    rw [fails]
    exact ⟨nofun, fun both => absurd both.1 sameLine⟩

theorem error_of_splice {error : EditError} (refused : clause.splice document new = .error error) :
    error = .spanOutOfRange clause := by
  unfold splice at refused
  dsimp only at refused
  split at refused
  · cases refused
  · cases refused
    rfl

/-! ### A range of bytes replaced -/

/-- What an edit keeps of a line in front of the span: text that begins with a line feed drops the blanks
at the end. -/
def keptPrefix (before new : Text) : Text :=
  if new.head? = some '\n' then Text.trimEnd before else before

/-- New text would run into the word in front of it: nothing is replaced, the text is not empty and begins
with no blank, and what is kept of the line ends in no blank. -/
def RunsOn (first last : Nat) (before new : Text) : Prop :=
  first = last ∧ new ≠ [] ∧ (∀ c, new.head? = some c → isBlank c = false) ∧
    ∃ c, (keptPrefix before new).getLast? = some c ∧ isBlank c = false

theorem runsOn_iff : RunsOn first last before new ↔
    first = last ∧ new ≠ [] ∧ new.head?.any isBlank = false ∧
      ((keptPrefix before new).getLast?.any fun c => !isBlank c) = true := by
  have starts : (∀ c, new.head? = some c → isBlank c = false) ↔ new.head?.any isBlank = false := by
    cases new.head? <;> simp
  have ends : (∃ c, (keptPrefix before new).getLast? = some c ∧ isBlank c = false) ↔
      ((keptPrefix before new).getLast?.any fun c => !isBlank c) = true := by
    cases (keptPrefix before new).getLast? <;> simp
  exact and_congr_right fun _ => and_congr_right fun _ => and_congr starts ends

instance (first last : Nat) (before new : Text) : Decidable (RunsOn first last before new) :=
  decidable_of_iff _ runsOn_iff.symm

/-- **The bytes from `first` to `last` replaced.** The line of the range begins at byte `offset` and has
`before` in front of the range. The document is kept up to a byte that is `first`, or the end of the
trimmed `before` for text that begins with a line feed, and from `last` on; between the two there is the
new text, with one space in front of it where it would run on. -/
def Replaced (document : Text) (offset first last : Nat) (new updated : Text) : Prop :=
  ∃ before kept behind, slice? offset first document = some before ∧ '\n' ∉ before ∧
    slice? 0 (if new.head? = some '\n' then offset + size (Text.trimEnd before) else first) document =
      some kept ∧
    slice? last (size document) document = some behind ∧
    updated = kept ++ (if RunsOn first last before new then [' '] else []) ++ new ++ behind

/-- The space that an edit puts in front of new text is the one where it would run on. -/
theorem glue_keptPrefix (empty : inside = [] ↔ first = last) (before new : Text) :
    glue (keptPrefix before new) inside new = if RunsOn first last before new then [' '] else [] := by
  by_cases joins : RunsOn first last before new
  · rw [if_pos joins]
    exact if_pos ((and_congr_left fun _ => empty).2 (runsOn_iff.1 joins))
  · rw [if_neg joins]
    exact if_neg fun both => joins (runsOn_iff.2 ((and_congr_left fun _ => empty).1 both))

theorem spliceLine_eq (before inside behind new : Text) : spliceLine before inside behind new =
    keptPrefix before new ++ (glue (keptPrefix before new) inside new ++ (new ++ behind)) := by
  unfold spliceLine keptPrefix
  dsimp only
  rw [List.append_assoc, List.append_assoc]

/-- What is kept of a line stands at its beginning. -/
theorem exists_keptPrefix_append (before new : Text) : ∃ dropped, before = keptPrefix before new ++ dropped := by
  unfold keptPrefix
  split
  · obtain ⟨blanks, -, whole⟩ := Text.exists_trimEnd_append before
    exact ⟨blanks, whole.symm⟩
  · exact ⟨[], (List.append_nil before).symm⟩

/-- **A cut line is replaced in the bytes of its document.** -/
theorem replaced_of_cut (found : (Text.lines document)[clause.start.line]? = some line)
    (fits : clause.within? line = some (before, inside, behind)) (new : Text) :
    Replaced document (lineOffset (Text.lines document) clause.start.line)
      (lineOffset (Text.lines document) clause.start.line + clause.start.column)
      (lineOffset (Text.lines document) clause.start.line + clause.stop.column) new
      (Text.joinLines ((Text.lines document).set clause.start.line
        (spliceLine before inside behind new))) := by
  obtain ⟨rfl, start, stop⟩ := within?_eq_some.1 fits
  obtain ⟨earlier, later, sized, whole, around⟩ := Text.exists_around_line found
  obtain ⟨dropped, kept⟩ := exists_keptPrefix_append before new
  have single : '\n' ∉ before := by
    have inLine := Text.not_mem_of_mem_lines (List.mem_of_getElem? found)
    simp only [List.mem_append, not_or] at inLine
    exact inLine.1
  refine ⟨before, earlier ++ keptPrefix before new, behind ++ later, ?_, single, ?_, ?_, ?_⟩
  · refine Text.slice?_eq_some.2 ⟨⟨earlier, inside ++ behind ++ later, ?_, sized⟩, by rw [start]⟩
    rw [whole]
    simp only [List.append_assoc]
  · have reach : (if new.head? = some '\n' then
          lineOffset (Text.lines document) clause.start.line + size (Text.trimEnd before)
        else lineOffset (Text.lines document) clause.start.line + clause.start.column) =
        size (earlier ++ keptPrefix before new) := by
      rw [Text.size_append, sized, keptPrefix, ← start]
      split <;> rfl
    refine Text.slice?_eq_some.2
      ⟨⟨[], dropped ++ (inside ++ behind ++ later), ?_, rfl⟩, by rw [Nat.zero_add, reach]⟩
    have split : before ++ (inside ++ behind) =
        keptPrefix before new ++ (dropped ++ (inside ++ behind)) := by
      calc before ++ (inside ++ behind) =
            keptPrefix before new ++ dropped ++ (inside ++ behind) := by rw [← kept]
        _ = _ := List.append_assoc ..
    rw [whole, split]
    simp only [List.append_assoc, List.nil_append]
  · have all : size document = lineOffset (Text.lines document) clause.start.line +
        clause.stop.column + size (behind ++ later) := by
      have sizes := congrArg size whole
      simp only [Text.size_append] at sizes ⊢
      omega
    refine Text.slice?_eq_some.2
      ⟨⟨earlier ++ (before ++ inside), [], ?_, ?_⟩, all.symm⟩
    · rw [whole]
      simp only [List.append_assoc, List.append_nil]
    · rw [Text.size_append, Text.size_append, sized, stop]
  · have empty : inside = [] ↔
        lineOffset (Text.lines document) clause.start.line + clause.start.column =
          lineOffset (Text.lines document) clause.start.line + clause.stop.column := by
      rw [← Text.size_eq_zero]
      omega
    rw [around, spliceLine_eq, glue_keptPrefix empty]
    simp only [List.append_assoc]

/-- **An edit replaces the bytes of its clause**, whether or not the clause was scanned from this
document. There is a new document exactly when both ends of the clause are on one line and the document
has its bytes; otherwise the edit is refused because of its span. The new document is the old one with
these bytes replaced, and all in front of them and behind them is kept, but for the blanks at the end of
the line in front of text that begins with a line feed. -/
theorem splice_byteRange (document : Text) (clause : Clause) (new : Text) :
    ((∃ updated, clause.splice document new = .ok updated) ↔
      clause.start.line = clause.stop.line ∧ ∃ range, clause.byteRange? document = some range) ∧
    (∀ error, clause.splice document new = .error error → error = .spanOutOfRange clause) ∧
    ∀ updated, clause.splice document new = .ok updated →
      ∃ first last, clause.byteRange? document = some (first, last) ∧
        Replaced document (lineOffset (Text.lines document) clause.start.line) first last new updated := by
  refine ⟨⟨?_, ?_⟩, fun error => error_of_splice, ?_⟩
  · rintro ⟨updated, spliced⟩
    obtain ⟨sameLine, line, before, inside, behind, found, fits, -⟩ := splice_eq_ok.1 spliced
    exact ⟨sameLine, _, byteRange?_eq_some.2 ⟨line, _, found, fits, rfl, rfl⟩⟩
  · rintro ⟨sameLine, ⟨first, last⟩, ranged⟩
    obtain ⟨line, ⟨before, inside, behind⟩, found, fits, -, -⟩ := byteRange?_eq_some.1 ranged
    exact ⟨_, splice_eq_ok.2 ⟨sameLine, line, before, inside, behind, found, fits, rfl⟩⟩
  · intro updated spliced
    obtain ⟨-, line, before, inside, behind, found, fits, rfl⟩ := splice_eq_ok.1 spliced
    exact ⟨_, _, byteRange?_eq_some.2 ⟨line, _, found, fits, rfl, rfl⟩, replaced_of_cut found fits new⟩

/-- A clause that was scanned from another document, on a line with characters of more than one byte, and
text that begins on a line of its own. -/
theorem splice_byteRange_stale :
    let document := "ab\nü  sorry".toList
    let clause : Clause := ⟨"tactic_0", .tactic, ⟨1, 4⟩, ⟨1, 9⟩, "another text"⟩
    clause.byteRange? document = some (7, 12) ∧ clause.splice document "\nλ" = .ok "ab\nü\nλ" ∧
      Replaced document 3 7 12 "\nλ" "ab\nü\nλ" := by
  intro document clause
  have range : clause.byteRange? document = some (7, 12) := by decide +kernel
  have spliced : clause.splice document "\nλ" = .ok "ab\nü\nλ" := rfl
  obtain ⟨first, last, ranged, replaced⟩ := (splice_byteRange document clause "\nλ").2.2 _ spliced
  have offset : lineOffset (Text.lines document) clause.start.line = 3 := by decide +kernel
  cases range.symm.trans ranged
  rw [offset] at replaced
  exact ⟨range, spliced, replaced⟩

end Clause
end ProofDesk
