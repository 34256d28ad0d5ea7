import ProofDesk.Prover.Feedback
import ProofDesk.Proofs.Text.Piece

/-!
# Errors on their lines

A report has one block for each error, in order. A block shows the line of the error in three pieces,
the middle one marked, and the line is cut at byte columns: a column that were out of range, or inside
a character, would leave the line out.

* `slice?_byteColumn` — byte columns that come from character columns always cut a line.
* `Shown` — the three pieces in which the line of an error is shown.
* `markedLine?_eq_some` — a line that the code has is always shown, in its three pieces.
* `slice?_toMessage` — the marked piece lies between the places of the message of the same error.
* `errorReport_numbered` — all blocks of a report, for every code and every list of diagnostics.
-/

namespace ProofDesk
namespace Feedback

variable {line code : Text} {lines : List Text} {error : Diagnostic} {first last : Nat}

/-! ### Byte columns of character columns -/

/-- A line in three pieces, cut at two character columns. -/
theorem take_append_middle (ordered : first ≤ last) (line : Text) :
    line.take first ++ (line.take last).drop first ++ line.drop last = line := by
  have front : line.take first = (line.take last).take first := by
    rw [List.take_take, Nat.min_eq_left ordered]
  rw [front, List.take_append_drop, List.take_append_drop]

/-- **The bytes between two character columns** are the characters between them. -/
theorem slice?_byteColumn (ordered : first ≤ last) (line : Text) :
    Text.slice? (Text.byteColumn line first) (Text.byteColumn line last) line =
      some ((line.take last).drop first) := by
  have whole := take_append_middle ordered line
  refine Text.slice?_eq_some.2 ⟨⟨line.take first, line.drop last, whole.symm, rfl⟩, ?_⟩
  -- What is left is that the sizes of the first two pieces add up.
  have front : line.take first = (line.take last).take first := by
    rw [List.take_take, Nat.min_eq_left ordered]
  unfold Text.byteColumn
  rw [front, ← Text.size_append, List.take_append_drop]

theorem byteColumn_mono (ordered : first ≤ last) (line : Text) :
    Text.byteColumn line first ≤ Text.byteColumn line last := by
  have ends := (Text.slice?_eq_some.1 (slice?_byteColumn ordered line)).2
  omega

theorem byteColumn_of_length_le (long : line.length ≤ last) :
    Text.byteColumn line last = Text.size line := by
  rw [Text.byteColumn, List.take_of_length_le long]

theorem slice?_byteColumn_size (line : Text) (last : Nat) :
    Text.slice? (Text.byteColumn line last) (Text.size line) line = some (line.drop last) := by
  have whole := Text.size_append (line.take last) (line.drop last)
  rw [List.take_append_drop] at whole
  refine Text.slice?_eq_some.2 ⟨⟨line.take last, [], ?_, rfl⟩, whole.symm⟩
  rw [List.append_nil, List.take_append_drop]

/-! ### The range of an error -/

/-- The character column where the mark of an error ends; past the end it ends with the line. -/
def stopColumn (line : Text) (error : Diagnostic) : Nat :=
  match error.endLine, error.endColumn with
  | some endLine, some endColumn =>
    if endLine = error.line then max endColumn error.column else max line.length error.column
  | _, _ => max line.length error.column

theorem column_le_stopColumn (line : Text) (error : Diagnostic) :
    error.column ≤ stopColumn line error := by
  unfold stopColumn
  split
  · split <;> exact Nat.le_max_right ..
  · exact Nat.le_max_right ..

/-- The byte column where the mark ends comes from a character column. -/
theorem markStop_eq (line : Text) (error : Diagnostic) :
    markStop line error = Text.byteColumn line (stopColumn line error) := by
  obtain ⟨severity, number, column, endLine, endColumn, text⟩ := error
  have toEnd : Text.size line = Text.byteColumn line (max line.length column) :=
    (byteColumn_of_length_le (Nat.le_max_left ..)).symm
  unfold markStop markStart stopColumn
  cases endLine with
  | none => exact toEnd
  | some endLine =>
    cases endColumn with
    | none => exact toEnd
    | some endColumn =>
      dsimp only
      split
      · -- The larger byte column is the one of the larger character column.
        rcases Nat.le_total endColumn column with early | late
        · rw [Nat.max_eq_right early, Nat.max_eq_right (byteColumn_mono early line)]
        · rw [Nat.max_eq_left late, Nat.max_eq_left (byteColumn_mono late line)]
      · exact toEnd

/-! ### Lines in three pieces -/

/-- **The three pieces in which the line of an error is shown**: they are the line, cut at the byte
columns of the mark. The first one reaches up to the column of the error or to the end of the line. The
second one reaches up to the end column when the error ends on its line, and is empty when this does
not lie behind the first one; otherwise it reaches to the end of the line. -/
structure Shown (line : Text) (error : Diagnostic) (before middle behind : Text) : Prop where
  whole : before ++ middle ++ behind = line
  cutBefore : Text.slice? 0 (markStart line error) line = some before
  cutMiddle : Text.slice? (markStart line error) (markStop line error) line = some middle
  cutBehind : Text.slice? (markStop line error) (Text.size line) line = some behind
  start : before.length = min error.column line.length
  stop : ∀ column, error.endLine = some error.line → error.endColumn = some column →
    (before ++ middle).length = max (min column line.length) before.length
  toEnd : error.endLine ≠ some error.line ∨ error.endColumn = none → behind = []

/-- Every line is shown in its characters up to the error, in its mark and behind it. -/
theorem shown_of_line (line : Text) (error : Diagnostic) :
    Shown line error (line.take error.column)
      ((line.take (stopColumn line error)).drop error.column)
      (line.drop (stopColumn line error)) where
  whole := take_append_middle (column_le_stopColumn line error) line
  cutBefore := slice?_byteColumn (Nat.zero_le _) line
  cutMiddle := by
    rw [markStop_eq]
    exact slice?_byteColumn (column_le_stopColumn line error) line
  cutBehind := by
    rw [markStop_eq]
    exact slice?_byteColumn_size line _
  start := List.length_take
  stop := by
    intro column here given
    have last : stopColumn line error = max column error.column := by
      rw [stopColumn, here, given]
      exact if_pos rfl
    rw [last]
    simp only [List.length_append, List.length_take, List.length_drop]
    omega
  toEnd := by
    intro elsewhere
    have last : stopColumn line error = max line.length error.column := by
      unfold stopColumn
      split
      · next endLine endColumn here given =>
        rcases elsewhere with elsewhere | missing
        · rw [if_neg fun same => elsewhere (by rw [here, same])]
        · rw [given] at missing
          cases missing
      · rfl
    rw [last]
    exact List.drop_of_length_le (Nat.le_max_left ..)

/-- **A line that the code has is always shown**, in its three pieces. -/
theorem markedLine?_eq_some (numbered : 1 ≤ error.line) (found : lines[error.line - 1]? = some line) :
    ∃ before middle behind, Shown line error before middle behind ∧
      markedLine? lines error =
        some (before ++ "<error>" ++ middle ++ "</error>" ++ behind) := by
  have shown := shown_of_line line error
  refine ⟨_, _, _, shown, ?_⟩
  have placed : (guard (1 ≤ error.line) : Option Unit) = some () := if_pos numbered
  unfold markedLine?
  rw [placed, found]
  show markBytes? line (markStart line error) (markStop line error) = _
  unfold markBytes?
  rw [shown.cutBefore, shown.cutMiddle, shown.cutBehind]
  rfl

/-- A line that the code does not have is not shown. -/
theorem markedLine?_eq_none (missing : error.line = 0 ∨ lines.length < error.line) :
    markedLine? lines error = none := by
  unfold markedLine?
  rcases missing with unplaced | past
  · have refused : (guard (1 ≤ error.line) : Option Unit) = none := if_neg (by omega)
    rw [refused]
    rfl
  · rw [List.getElem?_eq_none (by omega)]
    exact Option.bind_eq_none_iff.2 fun _ _ => rfl

/-- **The marked piece lies between the places of the message** of the same error, when the error
ends on its line and not before its beginning. -/
theorem slice?_toMessage {before middle behind : Text} {column : Nat}
    (shown : Shown line error before middle behind)
    (found : (Text.lines code)[error.line - 1]? = some line)
    (here : error.endLine = some error.line) (given : error.endColumn = some column)
    (ordered : error.column ≤ column) :
    (error.toMessage code).start.line = error.line - 1 ∧
      (error.toMessage code).stop.line = error.line - 1 ∧
      Text.slice? (error.toMessage code).start.column (error.toMessage code).stop.column line =
        some middle := by
  have stop : markStop line error = Text.byteColumn line column := by
    rw [markStop_eq, stopColumn, here, given]
    show Text.byteColumn line (if error.line = error.line then _ else _) = _
    rw [if_pos rfl, Nat.max_eq_left ordered]
  have cut := shown.cutMiddle
  rw [stop, markStart] at cut
  unfold Diagnostic.toMessage Diagnostic.placeIn
  rw [here, given]
  dsimp only
  rw [found]
  exact ⟨rfl, rfl, cut⟩

/-! ### Blocks -/

/-- **What a block has about the line of its error**: nothing when the code does not have the line, and
otherwise its number and the line in three pieces. The middle piece of an error that ends on its line
is what the message of the error refers to in the same code. -/
structure Located (code : Text) (error : Diagnostic) (part : Text) : Prop where
  absent : error.line = 0 ∨ (Text.lines code).length < error.line → part = []
  present : ∀ line, 1 ≤ error.line → (Text.lines code)[error.line - 1]? = some line →
    ∃ before middle behind, Shown line error before middle behind ∧
      part = "\nline " ++ Text.decimal error.line ++ ": " ++
        (before ++ "<error>" ++ middle ++ "</error>" ++ behind) ∧
      ∀ column, error.endLine = some error.line → error.endColumn = some column →
        error.column ≤ column →
        (error.toMessage code).start.line = error.line - 1 ∧
          (error.toMessage code).stop.line = error.line - 1 ∧
          Text.slice? (error.toMessage code).start.column (error.toMessage code).stop.column line =
            some middle

theorem exists_located (code : Text) (number : Nat) (error : Diagnostic) :
    ∃ part, Located code error part ∧ errorBlock (Text.lines code) number error =
      "Error " ++ Text.decimal number ++ ":" ++ part ++ '\n' :: error.text := by
  refine ⟨_, ⟨fun missing => ?_, fun line numbered found => ?_⟩, rfl⟩
  · rw [markedLine?_eq_none missing]
  · obtain ⟨before, middle, behind, shown, marked⟩ := markedLine?_eq_some numbered found
    refine ⟨before, middle, behind, shown, by rw [marked], fun column here given ordered => ?_⟩
    exact slice?_toMessage shown found here given ordered

/-- **The blocks of a report**, for every code and every list of diagnostics: there is one for each
error, in order, with its number, its text and its line. -/
theorem errorReport_numbered (code : Text) (diagnostics : List Diagnostic) :
    ∃ blocks : List Text,
      errorReport code diagnostics = List.intercalate ['\n', '\n'] blocks ∧
      blocks.length = (diagnostics.filter Diagnostic.isError).length ∧
      ∀ k error, (diagnostics.filter Diagnostic.isError)[k]? = some error →
        ∃ part, Located code error part ∧ blocks[k]? =
          some ("Error " ++ Text.decimal (k + 1) ++ ":" ++ part ++ '\n' :: error.text) := by
  refine ⟨_, rfl, by rw [List.length_map, List.length_zipIdx], fun k error found => ?_⟩
  obtain ⟨part, located, block⟩ := exists_located code (k + 1) error
  refine ⟨part, located, ?_⟩
  rw [List.getElem?_map, List.getElem?_zipIdx, found, ← block, Nat.zero_add]
  rfl

/-- Columns count characters, and the bracket in front of the mark has three bytes. -/
example : errorReport "  exact ⟨foo, bar⟩" [⟨.error, 1, 9, some 1, some 12, "unknown foo"⟩] =
    "Error 1:\nline 1:   exact ⟨<error>foo</error>, bar⟩\nunknown foo".toList := by
  decide

end Feedback
end ProofDesk
