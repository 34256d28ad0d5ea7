import ProofDesk.Proofs.Source.Lexeme
import ProofDesk.Proofs.Text.Lines

/-!
# Placeholders as occurrences of the word

The places of the placeholders of a document are found line by line. They are those occurrences of the
word, anywhere in the document, that stand between bounds and behind a front of whole lexemes, where a
literal ends with its line.

* `Position.behind` — the place behind a text that begins at a place.
* `WordAt` — an occurrence of the word between bounds.
* `mem_placeholders_iff` — the places of a document are those of such occurrences that are read in code.
-/

namespace ProofDesk

open Text (size)

variable {t front rest line : Text} {place : Position} {c : Char}

/-! ### The place behind a text -/

namespace Position

/-- The place behind a character that stands at `place`. -/
def past (place : Position) (c : Char) : Position :=
  if c = '\n' then ⟨place.line + 1, 0⟩ else ⟨place.line, place.column + c.utf8Size⟩

/-- **The place behind a text** that begins at `place`. -/
def behind (place : Position) (t : Text) : Position := t.foldl past place

theorem behind_append (place : Position) (front rest : Text) :
    place.behind (front ++ rest) = (place.behind front).behind rest := List.foldl_append

theorem behind_of_single (single : '\n' ∉ t) (place : Position) :
    place.behind t = ⟨place.line, place.column + size t⟩ := by
  induction t generalizing place with
  | nil => rfl
  | cons c t ih =>
    rw [List.mem_cons, not_or] at single
    show (place.past c).behind t = _
    rw [ih single.2, past, if_neg (Ne.symm single.1), Text.size_cons, Nat.add_assoc]

theorem behind_line (single : '\n' ∉ line) (n : Nat) (rest : Text) :
    (⟨n, 0⟩ : Position).behind (line ++ '\n' :: rest) = (⟨n + 1, 0⟩ : Position).behind rest := by
  rw [behind_append, behind_of_single single]
  rfl

theorem Before.trans {place middle later : Position} (first : place.Before middle)
    (second : middle.Before later) : place.Before later := by
  unfold Before at *
  omega

theorem before_past (place : Position) (c : Char) : place.Before (place.past c) := by
  unfold past
  split
  · exact .inl (Nat.lt_succ_self _)
  · exact .inr ⟨rfl, Nat.lt_add_of_pos_right c.utf8Size_pos⟩

/-- A text takes its place. -/
theorem before_behind (solid : t ≠ []) (place : Position) : place.Before (place.behind t) := by
  induction t generalizing place with
  | nil => exact absurd rfl solid
  | cons c t ih =>
    by_cases last : t = []
    · rw [last]
      exact before_past place c
    · exact (before_past place c).trans (ih last _)

/-- **Fronts of one text are told apart by the places behind them.** -/
theorem behind_inj {front' rest' : Text} (same : front ++ rest = front' ++ rest')
    (places : place.behind front = place.behind front') : front = front' := by
  have longer : ∀ {front gap : Text}, place.behind front = place.behind (front ++ gap) → gap = [] := by
    intro front gap places
    rw [behind_append] at places
    exact Decidable.byContradiction fun solid => (before_behind solid _).ne places
  rcases List.append_eq_append_iff.1 same with ⟨gap, rfl, -⟩ | ⟨gap, rfl, -⟩
  · rw [longer places, List.append_nil]
  · rw [longer places.symm, List.append_nil]

end Position

namespace Source

variable {behind word more : Text} {depth n column : Nat} {all : List Text}

/-! ### Occurrences of the word -/

/-- **The word stands in a text, between bounds.** -/
structure WordAt (t front behind : Text) : Prop where
  whole : t = front ++ (sorryWord ++ behind)
  left : bounds front.getLast? = true
  right : bounds behind.head? = true

/-- A word without line feeds stands in the first line or behind it. -/
theorem split_at_line (solid : word ≠ []) (single : '\n' ∉ word) :
    line ++ '\n' :: more = front ++ (word ++ behind) ↔
      (∃ ending, line = front ++ (word ++ ending) ∧ behind = ending ++ '\n' :: more) ∨
        (∃ start, front = line ++ '\n' :: start ∧ more = start ++ (word ++ behind)) := by
  constructor
  · intro whole
    rcases List.append_eq_append_iff.1 whole with ⟨gap, rfl, cut⟩ | ⟨gap, rfl, cut⟩
    · cases gap with
      | nil =>
        obtain ⟨d, others, rfl⟩ := List.exists_cons_of_ne_nil solid
        cases cut
        exact absurd (List.mem_cons_self ..) single
      | cons d start =>
        obtain ⟨rfl, rest⟩ := List.cons.inj cut
        exact .inr ⟨start, rfl, rest⟩
    · rcases List.append_eq_append_iff.1 cut with ⟨ending, rfl, rest⟩ | ⟨ending, rfl, rest⟩
      · exact .inl ⟨ending, rfl, rest⟩
      · cases ending with
        | nil => exact .inl ⟨[], by simp, rest.symm⟩
        | cons d ending =>
          cases rest
          exact absurd (by simp) single
  · rintro (⟨ending, rfl, rfl⟩ | ⟨start, rfl, rfl⟩) <;> simp

/-- **The placeholders of a line** are the occurrences of the word that are read in code. -/
theorem mem_sorries_iff : column ∈ (scanLine depth line).sorries ↔ ∃ front behind,
    WordAt line front behind ∧ (Mode.atDepth depth).through front (sorryWord ++ behind) = .code ∧
      column = size front := by
  constructor
  · intro member
    obtain ⟨front, behind, whole, place, left, right, coded⟩ := exists_split_of_mem_sorries member
    exact ⟨front, behind, ⟨whole, left, right⟩, coded, place⟩
  · rintro ⟨front, behind, ⟨rfl, left, right⟩, coded, rfl⟩
    rw [sorries_plain plain_sorryWord left right coded, placeholderColumns_sorryWord left]
    simp

/-! ### From lines to the document -/

/-- A line feed behind a line is no part of what the line is read as. -/
theorem through_newline (mode : Mode) (line rest : Text) :
    mode.through line ('\n' :: rest) = mode.after line := by
  induction line generalizing mode with
  | nil => rfl
  | cons c line ih =>
    have step : mode.step c (line ++ '\n' :: rest).head? = mode.step c line.head? := by
      cases line with
      | nil => exact step_newline mode c
      | cons d line => rfl
    rw [Mode.through, step, ih]
    rfl

/-- **A line and its line feed** are read to the depth that the scan of the line hands on. -/
theorem read_line (single : '\n' ∉ line) (depth : Nat) (rest : Text) :
    (Mode.atDepth depth).read .line (line ++ ['\n']) rest = .atDepth (scanLine depth line).depth := by
  rw [read_append, read_of_single single]
  show ((Mode.atDepth depth).through line ('\n' :: rest)).acrossLine .line = _
  rw [acrossLine_line, through_newline]
  rfl

/-- **A placeholder stands at a place** of a text that begins in line `n`, inside `depth` block comments. -/
def PlaceholderAt (depth n : Nat) (t : Text) (place : Position) : Prop :=
  ∃ front behind, WordAt t front behind ∧
    (Mode.atDepth depth).read .line front (sorryWord ++ behind) = .code ∧
      place = (⟨n, 0⟩ : Position).behind front

theorem placeholderAt_of_single (single : '\n' ∉ line) (depth n : Nat) :
    PlaceholderAt depth n line place ↔ place ∈ (scanLine depth line).sorries.map (⟨n, ·⟩) := by
  have front_single : ∀ {front behind}, WordAt line front behind → '\n' ∉ front := by
    rintro front behind ⟨rfl, -, -⟩ member
    exact single (List.mem_append_left _ member)
  rw [List.mem_map]
  constructor
  · rintro ⟨front, behind, word, coded, rfl⟩
    rw [read_of_single (front_single word)] at coded
    refine ⟨size front, mem_sorries_iff.2 ⟨front, behind, word, coded, rfl⟩, ?_⟩
    rw [Position.behind_of_single (front_single word), Nat.zero_add]
  · rintro ⟨column, member, rfl⟩
    obtain ⟨front, behind, word, coded, rfl⟩ := mem_sorries_iff.1 member
    rw [← read_of_single (front_single word)] at coded
    refine ⟨front, behind, word, coded, ?_⟩
    rw [Position.behind_of_single (front_single word), Nat.zero_add]

/-- A line feed is a bound, as the end of a text is. -/
theorem wordAt_append_newline : WordAt (line ++ '\n' :: more) front behind ↔
    (∃ ending, WordAt line front ending ∧ behind = ending ++ '\n' :: more) ∨
      (∃ start, front = line ++ '\n' :: start ∧ WordAt more start behind) := by
  have right : ∀ ending : Text, bounds (ending ++ '\n' :: more).head? = bounds ending.head? := by
    intro ending
    cases ending <;> rfl
  have left : ∀ start : Text, bounds (line ++ '\n' :: start).getLast? = bounds start.getLast? := by
    intro start
    rw [List.getLast?_append, List.getLast?_cons]
    cases start.getLast? <;> rfl
  have split : line ++ '\n' :: more = front ++ (sorryWord ++ behind) ↔ _ :=
    split_at_line (by decide) (by decide)
  constructor
  · rintro ⟨whole, before, after⟩
    rcases split.1 whole with ⟨ending, rfl, rfl⟩ | ⟨start, rfl, rfl⟩
    · exact .inl ⟨ending, ⟨rfl, before, by rwa [right] at after⟩, rfl⟩
    · exact .inr ⟨start, rfl, ⟨rfl, by rwa [left] at before, after⟩⟩
  · rintro (⟨ending, ⟨whole, before, after⟩, rfl⟩ | ⟨start, rfl, whole, before, after⟩)
    · exact ⟨split.2 (.inl ⟨ending, whole, rfl⟩), before, by rwa [right]⟩
    · exact ⟨split.2 (.inr ⟨start, rfl, whole⟩), by rwa [left], after⟩

/-- **The placeholders of a line and of what stands below it**, which begins at the depth that the line
hands on. -/
theorem placeholderAt_append_newline (single : '\n' ∉ line) (depth n : Nat) :
    PlaceholderAt depth n (line ++ '\n' :: more) place ↔ PlaceholderAt depth n line place ∨
      PlaceholderAt (scanLine depth line).depth (n + 1) more place := by
  have below : ∀ start rest, (Mode.atDepth depth).read .line (line ++ '\n' :: start) rest =
      (Mode.atDepth (scanLine depth line).depth).read .line start rest := by
    intro start rest
    have whole : line ++ '\n' :: start = (line ++ ['\n']) ++ start := by simp
    rw [whole, read_append, read_line single]
  have next : ∀ behind behind' : Text, (sorryWord ++ behind).head? = (sorryWord ++ behind').head? :=
    fun _ _ => rfl
  constructor
  · rintro ⟨front, behind, word, coded, rfl⟩
    rcases wordAt_append_newline.1 word with ⟨ending, inside, rfl⟩ | ⟨start, rfl, inside⟩
    · exact .inl ⟨front, ending, inside, (read_congr (next _ _) _ _).trans coded, rfl⟩
    · exact .inr ⟨start, behind, inside, (below ..).symm.trans coded,
        Position.behind_line single n start⟩
  · rintro (⟨front, ending, word, coded, rfl⟩ | ⟨start, behind, word, coded, rfl⟩)
    · exact ⟨front, ending ++ '\n' :: more, wordAt_append_newline.2 (.inl ⟨ending, word, rfl⟩),
        (read_congr (next _ _) _ _).trans coded, rfl⟩
    · exact ⟨line ++ '\n' :: start, behind, wordAt_append_newline.2 (.inr ⟨start, rfl, word⟩),
        (below ..).trans coded, (Position.behind_line single n start).symm⟩

theorem mem_placesFrom_joinLines (solid : all ≠ []) (single : ∀ line ∈ all, '\n' ∉ line)
    (depth n : Nat) :
    place ∈ placesFrom depth n all ↔ PlaceholderAt depth n (Text.joinLines all) place := by
  induction all generalizing depth n with
  | nil => exact absurd rfl solid
  | cons line rest ih =>
    have first := single line (List.mem_cons_self ..)
    rw [placesFrom, List.mem_append, ← placeholderAt_of_single first]
    by_cases last : rest = []
    · rw [last, Text.joinLines_singleton, placesFrom]
      simp only [List.not_mem_nil, or_false]
    · rw [Text.joinLines_cons line last, placeholderAt_append_newline first,
        ih last fun line member => single line (List.mem_cons_of_mem _ member)]

/-- **The places of the placeholders of a document** are those of the occurrences of the word, between
bounds, behind a front of whole lexemes; a literal ends with its line. -/
theorem mem_placeholders_iff : place ∈ placeholders t ↔ ∃ front behind, WordAt t front behind ∧
    Lexed .line (sorryWord ++ behind) front ∧ place = Position.start.behind front := by
  rw [placeholders_eq_placesFrom, mem_placesFrom_joinLines (Text.lines_ne_nil t)
    fun _ member => Text.not_mem_of_mem_lines member, Text.joinLines_lines]
  simp only [lexed_iff]
  exact Iff.rfl

end Source
end ProofDesk
