import ProofDesk.Clause.Basic
import ProofDesk.Clause.Reading
import ProofDesk.Proofs.Text.Search

/-!
# Pieces of a text and their places

A piece of a text stands at a byte column when so many bytes come before it. Pieces are what the
partial slice returns, so a piece that stands somewhere is never cut out of range or inside a
character.

* `StandsAt` — the relation; `slice?_eq_some` says that slicing finds exactly the pieces.
* `StandsAt.trans` — a piece of a piece is a piece of the whole, at the sum of the columns.
* `StandsAt.of_append` — a piece behind the front part of a text is a piece of the rest.
* `standsAt_lineOffset` — every line stands in its document at the offset of its number.
* `StandsAt.trimmed` — trimming a piece leaves a piece, at the column that `trimmedAt` tells.
* `trimmedAt_append` — a trimmed text with blanks around it is found where the blanks end.
-/

namespace ProofDesk
namespace Text

/-- The piece stands at a byte column of the text. -/
def StandsAt (piece : Text) (column : Nat) (t : Text) : Prop :=
  ∃ before behind, t = before ++ piece ++ behind ∧ size before = column

variable {piece inner t : Text} {column offset : Nat}

namespace StandsAt

/-- Any text is a piece of itself. -/
theorem whole (t : Text) : StandsAt t 0 t := ⟨[], [], by simp, rfl⟩

/-- What follows a front part stands at the size of that part. -/
theorem behind (front rest : Text) : StandsAt rest (size front) (front ++ rest) :=
  ⟨front, [], by simp, rfl⟩

/-- **A piece of a piece** stands at the sum of the columns. -/
theorem trans (inside : StandsAt inner column piece) (outside : StandsAt piece offset t) :
    StandsAt inner (offset + column) t := by
  obtain ⟨before, behind, rfl, rfl⟩ := inside
  obtain ⟨front, tail, rfl, rfl⟩ := outside
  exact ⟨front ++ before, behind ++ tail, by simp, by simp⟩

/-- Text added at the end moves no piece. -/
theorem append (stands : StandsAt piece column t) (tail : Text) :
    StandsAt piece column (t ++ tail) := by
  obtain ⟨before, behind, rfl, sized⟩ := stands
  exact ⟨before, behind ++ tail, by simp, sized⟩

theorem add_size_le (stands : StandsAt piece column t) : column + size piece ≤ size t := by
  obtain ⟨before, behind, rfl, rfl⟩ := stands
  simp only [size_append]
  omega

end StandsAt

/-- **A piece behind the front part** of a text is a piece of the rest. -/
theorem StandsAt.of_append {front rest : Text} (stands : StandsAt piece column (front ++ rest))
    (late : size front ≤ column) : ∃ offset, column = size front + offset ∧ StandsAt piece offset rest := by
  obtain ⟨before, behind, whole, rfl⟩ := stands
  rw [List.append_assoc] at whole
  rcases List.append_eq_append_iff.1 whole with ⟨gap, rfl, cut⟩ | ⟨gap, rfl, cut⟩
  · exact ⟨size gap, size_append .., gap, behind, by rw [cut, List.append_assoc], rfl⟩
  · rw [size_append] at late
    have empty : gap = [] := size_eq_zero.1 (by omega)
    subst empty
    exact ⟨0, by simp, [], behind, by simpa using cut.symm, rfl⟩

/-- Two front parts of one size are the same. -/
theorem append_inj_of_size {front front' rest rest' : Text} (same : front ++ rest = front' ++ rest')
    (sized : size front = size front') : front = front' ∧ rest = rest' := by
  have cut := splitAtByte?_size_append front rest
  rw [same, sized, splitAtByte?_size_append] at cut
  obtain ⟨rfl, rfl⟩ := Prod.mk.inj (Option.some.inj cut)
  exact ⟨rfl, rfl⟩

/-! ### Slices -/

/-- **Slicing finds the pieces**: two offsets cut out a text exactly when it stands at the first one
and reaches up to the second. -/
theorem slice?_eq_some {first last : Nat} :
    slice? first last t = some piece ↔ StandsAt piece first t ∧ first + size piece = last := by
  constructor
  · intro cut
    unfold slice? at cut
    split at cut
    · next ordered =>
      obtain ⟨⟨before, rest⟩, atFirst, cut⟩ := Option.bind_eq_some_iff.1 cut
      obtain ⟨⟨middle, behind⟩, atLast, same⟩ := Option.bind_eq_some_iff.1 cut
      obtain ⟨rfl, sized⟩ := splitAtByte?_eq_some.1 atFirst
      obtain ⟨rfl, length⟩ := splitAtByte?_eq_some.1 atLast
      simp only [Option.pure_def, Option.some.injEq] at same
      subst same
      exact ⟨⟨before, behind, by simp, sized⟩, by omega⟩
    · cases cut
  · rintro ⟨⟨before, behind, rfl, rfl⟩, rfl⟩
    unfold slice?
    rw [if_pos (Nat.le_add_right _ _), List.append_assoc, splitAtByte?_size_append]
    show (splitAtByte? (size before + size piece - size before) (piece ++ behind)).bind _ = _
    rw [Nat.add_sub_cancel_left, splitAtByte?_size_append]
    rfl

theorem StandsAt.slice? (stands : StandsAt piece column t) :
    Text.slice? column (column + size piece) t = some piece :=
  slice?_eq_some.2 ⟨stands, rfl⟩

/-! ### Lines of a document -/

theorem joinLines_singleton (line : Text) : joinLines [line] = line := by
  simp [joinLines, List.intercalate]

theorem joinLines_cons_cons (first second : Text) (rest : List Text) :
    joinLines (first :: second :: rest) = first ++ '\n' :: joinLines (second :: rest) := by
  simp [joinLines, List.intercalate]

/-- A line stands among the joined lines where its number says. -/
theorem standsAt_joinLines {all : List Text} {line : Text} {n : Nat} (found : all[n]? = some line) :
    StandsAt line (Clause.lineOffset all n) (joinLines all) := by
  induction all generalizing n with
  | nil => cases found
  | cons first rest ih =>
    cases n with
    | zero =>
      obtain rfl : first = line := by simpa using found
      cases rest with
      | nil => simpa [joinLines, List.intercalate, Clause.lineOffset] using StandsAt.whole first
      | cons second rest =>
        rw [joinLines_cons_cons]
        exact (StandsAt.whole first).append _
    | succ n =>
      rw [List.getElem?_cons_succ] at found
      cases rest with
      | nil => cases found
      | cons second rest =>
        have later := (ih found).trans (StandsAt.behind (first ++ ['\n']) _)
        rw [joinLines_cons_cons, Clause.lineOffset]
        simpa [show Char.utf8Size '\n' = 1 by decide] using later

/-- **Every line stands in its document** at the offset of its number. -/
theorem standsAt_lineOffset {document line : Text} {n : Nat}
    (found : (lines document)[n]? = some line) :
    StandsAt line (Clause.lineOffset (lines document) n) document := by
  simpa using standsAt_joinLines found

/-- A line ends before every later one begins. -/
theorem lineOffset_add_size_lt {all : List Text} {line : Text} {m n : Nat}
    (found : all[m]? = some line) (later : m < n) (inside : n < all.length) :
    Clause.lineOffset all m + size line < Clause.lineOffset all n := by
  induction all generalizing m n with
  | nil => cases found
  | cons first rest ih =>
    obtain ⟨n, rfl⟩ : ∃ k, n = k + 1 := ⟨n - 1, by omega⟩
    cases m with
    | zero =>
      obtain rfl : first = line := by simpa using found
      simp only [Clause.lineOffset]
      omega
    | succ m =>
      have tail := ih (by simpa using found) (Nat.lt_of_succ_lt_succ later) (by simpa using inside)
      simp only [Clause.lineOffset]
      omega

/-! ### Trimmed pieces -/

/-- What `trim` takes off at the end of a text. -/
theorem exists_trim_append (t : Text) :
    ∃ tail : Text, allBlank tail = true ∧ trimStart t = trim t ++ tail := by
  obtain ⟨tail, blank, whole⟩ := exists_trimEnd_append (trimStart t)
  exact ⟨tail, blank, whole.symm⟩

/-- The trimmed text stands behind the indentation. -/
theorem standsAt_trim (t : Text) : StandsAt (trim t) (size (indentation t)) t := by
  obtain ⟨tail, -, whole⟩ := exists_trim_append t
  refine ⟨indentation t, tail, ?_, rfl⟩
  rw [List.append_assoc, ← whole, indentation_append_trimStart]

/-- **Trimming a piece leaves a piece**, also when nothing but blanks was there. -/
theorem StandsAt.trimmed (stands : StandsAt piece column t) :
    StandsAt (Clause.trimmedAt column piece).2 (Clause.trimmedAt column piece).1 t := by
  unfold Clause.trimmedAt
  split
  · have empty : StandsAt [] 0 piece := ⟨[], piece, by simp, rfl⟩
    exact empty.trans stands
  · exact (standsAt_trim piece).trans stands

/-! ### Blanks around a text -/

variable {c : Char}

theorem allBlank_eq_false : allBlank t = false ↔ ∃ c ∈ t, isBlank c = false := by
  simp [allBlank]

theorem trimStart_append (blank : allBlank piece = true) (t : Text) :
    trimStart (piece ++ t) = trimStart t :=
  List.dropWhile_append_of_pos (List.all_eq_true.1 blank)

theorem trimEnd_append (blank : allBlank piece = true) (t : Text) :
    trimEnd (t ++ piece) = trimEnd t := by
  unfold trimEnd
  rw [List.reverse_append, List.dropWhile_append_of_pos]
  intro c member
  exact List.all_eq_true.1 blank c (List.mem_reverse.1 member)

/-- Nothing is left of a blank text. -/
theorem trim_eq_nil : trim t = [] ↔ allBlank t = true := by
  constructor
  · intro empty
    obtain ⟨tail, blank, whole⟩ := exists_trim_append t
    rw [← indentation_append_trimStart t, whole, empty, List.nil_append, allBlank, List.all_append,
      Bool.and_eq_true]
    exact ⟨List.all_takeWhile, blank⟩
  · intro blank
    have start := trimStart_append blank []
    rw [List.append_nil] at start
    rw [trim, start]
    rfl

theorem trimStart_append_cons (visible : isBlank c = false) (front rest : Text) :
    trimStart (front ++ c :: rest) = trimStart front ++ c :: rest := by
  unfold trimStart
  induction front with
  | nil => rw [List.nil_append, List.dropWhile_cons_of_neg (by simp [visible])]; rfl
  | cons d front ih =>
    rw [List.cons_append, List.dropWhile_cons, List.dropWhile_cons]
    split
    · exact ih
    · rfl

theorem trimEnd_append_cons (visible : isBlank c = false) (front rest : Text) :
    trimEnd (front ++ c :: rest) = front ++ c :: trimEnd rest := by
  have mirrored := trimStart_append_cons visible rest.reverse front.reverse
  unfold trimStart at mirrored
  unfold trimEnd
  rw [List.reverse_append, List.reverse_cons, List.append_assoc, List.singleton_append, mirrored]
  simp

/-- **Trimming around a character** that is not blank. -/
theorem trim_append_cons (visible : isBlank c = false) (front rest : Text) :
    trim (front ++ c :: rest) = trimStart front ++ c :: trimEnd rest := by
  rw [trim, trimStart_append_cons visible, trimEnd_append_cons visible]

theorem visible_of_trim_eq_self (trimmed : trim t = t)
    (atEnd : t.head? = some c ∨ t.getLast? = some c) : isBlank c = false := by
  rw [← trimmed] at atEnd
  exact blank_ends_trim atEnd

/-- **A trimmed text with blanks around it** is found where the blanks end. -/
theorem trimmedAt_append {gap tail : Text} (solid : t ≠ []) (trimmed : trim t = t)
    (blank : allBlank gap = true) (blank' : allBlank tail = true) (column : Nat) :
    Clause.trimmedAt column (gap ++ (t ++ tail)) = (column + size gap, t) := by
  obtain ⟨c, rest, rfl⟩ := List.exists_cons_of_ne_nil solid
  have visible : isBlank c = false := visible_of_trim_eq_self trimmed (.inl rfl)
  have start : trimStart (c :: rest) = c :: rest := by simp [trimStart, visible]
  have whole : trim (gap ++ (c :: rest ++ tail)) = c :: rest := by
    rw [trim, trimStart_append blank]
    calc trimEnd (trimStart (c :: rest ++ tail)) = trimEnd (c :: rest ++ tail) := by
          rw [List.cons_append, trimStart, List.dropWhile_cons_of_neg (by simp [visible])]
      _ = trim (c :: rest) := by rw [trimEnd_append blank', trim, start]
      _ = c :: rest := trimmed
  have indent : indentation (gap ++ (c :: rest ++ tail)) = gap := by
    rw [indentation, List.takeWhile_append_of_pos (List.all_eq_true.1 blank), List.cons_append,
      List.takeWhile_cons_of_neg (by simp [visible]), List.append_nil]
  have shows : ¬ allBlank (gap ++ (c :: rest ++ tail)) = true := by simp [allBlank, visible]
  unfold Clause.trimmedAt
  rw [if_neg shows, indent, whole]

/-- What `trimmedAt` finds stands in its segment with blanks around it. -/
theorem exists_around_trimmedAt (segment : Text) (column : Nat) : ∃ gap tail,
    segment = gap ++ ((Clause.trimmedAt column segment).2 ++ tail) ∧
      (Clause.trimmedAt column segment).1 = column + size gap ∧ allBlank gap = true ∧
      allBlank tail = true ∧ ((Clause.trimmedAt column segment).2 = [] → gap = []) := by
  unfold Clause.trimmedAt
  split
  · next blank => exact ⟨[], segment, rfl, rfl, rfl, blank, fun _ => rfl⟩
  · next visible =>
    obtain ⟨tail, blank, whole⟩ := exists_trim_append segment
    refine ⟨indentation segment, tail, ?_, rfl, List.all_takeWhile, blank, fun empty => ?_⟩
    · rw [← whole, indentation_append_trimStart]
    · exact absurd (trim_eq_nil.1 empty) visible

/-- **A visible piece of a segment** lies in what `trimmedAt` finds. -/
theorem trimmedAt_covers {segment : Text} {offset : Nat} (stands : StandsAt piece offset segment)
    (solid : piece ≠ []) (visible : ∀ c ∈ piece, isBlank c = false) (column : Nat) :
    (Clause.trimmedAt column segment).1 ≤ column + offset ∧
      column + offset + size piece ≤
        (Clause.trimmedAt column segment).1 + size (Clause.trimmedAt column segment).2 := by
  obtain ⟨gap, tail, whole, start, blank, blank', -⟩ := exists_around_trimmedAt segment column
  generalize (Clause.trimmedAt column segment).2 = content at whole ⊢
  obtain ⟨before, behind, shape, rfl⟩ := stands
  have apart : ∀ {c t}, allBlank t = true → c ∈ t → c ∉ piece := by
    intro c t blank member inside
    have white := List.all_eq_true.1 blank c member
    rw [visible c inside] at white
    cases white
  rw [shape, List.append_assoc] at whole
  -- The piece begins behind the blanks in front of the content.
  obtain ⟨front, rfl, rest⟩ : ∃ front, before = gap ++ front ∧
      front ++ (piece ++ behind) = content ++ tail := by
    rcases List.append_eq_append_iff.1 whole with ⟨more, rfl, rest⟩ | ⟨front, rfl, rest⟩
    · cases more with
      | nil => exact ⟨[], by simp, rest⟩
      | cons b more =>
        obtain ⟨c, others, rfl⟩ := List.exists_cons_of_ne_nil solid
        obtain ⟨rfl, -⟩ := List.cons.inj rest
        exact absurd (List.mem_cons_self ..) (apart blank (by simp))
    · exact ⟨front, rfl, rest.symm⟩
  -- And it ends before the blanks behind the content.
  obtain ⟨more, rfl⟩ : ∃ more, content = front ++ piece ++ more := by
    rw [← List.append_assoc] at rest
    rcases List.append_eq_append_iff.1 rest with ⟨more, rfl, -⟩ | ⟨more, reaches, rfl⟩
    · exact ⟨more, rfl⟩
    · cases more with
      | nil => exact ⟨[], by rw [List.append_nil, reaches, List.append_nil]⟩
      | cons b more =>
        exfalso
        have last : piece.getLast solid ∈ b :: more := by
          have ends := congrArg List.getLast? reaches
          rw [List.getLast?_append, List.getLast?_append, List.getLast?_eq_some_getLast solid,
            List.getLast?_eq_some_getLast (List.cons_ne_nil b more)] at ends
          rw [Option.some.inj ends]
          exact List.getLast_mem _
        exact apart blank' (List.mem_append_left _ last) (List.getLast_mem solid)
  rw [start]
  simp only [size_append]
  omega

/-- An occurrence of visible characters does not reach into blanks around a text. -/
theorem infix_of_infix_blanks {pattern gap tail : Text} (solid : pattern ≠ [])
    (visible : ∀ c ∈ pattern, isBlank c = false) (blank : allBlank gap = true)
    (blank' : allBlank tail = true) (occurs : pattern <:+: gap ++ (t ++ tail)) : pattern <:+: t := by
  have apart : ∀ {c}, isBlank c = true → c ∉ pattern := by
    intro c blank member
    rw [visible c member] at blank
    cases blank
  induction gap with
  | nil =>
    cases tail with
    | nil => simpa using occurs
    | cons b tail =>
      simp only [allBlank, List.all_cons, Bool.and_eq_true] at blank'
      rcases infix_of_infix_append_cons (apart blank'.1) occurs with inside | inside
      · exact inside
      · obtain ⟨c, others, rfl⟩ := List.exists_cons_of_ne_nil solid
        have white := List.all_eq_true.1 blank'.2 c (inside.subset (List.mem_cons_self ..))
        exact absurd (List.mem_cons_self ..) (apart white)
  | cons b gap ih =>
    simp only [allBlank, List.all_cons, Bool.and_eq_true] at blank
    have reaches : pattern <:+: [] ++ b :: (gap ++ (t ++ tail)) := occurs
    rcases infix_of_infix_append_cons (apart blank.1) reaches with inside | inside
    · exact absurd (List.infix_nil.1 inside) solid
    · exact ih blank.2 inside

end Text
end ProofDesk
