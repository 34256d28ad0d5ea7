import ProofDesk.Proofs.Text.Piece

/-!
# One line of a text replaced

A line may be replaced by a text that has lines of its own. The lines before and behind it stay as they
are, byte for byte.

* `lines_append_newline` — a line feed separates the lines before it from those behind it.
* `lines_append` and `lines_joinLines_eq_flatMap` — the lines of a text with something in front of its
  first line, and of texts put one below the other.
* `lines_set` — the lines of a text with one line replaced.
* `exists_around_line` — the text around a line, which does not depend on the line.
* `joinLines_set_above` and `joinLines_set_below` — two lines replaced one after the other, each by a text
  that may have lines of its own.
-/

namespace ProofDesk
namespace Text

variable {t new line : Text} {all : List Text} {n : Nat}

/-- **A line feed separates the lines** before it from those behind it. -/
theorem lines_append_newline (front rest : Text) :
    lines (front ++ '\n' :: rest) = lines front ++ lines rest := by
  unfold lines
  induction front with
  | nil => rfl
  | cons c front ih =>
    by_cases newline : c = '\n'
    · simp only [List.cons_append, splitOn, if_pos newline, ih]
    · obtain ⟨first, others, pieces⟩ := List.exists_cons_of_ne_nil (splitOn_ne_nil '\n' front)
      simp only [List.cons_append, splitOn, if_neg newline, ih, pieces]

/-- **Text without a line feed in front** of a text belongs to its first line. -/
theorem lines_append {front : Text} (single : '\n' ∉ front) {first : Text} {rest : List Text}
    (cut : lines t = first :: rest) : lines (front ++ t) = (front ++ first) :: rest := by
  unfold lines at cut ⊢
  induction front with
  | nil => exact cut
  | cons c front ih =>
    rw [List.mem_cons, not_or] at single
    simp only [List.cons_append, splitOn, ih single.2, if_neg (Ne.symm single.1)]

theorem joinLines_cons (first : Text) (nonempty : all ≠ []) :
    joinLines (first :: all) = first ++ '\n' :: joinLines all := by
  obtain ⟨second, rest, rfl⟩ := List.exists_cons_of_ne_nil nonempty
  exact joinLines_cons_cons first second rest

theorem lines_joinLines_of_set (single : ∀ line ∈ all, '\n' ∉ line) (found : n < all.length)
    (new : Text) : lines (joinLines (all.set n new)) = all.take n ++ (lines new ++ all.drop (n + 1)) := by
  induction all generalizing n with
  | nil => cases found
  | cons first rest ih =>
    have others : ∀ line ∈ rest, '\n' ∉ line := fun line member =>
      single line (List.mem_cons_of_mem _ member)
    cases n with
    | zero =>
      cases rest with
      | nil => simp [joinLines_singleton]
      | cons second rest =>
        rw [List.set_cons_zero, joinLines_cons_cons, lines_append_newline,
          lines_joinLines (List.cons_ne_nil _ _) others]
        rfl
    | succ n =>
      have inside : n < rest.length := Nat.lt_of_succ_lt_succ found
      have nonempty : rest.set n new ≠ [] := by
        rw [Ne, List.set_eq_nil_iff]
        exact List.ne_nil_of_length_pos (Nat.zero_lt_of_lt inside)
      have alone : lines first = [first] :=
        splitOn_eq_singleton (single first (List.mem_cons_self ..))
      rw [List.set_cons_succ, joinLines_cons _ nonempty, lines_append_newline, alone, ih others inside]
      rfl

/-- **The lines of a text with one line replaced**, also by a text of more than one line. -/
theorem lines_set (found : n < (lines t).length) (new : Text) :
    lines (joinLines ((lines t).set n new)) =
      (lines t).take n ++ (lines new ++ (lines t).drop (n + 1)) :=
  lines_joinLines_of_set (fun _ member => not_mem_of_mem_lines member) found new

/-- The text around a line does not depend on the line. -/
theorem exists_around_set (found : n < all.length) : ∃ earlier later,
    size earlier = Clause.lineOffset all n ∧
      ∀ new, joinLines (all.set n new) = earlier ++ (new ++ later) := by
  induction all generalizing n with
  | nil => cases found
  | cons first rest ih =>
    cases n with
    | zero =>
      cases rest with
      | nil => exact ⟨[], [], rfl, fun new => by simp [joinLines_singleton]⟩
      | cons second rest =>
        exact ⟨[], '\n' :: joinLines (second :: rest), rfl, fun new => joinLines_cons_cons ..⟩
    | succ n =>
      have inside : n < rest.length := Nat.lt_of_succ_lt_succ found
      obtain ⟨earlier, later, sized, around⟩ := ih inside
      refine ⟨first ++ '\n' :: earlier, later, ?_, fun new => ?_⟩
      · have feed : Char.utf8Size '\n' = 1 := by decide
        rw [size_append, size_cons, feed, sized, Clause.lineOffset, Nat.add_assoc]
      · have nonempty : rest.set n new ≠ [] := by
          rw [Ne, List.set_eq_nil_iff]
          exact List.ne_nil_of_length_pos (Nat.zero_lt_of_lt inside)
        rw [List.set_cons_succ, joinLines_cons _ nonempty, around, List.append_assoc]
        rfl

/-- **The text around a line**: what stands before it and behind it stays when the line is replaced. -/
theorem exists_around_line (found : (lines t)[n]? = some line) : ∃ earlier later,
    size earlier = Clause.lineOffset (lines t) n ∧ t = earlier ++ (line ++ later) ∧
      ∀ new, joinLines ((lines t).set n new) = earlier ++ (new ++ later) := by
  obtain ⟨inside, rfl⟩ := List.getElem?_eq_some_iff.1 found
  obtain ⟨earlier, later, sized, around⟩ := exists_around_set inside
  refine ⟨earlier, later, sized, ?_, around⟩
  rw [← around, List.set_getElem_self, joinLines_lines]

/-! ### Two lines replaced -/

theorem length_lines (t : Text) : (lines t).length = t.count '\n' + 1 := by
  unfold lines
  induction t with
  | nil => rfl
  | cons c t ih =>
    obtain ⟨first, others, pieces⟩ := List.exists_cons_of_ne_nil (splitOn_ne_nil '\n' t)
    by_cases newline : c = '\n'
    · rw [splitOn, if_pos newline, List.length_cons, ih, newline, List.count_cons_self]
    · rw [pieces, List.length_cons] at ih
      simp only [splitOn, if_neg newline, pieces, List.length_cons, ih]
      rw [List.count_cons_of_ne newline]

theorem joinLines_append {front rest : List Text} (solid : front ≠ []) (solid' : rest ≠ []) :
    joinLines (front ++ rest) = joinLines front ++ '\n' :: joinLines rest := by
  induction front with
  | nil => exact absurd rfl solid
  | cons first front ih =>
    by_cases last : front = []
    · rw [last, joinLines_singleton]
      exact joinLines_cons first solid'
    · have longer : front ++ rest ≠ [] := fun empty => last (List.append_eq_nil_iff.1 empty).1
      rw [List.cons_append, joinLines_cons first longer, ih last, joinLines_cons first last,
        List.append_assoc]
      rfl

/-- **Texts put one below the other** have the lines of each of them. -/
theorem lines_joinLines_eq_flatMap (solid : all ≠ []) :
    lines (joinLines all) = all.flatMap lines := by
  induction all with
  | nil => exact absurd rfl solid
  | cons first rest ih =>
    by_cases last : rest = []
    · rw [last, joinLines_singleton, List.flatMap_singleton]
    · rw [joinLines_cons first last, lines_append_newline, ih last, List.flatMap_cons]

/-- A text that ends in no line feed has a last line. -/
theorem getLast?_lines_ne (solid : t ≠ []) (open' : t.getLast? ≠ some '\n') :
    (lines t).getLast? ≠ some [] := by
  intro last
  obtain ⟨front, shape⟩ := List.getLast?_eq_some_iff.1 last
  have whole := joinLines_lines t
  rw [shape] at whole
  by_cases first : front = []
  · rw [first, List.nil_append, joinLines_singleton] at whole
    exact solid whole.symm
  · rw [joinLines_append first (List.cons_ne_nil _ _), joinLines_singleton] at whole
    exact open' (by rw [← whole, List.getLast?_concat])

/-- A line that has lines of its own is joined as these are. -/
theorem joinLines_append_lines (front rest : List Text) (t : Text) :
    joinLines (front ++ (lines t ++ rest)) = joinLines (front ++ t :: rest) := by
  have here : joinLines (lines t ++ rest) = joinLines (t :: rest) := by
    by_cases last : rest = []
    · rw [last, List.append_nil, joinLines_lines, joinLines_singleton]
    · rw [joinLines_append (lines_ne_nil t) last, joinLines_lines, joinLines_cons t last]
  by_cases first : front = []
  · rw [first]
    exact here
  · have longer : lines t ++ rest ≠ [] :=
      fun empty => lines_ne_nil t (List.append_eq_nil_iff.1 empty).1
    rw [joinLines_append first longer, here, joinLines_append first (List.cons_ne_nil t rest)]

section Twice

variable {m : Nat}

/-- **A line above a replaced one** is what it was, and is replaced with that. -/
theorem joinLines_set_above (found : n < (lines t).length) (above : m < n) (new new' : Text) :
    (lines (joinLines ((lines t).set n new)))[m]? = (lines t)[m]? ∧
      joinLines ((lines (joinLines ((lines t).set n new))).set m new') =
        joinLines (((lines t).set n new).set m new') := by
  have inFront : m < ((lines t).take n).length := by
    rw [List.length_take]
    omega
  have whole : (lines t).set n new = (lines t).take n ++ new :: (lines t).drop (n + 1) := by
    rw [List.set_eq_take_append_cons_drop, if_pos found]
  rw [lines_set found, whole]
  constructor
  · rw [List.getElem?_append_left inFront, List.getElem?_take_of_lt above]
  · rw [List.set_append_left _ _ inFront, List.set_append_left _ _ inFront, joinLines_append_lines]

/-- **A line below a replaced one** is moved down by the line feeds of the new text, and is replaced
there. -/
theorem joinLines_set_below (found : n < (lines t).length) (below : n < m) (new new' : Text) :
    (lines (joinLines ((lines t).set n new)))[m + new.count '\n']? = (lines t)[m]? ∧
      joinLines ((lines (joinLines ((lines t).set n new))).set (m + new.count '\n') new') =
        joinLines (((lines t).set n new).set m new') := by
  obtain ⟨k, rfl⟩ : ∃ k, m = n + 1 + k := ⟨m - (n + 1), by omega⟩
  have front : ((lines t).take n).length = n := List.length_take_of_le (Nat.le_of_lt found)
  have place : n + 1 + k + new.count '\n' = n + ((lines new).length + k) := by
    rw [length_lines]
    omega
  have place' : n + 1 + k = n + (k + 1) := by omega
  have whole : (lines t).set n new = (lines t).take n ++ new :: (lines t).drop (n + 1) := by
    rw [List.set_eq_take_append_cons_drop, if_pos found]
  rw [lines_set found, whole, place]
  constructor
  · rw [List.getElem?_append_right (by omega), front, Nat.add_sub_cancel_left,
      List.getElem?_append_right (by omega), Nat.add_sub_cancel_left, List.getElem?_drop]
  · rw [List.set_append_right _ _ (by omega), front, Nat.add_sub_cancel_left,
      List.set_append_right _ _ (by omega), Nat.add_sub_cancel_left, joinLines_append_lines, place',
      List.set_append_right _ _ (by omega), front, Nat.add_sub_cancel_left, List.set_cons_succ]

end Twice

end Text
end ProofDesk
