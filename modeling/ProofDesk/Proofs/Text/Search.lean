import ProofDesk.Text.Search

/-!
# First occurrences

* `breakOn?_eq_some` — breaking a text finds the first occurrence, and nothing else.
* `infix_of_infix_append_cons` — an occurrence does not reach over a character that the pattern
  does not have.
* `breakOn?_append_cons` and `breakOn?_append_cons_self` — two texts in which the first occurrence is
  known beforehand.
* `breakOn?_append` — what follows the first occurrence does not matter.
* `infix_replaceAll` — what a pattern is replaced by stands in the text afterwards.
* `after?_append_cons` — what a text begins with is seen before a character that the pattern does not
  have.
* `Misses` — no occurrence of a pattern has a character; `breakOn?_of_misses` and `contains_of_misses`
  find the same occurrences whatever character it is.
-/

namespace ProofDesk
namespace Text

variable {pattern before behind t : Text} {mark : Char}

/-- **Breaking a text finds its first occurrence.** -/
theorem breakOn?_eq_some :
    breakOn? pattern t = some (before, behind) ↔ t = before ++ pattern ++ behind ∧
      ∀ front tail, t = front ++ pattern ++ tail → before.length ≤ front.length := by
  constructor
  · intro found
    exact ⟨eq_of_breakOn? found, fun front tail occurs => length_le_of_breakOn? found occurs⟩
  · rintro ⟨rfl, first⟩
    have occurs : (breakOn? pattern (before ++ pattern ++ behind)).isSome = true := breakOn?_isSome
    obtain ⟨⟨before', behind'⟩, found⟩ := Option.isSome_iff_exists.1 occurs
    have same := eq_of_breakOn? found
    have lengths : before.length = before'.length :=
      Nat.le_antisymm (first before' behind' same) (length_le_of_breakOn? found rfl)
    rw [List.append_assoc, List.append_assoc] at same
    obtain ⟨rfl, tails⟩ := List.append_inj same lengths
    rw [found, List.append_cancel_left tails]

theorem breakOn?_eq_none : breakOn? pattern t = none ↔ ¬ pattern <:+: t := by
  rw [← Option.not_isSome_iff_eq_none]
  exact not_congr contains_iff

/-- An occurrence lies on one side of a character that the pattern does not have. -/
theorem infix_of_infix_append_cons (unmarked : mark ∉ pattern)
    (occurs : pattern <:+: before ++ mark :: behind) : pattern <:+: before ∨ pattern <:+: behind := by
  obtain ⟨front, tail, whole⟩ := occurs
  rw [List.append_assoc] at whole
  rcases List.append_eq_append_iff.1 whole with ⟨middle, rfl, inside⟩ | ⟨middle, rfl, inside⟩
  · -- The pattern begins before the character, so it ends there too.
    rcases List.append_eq_append_iff.1 inside with ⟨gap, rfl, -⟩ | ⟨gap, rfl, reaches⟩
    · exact .inl ⟨front, gap, List.append_assoc ..⟩
    · cases gap with
      | nil => exact .inl ⟨front, [], by simp⟩
      | cons c gap =>
        obtain ⟨rfl, -⟩ := List.cons.inj reaches
        exact absurd (List.mem_append_right _ (List.mem_cons_self ..)) unmarked
  · cases middle with
    | nil =>
      cases pattern with
      | nil => exact .inl (List.nil_infix ..)
      | cons c pattern =>
        obtain ⟨rfl, -⟩ := List.cons.inj inside
        exact absurd (List.mem_cons_self ..) unmarked
    | cons c middle =>
      obtain ⟨-, rfl⟩ := List.cons.inj inside
      exact .inr ⟨middle, tail, List.append_assoc ..⟩

/-- **Two characters in a row** stand on one side of a cut, or the cut lies between them. -/
theorem pair_infix_append {p q : Char} : [p, q] <:+: before ++ behind ↔
    [p, q] <:+: before ∨ [p, q] <:+: behind ∨
      (before.getLast? = some p ∧ behind.head? = some q) := by
  constructor
  · rintro ⟨front, tail, whole⟩
    have cut : (front ++ [p]) ++ q :: tail = before ++ behind := by simpa using whole
    rcases List.append_eq_append_iff.1 cut with ⟨gap, rfl, same⟩ | ⟨gap, same, rfl⟩
    · cases gap with
      | nil =>
        obtain rfl : q :: tail = behind := by simpa using same
        exact .inr (.inr ⟨by simp, rfl⟩)
      | cons c gap =>
        obtain ⟨rfl, -⟩ := List.cons.inj same
        exact .inl ⟨front, gap, by simp⟩
    · rcases List.eq_nil_or_concat gap with rfl | ⟨gap, last, rfl⟩
      · rw [List.append_nil] at same
        exact .inr (.inr ⟨by simp [← same], rfl⟩)
      · rw [List.concat_eq_append, ← List.append_assoc] at same
        obtain ⟨-, rfl⟩ := List.append_inj' same rfl |>.imp_right List.singleton_inj.1
        exact .inr (.inl ⟨gap, tail, by simp⟩)
  · rintro (inside | inside | ⟨last, first⟩)
    · exact inside.trans (List.prefix_append ..).isInfix
    · exact inside.trans (List.suffix_append ..).isInfix
    · obtain ⟨front, rfl⟩ := List.getLast?_eq_some_iff.1 last
      obtain ⟨tail, rfl⟩ := List.head?_eq_some_iff.1 first
      exact ⟨front, tail, by simp⟩

/-- Two characters in a row stand in a text with the first character of the rest, when they stand in the
text or the rest goes on with the second one. -/
theorem pair_infix_append_take {p q : Char} : [p, q] <:+: before ++ behind.take 1 ↔
    [p, q] <:+: before ∨ (before.getLast? = some p ∧ behind.head? = some q) := by
  have short : ¬ [p, q] <:+: behind.take 1 := by
    intro inside
    have bound := inside.length_le
    rw [List.length_take] at bound
    simp only [List.length_cons, List.length_nil] at bound
    omega
  have first : (behind.take 1).head? = behind.head? := by cases behind <;> rfl
  rw [pair_infix_append, first]
  simp only [short, false_or]

/-- A pattern whose first character is new is found where it begins. -/
theorem breakOn?_append_cons (new : mark ∉ before) :
    breakOn? (mark :: pattern) (before ++ mark :: (pattern ++ behind)) = some (before, behind) := by
  refine breakOn?_eq_some.2 ⟨by simp, fun front tail occurs => ?_⟩
  rw [List.append_assoc, List.cons_append] at occurs
  rcases List.append_eq_append_iff.1 occurs with ⟨middle, rfl, -⟩ | ⟨middle, rfl, reaches⟩
  · rw [List.length_append]
    exact Nat.le_add_right ..
  · cases middle with
    | nil => simp
    | cons c middle =>
      obtain ⟨rfl, -⟩ := List.cons.inj reaches
      exact absurd (List.mem_append_right _ (List.mem_cons_self ..)) new

/-- A pattern that ends the text, behind a character that it does not have, is found there unless it
occurs before. -/
theorem breakOn?_append_cons_self (unmarked : mark ∉ pattern) (absent : ¬ pattern <:+: before) :
    breakOn? pattern (before ++ mark :: pattern) = some (before ++ [mark], []) := by
  have whole : before ++ mark :: pattern = (before ++ [mark]) ++ pattern ++ [] := by simp
  refine breakOn?_eq_some.2 ⟨whole, fun front tail occurs => ?_⟩
  rcases List.eq_nil_or_concat tail with rfl | ⟨tail, last, rfl⟩
  · have lengths := congrArg List.length (whole.symm.trans occurs)
    simp only [List.length_append, List.length_nil] at lengths ⊢
    omega
  · -- An earlier occurrence would lie in the text without its last character.
    rcases List.eq_nil_or_concat pattern with rfl | ⟨pattern, final, rfl⟩
    · exact absurd (List.nil_infix ..) absent
    · rw [List.concat_eq_append] at *
      have shorter : before ++ mark :: pattern = front ++ (pattern ++ [final]) ++ tail := by
        have same : (before ++ mark :: pattern) ++ [final] =
            (front ++ (pattern ++ [final]) ++ tail) ++ [last] := by simpa using occurs
        exact (List.append_inj' same rfl).1
      rcases infix_of_infix_append_cons unmarked ⟨front, tail, shorter.symm⟩ with here | later
      · exact absurd here absent
      · have longer := later.length_le
        rw [List.length_append, List.length_singleton] at longer
        exact absurd longer (Nat.not_succ_le_self _)

/-- **What follows the first occurrence does not matter.** -/
theorem breakOn?_append {rest : Text}
    (found : breakOn? pattern (before ++ pattern ++ rest) = some (before, rest)) (rest' : Text) :
    breakOn? pattern (before ++ pattern ++ rest') = some (before, rest') := by
  refine breakOn?_eq_some.2 ⟨rfl, fun front tail occurs => ?_⟩
  refine Nat.le_of_not_lt fun shorter => ?_
  -- An earlier occurrence would end before the first one does.
  obtain ⟨gap, inside, -⟩ : ∃ gap, before ++ pattern = front ++ pattern ++ gap ∧ _ := by
    rcases List.append_eq_append_iff.1 occurs with ⟨gap, longer, -⟩ | both
    · have lengths := congrArg List.length longer
      simp only [List.length_append] at lengths
      omega
    · exact both
  have earlier : before ++ pattern ++ rest = front ++ pattern ++ (gap ++ rest) := by
    rw [inside, List.append_assoc]
  exact absurd (length_le_of_breakOn? found earlier) (Nat.not_le_of_lt shorter)

/-- **What a pattern is replaced by** stands in the text afterwards. -/
theorem infix_replaceAll (solid : pattern ≠ []) (new : Text) (occurs : pattern <:+: t) :
    new <:+: replaceAll pattern new t := by
  unfold replaceAll
  induction t with
  | nil => exact absurd (List.infix_nil.1 occurs) solid
  | cons c rest ih =>
    unfold replaceFrom
    split
    · exact (List.prefix_append ..).isInfix
    · next other =>
      rcases List.infix_cons_iff.1 occurs with here | later
      · exact absurd (List.isPrefixOf_iff_prefix.2 here) other
      · exact (ih later).trans (List.suffix_cons ..).isInfix

/-! ### Around one character -/

variable {front rest : Text} {c : Char}

/-- **What a text begins with** is seen before a character that the pattern does not reach. -/
theorem after?_append_of_apart (apart : ∀ more, pattern = front ++ c :: more → ¬ more <+: rest) :
    after? pattern (front ++ c :: rest) = (after? pattern front).map (· ++ c :: rest) := by
  cases begins : after? pattern front with
  | some tail =>
    obtain rfl := after?_eq_some.1 begins
    exact after?_eq_some.2 (List.append_assoc ..)
  | none =>
    cases reaches : after? pattern (front ++ c :: rest) with
    | none => rfl
    | some tail =>
      rcases List.append_eq_append_iff.1 (after?_eq_some.1 reaches) with
        ⟨gap, rfl, same⟩ | ⟨gap, rfl, -⟩
      · cases gap with
        | nil => simp [after?] at begins
        | cons d gap =>
          obtain ⟨rfl, rfl⟩ := List.cons.inj same
          exact absurd (List.prefix_append ..) (apart gap rfl)
      · rw [after?_eq_some.2 rfl] at begins
        cases begins

theorem after?_append_cons (unmarked : mark ∉ pattern) (front rest : Text) :
    after? pattern (front ++ mark :: rest) = (after? pattern front).map (· ++ mark :: rest) := by
  refine after?_append_of_apart ?_
  rintro more rfl
  exact absurd (List.mem_append_right _ (List.mem_cons_self ..)) unmarked

/-- A text begins with the first character of what it begins with. -/
theorem head?_of_after? {rest : Text} (found : after? pattern t = some rest) (solid : pattern ≠ []) :
    t.head? = pattern.head? := by
  obtain ⟨c, others, rfl⟩ := List.exists_cons_of_ne_nil solid
  rw [after?_eq_some.1 found]
  rfl

/-- **No occurrence of the pattern has the character** that stands between `front` and `rest`. -/
def Misses (pattern front : Text) (c : Char) (rest : Text) : Prop :=
  ∀ begun more, begun <:+ front → pattern = begun ++ c :: more → ¬ more <+: rest

theorem misses_of_not_mem (unmarked : c ∉ pattern) (front rest : Text) :
    Misses pattern front c rest := by
  rintro begun more - rfl
  exact absurd (List.mem_append_right _ (List.mem_cons_self ..)) unmarked

theorem Misses.of_suffix {part : Text} (misses : Misses pattern front c rest) (suffix : part <:+ front) :
    Misses pattern part c rest :=
  fun begun more inside => misses begun more (inside.trans suffix)

theorem after?_of_misses (misses : Misses pattern front c rest) :
    after? pattern (front ++ c :: rest) = (after? pattern front).map (· ++ c :: rest) :=
  after?_append_of_apart fun more => misses front more List.suffix_rfl

/-- **The first occurrence of a pattern that misses a character** lies in front of it, or else behind. -/
theorem breakOn?_of_misses (solid : pattern ≠ []) (misses : Misses pattern front c rest) :
    breakOn? pattern (front ++ c :: rest) =
      ((breakOn? pattern front).map fun cut => (cut.1, cut.2 ++ c :: rest)).or
        ((breakOn? pattern rest).map fun cut => (front ++ c :: cut.1, cut.2)) := by
  induction front with
  | nil =>
    have empty : breakOn? pattern [] = none := if_neg (by simpa using solid)
    have here := after?_of_misses misses
    rw [List.nil_append] at here ⊢
    rw [empty, breakOn?, here]
    cases pattern with
    | nil => exact absurd rfl solid
    | cons d pattern => rfl
  | cons d front ih =>
    have later := ih (misses.of_suffix (List.suffix_cons ..))
    have here := after?_of_misses misses
    rw [List.cons_append] at here ⊢
    rw [breakOn?, breakOn?, here, later]
    cases after? pattern (d :: front) with
    | some tail => rfl
    | none =>
      cases breakOn? pattern front with
      | some cut => rfl
      | none => cases breakOn? pattern rest <;> rfl

theorem contains_of_misses (solid : pattern ≠ []) (misses : Misses pattern front c rest) :
    contains pattern (front ++ c :: rest) = (contains pattern front || contains pattern rest) := by
  unfold contains
  rw [breakOn?_of_misses solid misses]
  cases breakOn? pattern front <;> cases breakOn? pattern rest <;> rfl

end Text
end ProofDesk
