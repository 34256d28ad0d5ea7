import ProofDesk.Proofs.Source.Hidden

/-!
# Open comments behind a line

A line hands on to the next one the number of block comments that are open behind it, and nothing else.
Text without quotes and delimiters leaves this number as it is, in whatever mode it is read, as long as
it forms no delimiter with what stands next to it.

* `depthAfter_append` — lines are read one after the other.
* `awaited?_through` — a front part that ends in another character than a hyphen or a slash does not end
  in the middle of a delimiter.
* `depth_through` — such characters open and close nothing.
* `depth_after_code`, `through_comment` and `isQuoted_through` — the text in code, in a comment and in a
  literal.
* `depth_after_tail` and `depth_after_idle` — the number behind a line that ends in blanks or in a remark,
  and behind one that has the text in front of them.
-/

namespace ProofDesk
namespace Source

open Text (allBlank isBlank)

variable {mode : Mode} {front rest rest' t tail remark : Text} {c p q : Char} {outer : Nat}

theorem depthAfter_append (depth : Nat) (front rest : List Text) :
    depthAfter depth (front ++ rest) = depthAfter (depthAfter depth front) rest := by
  induction front generalizing depth with
  | nil => rfl
  | cons line front ih => exact ih _

/-! ### Front parts -/

/-- A front part sees one character of the rest. -/
theorem through_congr (same : rest.head? = rest'.head?) (mode : Mode) (front : Text) :
    mode.through front rest = mode.through front rest' := by
  induction front generalizing mode with
  | nil => rfl
  | cons c front ih =>
    have next : (front ++ rest).head? = (front ++ rest').head? := by
      cases front with
      | nil => exact same
      | cons d front => rfl
    rw [Mode.through, Mode.through, next]
    exact ih _

/-- The regions of a front part depend on one character of the rest. -/
theorem marksBefore_of_head? (same : rest.head? = rest'.head?) (mode : Mode) (front : Text) :
    marksBefore mode front rest = marksBefore mode front rest' := by
  induction front generalizing mode with
  | nil => rfl
  | cons c front ih =>
    have next : (front ++ rest).head? = (front ++ rest').head? := by
      cases front with
      | nil => exact same
      | cons d front => rfl
    rw [marksBefore, marksBefore, next, ih]

/-- **Behind a character that begins no delimiter** the reader is not in the middle of one. -/
theorem awaited?_through (start : mode.awaited? = none)
    (closed : ∀ c, front.getLast? = some c → Closed c) (rest : Text) :
    (mode.through front rest).awaited? = none := by
  rcases List.eq_nil_or_concat front with rfl | ⟨others, c, rfl⟩
  · exact start
  · rw [List.concat_eq_append] at closed ⊢
    rw [through_append]
    show (Mode.step _ c rest.head?).2.awaited? = none
    rw [step_congr (closed c List.getLast?_concat) _ none]
    cases awaits : (Mode.step (mode.through others ([c] ++ rest)) c none).2.awaited? with
    | none => rfl
    | some d => cases next_of_awaited? awaits

theorem awaited?_atDepth (depth : Nat) : (Mode.atDepth depth).awaited? = none := by
  cases depth <;> rfl

/-- What leads to code through one character does so whatever comes next, unless it begins in code. -/
theorem code_or_forall_step {next : Option Char} (coded : (mode.step c next).2 = .code) :
    mode = .code ∧ c ≠ '"' ∨ ∀ next', (mode.step c next').2 = .code := by
  cases mode with
  | code =>
    refine .inl ⟨rfl, ?_⟩
    rintro rfl
    cases coded
  | literal => exact .inr fun _ => coded
  | closing outer => exact .inr fun _ => coded
  | comment outer =>
    rw [Mode.step] at coded
    repeat' split at coded
    all_goals cases coded
  | opening outer => cases coded
  | escape => cases coded
  | remark => cases coded

/-! ### Characters that begin no delimiter -/

theorem depth_step (closed : Closed c) (mode : Mode) (next : Option Char) :
    (mode.step c next).2.depth = mode.depth := by
  obtain ⟨hyphen, slash⟩ := closed
  cases mode with
  | code =>
    rw [Mode.step, if_neg fun both => hyphen both.1, if_neg fun both => slash both.1]
    split <;> rfl
  | literal =>
    rw [Mode.step]
    repeat' split
    all_goals rfl
  | comment outer => rw [Mode.step, if_neg fun both => slash both.1, if_neg fun both => hyphen both.1]
  | closing outer => exact Mode.depth_atDepth outer
  | escape => rfl
  | opening outer => rfl
  | remark => rfl

/-- **Characters that begin no delimiter** open and close no comment. -/
theorem depth_through (closed : ∀ c ∈ t, Closed c) (mode : Mode) (rest : Text) :
    (mode.through t rest).depth = mode.depth := by
  induction t generalizing mode with
  | nil => rfl
  | cons c t ih =>
    rw [Mode.through, ih fun d member => closed d (List.mem_cons_of_mem _ member)]
    exact depth_step (closed c (List.mem_cons_self ..)) mode _

/-- Blanks and one more character hold no two characters that are not blank. -/
theorem not_infix_blanks (blank : allBlank t = true) (visible : isBlank p = false) (rest : Text) :
    ¬ [p, q] <:+: t ++ rest.take 1 := by
  have none : p ∉ t := by
    intro member
    rw [List.all_eq_true.1 blank p member] at visible
    cases visible
  rw [Text.pair_infix_append_take]
  rintro (inside | ⟨last, -⟩)
  · exact none (inside.subset (List.mem_cons_self ..))
  · exact none (List.mem_of_getLast? last)

/-! ### Text without delimiters -/

theorem after_remark (t : Text) : Mode.remark.after t = .remark := by
  induction t with
  | nil => rfl
  | cons c t ih => exact ih

/-- **In code**, the rest of the line counts as if the text were not there. The last character of the text
may be a hyphen in front of a remark, which then begins one character earlier. -/
theorem depth_after_code (unquoted : '"' ∉ t) (noComment : ¬ ['/', '-'] <:+: t ++ rest.take 1)
    (noRemark : ¬ ['-', '-'] <:+: t ++ rest.take 1 ∨ ['-', '-'] <+: rest ∧ ¬ ['-', '-'] <:+: t) :
    (Mode.code.after (t ++ rest)).depth = (Mode.code.after rest).depth := by
  rw [after_append]
  rcases noRemark with apart | ⟨⟨more, rfl⟩, absent⟩
  · rw [(marksBefore_code unquoted apart noComment).2]
  · by_cases last : t.getLast? = some '-'
    · -- The text without its last hyphen stays code, and the hyphen begins a remark.
      obtain ⟨front, rfl⟩ := List.getLast?_eq_some_iff.1 last
      have unquoted' : '"' ∉ front := fun member => unquoted (List.mem_append_left _ member)
      have noComment' : ¬ ['/', '-'] <:+: front ++ ['-'] := fun occurs =>
        noComment (occurs.trans (List.prefix_append ..).isInfix)
      have coded : Mode.code.through front (['-'] ++ (['-', '-'] ++ more)) = .code :=
        And.right (marksBefore_code unquoted' absent noComment')
      rw [through_append, coded]
      show (Mode.remark.after _).depth = (Mode.remark.after ('-' :: more)).depth
      rw [after_remark, after_remark]
    · have apart : ¬ ['-', '-'] <:+: t ++ (['-', '-'] ++ more).take 1 := by
        rw [Text.pair_infix_append_take]
        rintro (inside | ⟨same, -⟩)
        · exact absent inside
        · exact last same
      rw [(marksBefore_code unquoted apart noComment).2]

/-- **In a comment**, text without delimiters stays in it. -/
theorem through_comment (noComment : ¬ ['/', '-'] <:+: t ++ rest.take 1)
    (noClosing : ¬ ['-', '/'] <:+: t ++ rest.take 1) :
    (Mode.comment outer).through t rest = .comment outer := by
  induction t with
  | nil => rfl
  | cons c t ih =>
    have opens : ¬ (c = '/' ∧ (t ++ rest).head? = some '-') := by
      rintro ⟨rfl, next⟩
      exact noComment (pair_infix_of_head? next)
    have closes : ¬ (c = '-' ∧ (t ++ rest).head? = some '/') := by
      rintro ⟨rfl, next⟩
      exact noClosing (pair_infix_of_head? next)
    rw [Mode.through, Mode.step, if_neg opens, if_neg closes]
    exact ih (fun occurs => noComment (occurs.trans (List.suffix_cons ..).isInfix))
      (fun occurs => noClosing (occurs.trans (List.suffix_cons ..).isInfix))

/-- The reader is in a string literal. -/
def Mode.isQuoted : Mode → Bool
  | .literal | .escape => true
  | .code | .comment _ | .opening _ | .closing _ | .remark => false

/-- **In a literal**, text without quotes stays in it. -/
theorem isQuoted_through (unquoted : '"' ∉ t) (quoted : mode.isQuoted = true) (rest : Text) :
    (mode.through t rest).isQuoted = true := by
  induction t generalizing mode with
  | nil => exact quoted
  | cons c t ih =>
    rw [List.mem_cons, not_or] at unquoted
    refine ih unquoted.2 ?_
    cases mode with
    | literal =>
      rw [Mode.step, if_neg (Ne.symm unquoted.1)]
      split <;> rfl
    | escape => rfl
    | code => cases quoted
    | comment outer => cases quoted
    | opening outer => cases quoted
    | closing outer => cases quoted
    | remark => cases quoted

/-- A literal is entered from code, with its first quote. -/
theorem quote_of_isQuoted {next : Option Char} (unquoted : mode.isQuoted = false)
    (quoted : (mode.step c next).2.isQuoted = true) : mode = .code ∧ c = '"' := by
  cases mode with
  | code =>
    refine ⟨rfl, ?_⟩
    rw [Mode.step] at quoted
    split at quoted
    · cases quoted
    · split at quoted
      · cases quoted
      · split at quoted
        · next quote => exact quote
        · cases quoted
  | comment outer =>
    rw [Mode.step] at quoted
    repeat' split at quoted
    all_goals cases quoted
  | closing outer => cases outer <;> cases quoted
  | literal => cases unquoted
  | escape => cases unquoted
  | opening outer => cases quoted
  | remark => cases quoted

theorem depth_of_isQuoted (quoted : mode.isQuoted = true) : mode.depth = 0 := by
  cases mode <;> first | rfl | cases quoted

/-! ### The end of a line -/

/-- **Blanks, and a remark behind them**, leave open what was open. -/
theorem depth_after_tail (blank : allBlank tail = true)
    (begins : remark = [] ∨
      (∃ more, remark = '-' :: '-' :: more) ∧ mode.through tail remark = .code) :
    (mode.after (tail ++ remark)).depth = mode.depth := by
  have kept := depth_through (closed_of_allBlank blank) mode remark
  rw [after_append]
  rcases begins with rfl | ⟨⟨more, rfl⟩, coded⟩
  · exact kept
  · rw [coded] at kept ⊢
    show (Mode.remark.after ('-' :: more)).depth = mode.depth
    rw [after_remark, ← kept]
    rfl

/-- **Text without delimiters in front of such an end** leaves open what was open, in whatever mode the
text is read. With a remark behind it, that mode must be code. -/
theorem depth_after_idle (whole : mode.awaited? = none) (unquoted : '"' ∉ t)
    (noComment : ¬ ['/', '-'] <:+: t ++ (tail ++ remark).take 1)
    (noRemark : ¬ ['-', '-'] <:+: t ++ (tail ++ remark).take 1 ∨
      ['-', '-'] <+: tail ++ remark ∧ ¬ ['-', '-'] <:+: t)
    (noClosing : ¬ ['-', '/'] <:+: t) (blank : allBlank tail = true)
    (remarked : remark = [] ∨ ∃ more, remark = '-' :: '-' :: more)
    (here : mode = .code ∨ remark = []) :
    (mode.after (t ++ (tail ++ remark))).depth = mode.depth := by
  by_cases coded : mode = .code
  · subst coded
    rw [depth_after_code unquoted noComment noRemark]
    have stays : Mode.code.through tail remark = .code :=
      And.right (marksBefore_code (unquoted_of_allBlank blank)
        (not_infix_blanks blank (by decide) _) (not_infix_blanks blank (by decide) _))
    exact depth_after_tail blank (remarked.imp_right fun begins => ⟨begins, stays⟩)
  · obtain rfl := here.resolve_left coded
    rw [after_append, depth_after_tail blank (.inl rfl), List.append_nil]
    rw [List.append_nil] at noComment
    cases mode with
    | code => exact absurd rfl coded
    | comment outer =>
      have closes : ¬ ['-', '/'] <:+: t ++ tail.take 1 := by
        rw [Text.pair_infix_append_take]
        rintro (inside | ⟨-, slash⟩)
        · exact noClosing inside
        · exact absurd (List.all_eq_true.1 blank '/' (List.mem_of_head? slash)) (by decide)
      rw [through_comment noComment closes]
    | literal => exact depth_of_isQuoted (isQuoted_through unquoted rfl _)
    | escape => exact depth_of_isQuoted (isQuoted_through unquoted rfl _)
    | remark => rw [through_remark]
    | opening outer => cases whole
    | closing outer => cases whole

end Source
end ProofDesk
