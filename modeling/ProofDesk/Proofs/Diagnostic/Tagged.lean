import ProofDesk.Diagnostic.Tagged
import ProofDesk.Proofs.Text.Piece

/-!
# Where a tagged block ends

A block of free text ends at the first blank line, at the first line that begins with a bracket, or with
the text. It begins behind its tag. But the blanks behind the tag are skipped before the end is looked
for, and line feeds are among them. So a block that ends there, with nothing in it, is passed over, and
what follows it is taken for its text.

* `IsBlock` — the text up to the first place where a block ends; `IsBlock.eq` says that there is one.
* `upToBreak_append` — blanks in front of a text either stay in front of its block or end it.
* `firstBlock?_eq_iff` — the first block of a severity is the text up to that place exactly when it is not
  blank, or when nothing but blanks follows; `firstBlock?_passes_end` shows a block that is passed over.
-/

namespace ProofDesk
namespace Diagnostic

open Text (allBlank indentation isBlank trim trimStart)

variable {t block rest before behind response blanks : Text} {severity : Severity} {c : Char}

/-! ### Ends of blocks -/

/-- **A block ends in front of this text**: the text is empty, or begins with a blank line or with a line
that begins with a bracket. -/
def EndsBlock (t : Text) : Prop := t = [] ∨ ['\n', '\n'] <+: t ∨ ['\n', '['] <+: t

/-- **The text up to the first place where a block ends.** -/
structure IsBlock (t block rest : Text) : Prop where
  whole : t = block ++ rest
  ends : EndsBlock rest
  first : ∀ front tail, t = front ++ tail → EndsBlock tail → block.length ≤ front.length

theorem endsBlock_cons : EndsBlock (c :: t) ↔
    c = '\n' ∧ (t.head? = some '\n' ∨ t.head? = some '[') := by
  cases t with
  | nil => simp [EndsBlock]
  | cons d t => simp [EndsBlock, List.cons_prefix_cons, eq_comm, ← and_or_left]

theorem upToBreak_cons_of_ends (ends : EndsBlock (c :: t)) : upToBreak (c :: t) = [] := by
  rw [upToBreak, if_pos (endsBlock_cons.1 ends)]

theorem upToBreak_cons (goes : ¬ EndsBlock (c :: t)) : upToBreak (c :: t) = c :: upToBreak t := by
  rw [upToBreak, if_neg fun ends => goes (endsBlock_cons.2 ends)]

/-- The text up to the first break is a block. -/
theorem isBlock_upToBreak (t : Text) : ∃ rest, IsBlock t (upToBreak t) rest := by
  induction t with
  | nil => exact ⟨[], rfl, .inl rfl, fun _ _ _ _ => Nat.zero_le _⟩
  | cons c t ih =>
    by_cases ends : EndsBlock (c :: t)
    · rw [upToBreak_cons_of_ends ends]
      exact ⟨c :: t, rfl, ends, fun _ _ _ _ => Nat.zero_le _⟩
    · obtain ⟨rest, block⟩ := ih
      rw [upToBreak_cons ends]
      refine ⟨rest, congrArg (c :: ·) block.whole, block.ends, fun front tail cut ends' => ?_⟩
      cases front with
      | nil =>
        rw [List.nil_append] at cut
        exact absurd (cut ▸ ends') ends
      | cons d front => exact Nat.succ_le_succ (block.first front tail (List.cons.inj cut).2 ends')

/-- **There is one such place.** -/
theorem IsBlock.eq (block' : IsBlock t block rest) : block = upToBreak t := by
  obtain ⟨rest', found⟩ := isBlock_upToBreak t
  have lengths : block.length = (upToBreak t).length :=
    Nat.le_antisymm (block'.first _ _ found.whole found.ends) (found.first _ _ block'.whole block'.ends)
  exact (List.append_inj (block'.whole.symm.trans found.whole) lengths).1

/-- **No line of a block begins with a bracket**, the first one apart. -/
theorem IsBlock.not_infix (block' : IsBlock t block rest) : ¬ ['\n', '['] <:+: block := by
  rintro ⟨front, tail, inside⟩
  have cut : t = front ++ (['\n', '['] ++ (tail ++ rest)) := by
    rw [block'.whole, ← inside]
    simp only [List.append_assoc]
  have early := block'.first front _ cut (.inr (.inr (List.prefix_append ..)))
  have lengths := congrArg List.length inside
  simp only [List.length_append, List.length_cons, List.length_nil] at lengths
  omega

/-! ### Blanks behind a tag -/

/-- **Blanks in front of a text** stay in front of its block, unless the block ends in them. -/
theorem upToBreak_append (blank : allBlank blanks = true) (t : Text) :
    upToBreak (blanks ++ t) = blanks ++ upToBreak t ∨ allBlank (upToBreak (blanks ++ t)) = true := by
  induction blanks with
  | nil => exact .inl rfl
  | cons b blanks ih =>
    rw [allBlank, List.all_cons, Bool.and_eq_true] at blank
    by_cases ends : EndsBlock (b :: (blanks ++ t))
    · right
      rw [List.cons_append, upToBreak_cons_of_ends ends]
      rfl
    · rw [List.cons_append, upToBreak_cons ends]
      refine (ih blank.2).imp (congrArg (b :: ·)) fun inside => ?_
      rw [allBlank, List.all_cons, Bool.and_eq_true]
      exact ⟨blank.1, inside⟩

/-- A text that begins with a visible character has a block with that character. -/
theorem trim_upToBreak_ne_nil (visible : isBlank c = false) (t : Text) :
    trim (upToBreak (c :: t)) ≠ [] := by
  have goes : ¬ EndsBlock (c :: t) := by
    intro ends
    rw [(endsBlock_cons.1 ends).1] at visible
    cases visible
  have shape := Text.trim_append_cons visible [] (upToBreak t)
  rw [List.nil_append] at shape
  rw [upToBreak_cons goes, shape]
  exact List.append_ne_nil_of_right_ne_nil _ (List.cons_ne_nil _ _)

/-- What is found when a text is searched with the blanks in front of it skipped. -/
theorem trim_upToBreak_trimStart (t : Text) :
    trim (upToBreak (trimStart t)) = trim (upToBreak t) ↔
      trim (upToBreak t) ≠ [] ∨ allBlank t = true := by
  have blank : allBlank (indentation t) = true := List.all_takeWhile
  have split := Text.indentation_append_trimStart t
  cases visible : trimStart t with
  | nil =>
    -- Nothing but blanks: there is nothing to be found.
    rw [visible, List.append_nil] at split
    rw [split] at blank
    have nothing : allBlank (upToBreak t) = true := by
      have short := upToBreak_append blank []
      rw [List.append_nil] at short
      rcases short with same | inside
      · rw [same, show upToBreak [] = [] from rfl, List.append_nil]
        exact blank
      · exact inside
    exact ⟨fun _ => .inr blank, fun _ => (Text.trim_eq_nil.2 nothing).symm⟩
  | cons c more =>
    have seen : isBlank c = false := Text.head?_trimStart (t := t) (by rw [visible]; rfl)
    have found := trim_upToBreak_ne_nil seen more
    have solid : allBlank t = false := by
      rw [Text.allBlank_eq_false, ← split, visible]
      exact ⟨c, by simp, seen⟩
    rw [solid]
    constructor
    · intro same
      rw [← same]
      exact .inl found
    · rintro (full | all)
      · have kept := upToBreak_append blank (c :: more)
        rw [visible] at split
        rw [split] at kept
        rcases kept with same | nothing
        · rw [same, trim, trim, Text.trimStart_append blank]
        · exact absurd (Text.trim_eq_nil.2 nothing) full
      · cases all

/-! ### The first block of a severity -/

/-- **Where a tagged block ends.** Behind the first tag of a severity, `block` is the text up to the
first blank line, the first line that begins with a bracket, or the end. It is the first block of the
severity, trimmed, exactly when it is not blank or nothing but blanks follows the tag. It has no line that
begins with a bracket. In any case the first block is the text up to such a place behind the blanks that
follow the tag. -/
theorem firstBlock?_eq_iff (tagged : response = before ++ tag severity ++ behind)
    (first : ∀ front tail, response = front ++ tag severity ++ tail → before.length ≤ front.length)
    (documented : IsBlock behind block rest) :
    (firstBlock? severity response = some (trim block) ↔ trim block ≠ [] ∨ allBlank behind = true) ∧
      ¬ ['\n', '['] <:+: block ∧
      ∃ found rest', IsBlock (trimStart behind) found rest' ∧
        firstBlock? severity response = some (trim found) := by
  have cut := Text.breakOn?_eq_some.2 ⟨tagged, first⟩
  have found : firstBlock? severity response = some (trim (upToBreak (trimStart behind))) := by
    rw [firstBlock?, cut]
    rfl
  obtain ⟨rest', late⟩ := isBlock_upToBreak (trimStart behind)
  refine ⟨?_, documented.not_infix, _, rest', late, found⟩
  rw [found, Option.some.injEq, documented.eq]
  exact trim_upToBreak_trimStart behind

/-- A block of two lines, a blank line behind it, and more blocks. -/
theorem firstBlock?_eq_iff_two_lines :
    let response := "[error] type mismatch\n  h\n\n[error] second\n[warning] unused variable".toList
    let block := " type mismatch\n  h".toList
    let rest := "\n\n[error] second\n[warning] unused variable".toList
    response = [] ++ tag .error ++ (block ++ rest) ∧ IsBlock (block ++ rest) block rest ∧
      firstBlock? .error response = some "type mismatch\n  h".toList := by
  intro response block rest
  have tagged : response = [] ++ tag .error ++ (block ++ rest) := by decide +kernel
  have documented : IsBlock (block ++ rest) block rest := by
    obtain ⟨rest', found⟩ := isBlock_upToBreak (block ++ rest)
    have same : upToBreak (block ++ rest) = block := by decide +kernel
    rw [same] at found
    rwa [← List.append_cancel_left found.whole] at found
  have shown : trim block = "type mismatch\n  h".toList := by decide +kernel
  have full : trim block ≠ [] := by
    rw [shown]
    decide
  refine ⟨tagged, documented, ?_⟩
  rw [← shown]
  exact (firstBlock?_eq_iff tagged (fun _ _ _ => Nat.zero_le _) documented).1.2 (.inl full)

/-- **A block that ends right behind its tag** is passed over: the text of the next block is taken for its
text. -/
theorem firstBlock?_passes_end : ¬ ∀ (severity : Severity) (response before behind block rest : Text),
    response = before ++ tag severity ++ behind →
      (∀ front tail, response = front ++ tag severity ++ tail → before.length ≤ front.length) →
        IsBlock behind block rest → firstBlock? severity response = some (trim block) := by
  intro law
  let behind := "\n[warning] unused variable".toList
  have documented : IsBlock behind [] behind := by
    have ends : EndsBlock behind := .inr (.inr ⟨"warning] unused variable".toList, rfl⟩)
    exact ⟨rfl, ends, fun _ _ _ _ => Nat.zero_le _⟩
  have empty := law .error (tag .error ++ behind) [] behind [] behind rfl
    (fun _ _ _ => Nat.zero_le _) documented
  revert empty
  decide +kernel

end Diagnostic
end ProofDesk
