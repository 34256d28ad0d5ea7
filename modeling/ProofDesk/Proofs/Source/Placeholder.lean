import ProofDesk.Source.Placeholder
import ProofDesk.Proofs.Text.Piece

/-!
# Where placeholders stand

* `mem_placeholderColumns` — every column that a line reports is the place of the word, with no
  character of names on either side.
* `pairwise_placeholderColumns` — the columns of a line come in order, and between two placeholders
  there is at least one more character.
* `exists_code_append` — the code of a line is the front of the line.
-/

namespace ProofDesk
namespace Source

open Text (StandsAt size)

@[simp] theorem size_sorryWord : size sorryWord = 5 := by decide

theorem visible_sorryWord : ∀ c ∈ sorryWord, Text.isBlank c = false := by
  have all : sorryWord.all (fun c => Text.isBlank c = false) = true := by decide
  simpa only [List.all_eq_true, decide_eq_true_eq] using all

/-! ### One placeholder -/

/-- The character in front of what follows a text. -/
theorem getLast?_cons_or (c : Char) (front : Text) (before : Option Char) :
    (c :: front).getLast?.or before = front.getLast?.or (some c) := by
  rw [List.getLast?_cons]
  cases front.getLast? <;> rfl

/-- Only the word and the character behind it are looked at. -/
theorem beginsPlaceholder_take (before : Option Char) (t : Text) :
    beginsPlaceholder before (t.take 6) = beginsPlaceholder before t := by
  rcases t with _ | ⟨a, _ | ⟨b, _ | ⟨c, _ | ⟨d, _ | ⟨e, _ | ⟨f, rest⟩⟩⟩⟩⟩⟩
  case cons.cons.cons.cons.cons.cons =>
    by_cases word : 's' = a ∧ 'o' = b ∧ 'r' = c ∧ 'r' = d ∧ 'y' = e
    · obtain ⟨rfl, rfl, rfl, rfl, rfl⟩ := word
      rfl
    · simp [beginsPlaceholder, Text.after?, sorryWord, word]
  all_goals simp [beginsPlaceholder, Text.after?, sorryWord]

/-- A text begins with a placeholder when it begins with the word, alone between its neighbours. -/
theorem beginsPlaceholder_iff {before : Option Char} {t : Text} :
    beginsPlaceholder before t = true ↔
      ∃ behind, t = sorryWord ++ behind ∧ bounds before = true ∧ bounds behind.head? = true := by
  unfold beginsPlaceholder
  constructor
  · intro begins
    split at begins
    · next behind found =>
      rw [Bool.and_eq_true] at begins
      exact ⟨behind, Text.after?_eq_some.1 found, begins.1, begins.2⟩
    · cases begins
  · rintro ⟨behind, rfl, left, right⟩
    rw [Text.after?_eq_some.2 rfl]
    simp [left, right]

/-- **Every column is the place of a placeholder**, which no character of names touches. -/
theorem mem_placeholderColumns {before : Option Char} {start column : Nat}
    {marked : List (Char × Region)} (member : column ∈ placeholderColumns before start marked) :
    ∃ front behind, marked.map Prod.fst = front ++ sorryWord ++ behind ∧
      column = start + size front ∧ bounds (front.getLast?.or before) = true ∧
      bounds behind.head? = true := by
  induction marked generalizing before start with
  | nil => cases member
  | cons mark rest ih =>
    obtain ⟨c, region⟩ := mark
    have deeper : column ∈ placeholderColumns (some c) (start + c.utf8Size) rest →
        ∃ front behind, c :: rest.map Prod.fst = front ++ sorryWord ++ behind ∧
          column = start + size front ∧ bounds (front.getLast?.or before) = true ∧
          bounds behind.head? = true := by
      intro later
      obtain ⟨front, behind, text, place, left, right⟩ := ih later
      refine ⟨c :: front, behind, by simp [text], by rw [place, Text.size_cons]; omega, ?_, right⟩
      rwa [getLast?_cons_or]
    simp only [placeholderColumns] at member
    split at member
    · next here =>
      rcases List.mem_cons.1 member with rfl | later
      · have begins := here.2
        rw [List.map_take, beginsPlaceholder_take] at begins
        obtain ⟨behind, text, left, right⟩ := beginsPlaceholder_iff.1 begins
        exact ⟨[], behind, text, rfl, left, right⟩
      · exact deeper later
    · exact deeper member

/-! ### The order of placeholders -/

/-- A second occurrence of the word behind a first one, neither touching a character of names, lies
behind at least six characters. -/
theorem lt_size_of_sorryWord_twice {front behind rest : Text}
    (twice : front ++ sorryWord ++ behind = sorryWord ++ rest) (nonempty : front ≠ [])
    (alone : bounds front.getLast? = true) : 5 < size front := by
  have ends : bounds (some 'y') = false := by decide
  rcases front with _ | ⟨a, _ | ⟨b, _ | ⟨c, _ | ⟨d, _ | ⟨e, _ | ⟨f, front⟩⟩⟩⟩⟩⟩
  · exact absurd rfl nonempty
  -- the word begins with a letter that it does not hold again
  · simp [sorryWord] at twice
  · simp [sorryWord] at twice
  · simp [sorryWord] at twice
  · simp [sorryWord] at twice
  -- and it ends with a character of names
  · simp only [sorryWord, List.cons_append, List.nil_append, List.cons.injEq] at twice
    obtain ⟨-, -, -, -, rfl, -⟩ := twice
    rw [show [a, b, c, d, 'y'].getLast? = some 'y' from rfl, ends] at alone
    cases alone
  · have ha := a.utf8Size_pos
    have hb := b.utf8Size_pos
    have hc := c.utf8Size_pos
    have hd := d.utf8Size_pos
    have he := e.utf8Size_pos
    have hf := f.utf8Size_pos
    simp only [Text.size_cons]
    omega

/-- **The placeholders of a line come in order**, and one ends before the next one begins. -/
theorem pairwise_placeholderColumns (before : Option Char) (start : Nat)
    (marked : List (Char × Region)) :
    (placeholderColumns before start marked).Pairwise fun earlier later => earlier + 5 < later := by
  induction marked generalizing before start with
  | nil => exact List.Pairwise.nil
  | cons mark rest ih =>
    obtain ⟨c, region⟩ := mark
    simp only [placeholderColumns]
    split
    · next here =>
      refine List.pairwise_cons.2 ⟨fun column later => ?_, ih _ _⟩
      have begins := here.2
      rw [List.map_take, beginsPlaceholder_take] at begins
      obtain ⟨behind, text, -, -⟩ := beginsPlaceholder_iff.1 begins
      obtain ⟨front, tail, inRest, place, alone, -⟩ := mem_placeholderColumns later
      have twice : (c :: front) ++ sorryWord ++ tail = sorryWord ++ behind := by
        rw [← text, List.map_cons, inRest]
        rfl
      have ends : bounds (c :: front).getLast? = true := by
        rwa [← getLast?_cons_or c front none, Option.or_none] at alone
      have far := lt_size_of_sorryWord_twice twice (List.cons_ne_nil _ _) ends
      rw [Text.size_cons] at far
      omega
    · exact ih _ _

/-! ### Scanned lines -/

variable {depth column : Nat} {line : Text}

theorem standsAt_of_mem_sorries (member : column ∈ (scanLine depth line).sorries) :
    StandsAt sorryWord column line := by
  obtain ⟨front, behind, text, place, -, -⟩ := mem_placeholderColumns member
  rw [map_fst_marks] at text
  exact ⟨front, behind, text, by omega⟩

theorem pairwise_sorries (depth : Nat) (line : Text) :
    (scanLine depth line).sorries.Pairwise fun earlier later => earlier + 5 < later :=
  pairwise_placeholderColumns none 0 _

/-- The code of a line is the front of the line. -/
theorem exists_code_append (depth : Nat) (line : Text) :
    ∃ remark, line = (scanLine depth line).code ++ remark := by
  refine ⟨((marks (.atDepth depth) line).dropWhile fun mark => mark.2 ≠ .remark).map Prod.fst, ?_⟩
  show line = List.map Prod.fst _ ++ _
  rw [← List.map_append, List.takeWhile_append_dropWhile, map_fst_marks]

@[simp] theorem map_fst_scanLines (depth : Nat) (all : List Text) :
    (scanLines depth all).map Prod.fst = all := by
  induction all generalizing depth with
  | nil => rfl
  | cons line rest ih => simp [scanLines, ih]

/-- The scan that comes with a line is a scan of that line. -/
theorem exists_depth_of_mem_scanLines {all : List Text} {scan : LineScan}
    (member : (line, scan) ∈ scanLines depth all) : ∃ inside, scan = scanLine inside line := by
  induction all generalizing depth with
  | nil => cases member
  | cons first rest ih =>
    rcases List.mem_cons.1 member with same | later
    · obtain ⟨rfl, rfl⟩ := Prod.mk.inj same
      exact ⟨depth, rfl⟩
    · exact ih later

end Source
end ProofDesk
