/-!
# Texts, their bytes and their lines

A text is a list of characters. Columns and offsets count the bytes of its UTF-8 form, so a place
in a text is a number that need not fall on a character.

* `size` — the number of bytes; `size_eq_utf8ByteSize` says that they are those of the string.
* `splitAtByte?` — the two sides of a byte offset. `splitAtByte?_eq_some` says that it answers
  exactly when some front part has that size.
* `lines` and `joinLines` — a text as the list of its lines, the line feed alone ending a line.
  `joinLines_lines` puts a text together again, and `lines_joinLines` takes lines apart again.
-/

namespace ProofDesk

/-- A text is the list of its characters. -/
abbrev Text := List Char

/-- A literal stands for the list of its characters. -/
instance : Coe String Text := ⟨String.toList⟩

namespace Text

/-! ### Bytes -/

/-- The number of bytes of the UTF-8 form. -/
def size : Text → Nat
  | [] => 0
  | c :: rest => c.utf8Size + size rest

@[simp] theorem size_nil : size [] = 0 := rfl

@[simp] theorem size_cons (c : Char) (rest : Text) :
    size (c :: rest) = c.utf8Size + size rest := rfl

@[simp] theorem size_append (front rest : Text) :
    size (front ++ rest) = size front + size rest := by
  induction front with
  | nil => simp
  | cons c front ih => simp [ih, Nat.add_assoc]

theorem size_eq_zero {t : Text} : size t = 0 ↔ t = [] := by
  cases t with
  | nil => simp
  | cons c t =>
    have := c.utf8Size_pos
    simp only [size_cons, reduceCtorEq, iff_false]
    omega

theorem size_eq_utf8ByteSize (t : Text) : size t = (String.ofList t).utf8ByteSize := by
  induction t with
  | nil => simp
  | cons c t ih =>
    rw [← List.singleton_append, String.ofList_append, String.utf8ByteSize_append, size_append, ih,
      ← String.singleton_eq_ofList]
    simp

/-- The two sides of byte offset `n`; `none` when it lies past the end or inside a character. -/
def splitAtByte? : Nat → Text → Option (Text × Text)
  | 0, t => some ([], t)
  | _ + 1, [] => none
  | n + 1, c :: rest =>
    if c.utf8Size ≤ n + 1 then
      (splitAtByte? (n + 1 - c.utf8Size) rest).map fun sides => (c :: sides.1, sides.2)
    else none

theorem splitAtByte?_zero (t : Text) : splitAtByte? 0 t = some ([], t) := by
  cases t <;> rfl

theorem splitAtByte?_size_append (front rest : Text) :
    splitAtByte? (size front) (front ++ rest) = some (front, rest) := by
  induction front with
  | nil => exact splitAtByte?_zero rest
  | cons c front ih =>
    obtain ⟨k, hk⟩ : ∃ k, c.utf8Size = k + 1 := ⟨c.utf8Size - 1, by have := c.utf8Size_pos; omega⟩
    have sizes : size (c :: front) = (k + size front) + 1 := by simp [hk]; omega
    rw [sizes, List.cons_append, splitAtByte?, if_pos (by omega)]
    rw [show k + size front + 1 - c.utf8Size = size front by omega, ih]
    rfl

theorem splitAtByte?_eq_some {n : Nat} {t front rest : Text} :
    splitAtByte? n t = some (front, rest) ↔ t = front ++ rest ∧ size front = n := by
  constructor
  · intro split
    induction t generalizing n front with
    | nil =>
      cases n with
      | zero =>
        simp only [splitAtByte?, Option.some.injEq, Prod.mk.injEq] at split
        simp [← split.1, ← split.2]
      | succ n => simp [splitAtByte?] at split
    | cons c t ih =>
      cases n with
      | zero =>
        simp only [splitAtByte?, Option.some.injEq, Prod.mk.injEq] at split
        simp [← split.1, ← split.2]
      | succ n =>
        simp only [splitAtByte?] at split
        split at split
        · next fits =>
          obtain ⟨⟨front', rest'⟩, found, same⟩ := Option.map_eq_some_iff.1 split
          simp only [Prod.mk.injEq] at same
          obtain ⟨rfl, rfl⟩ := same
          obtain ⟨rfl, sized⟩ := ih found
          exact ⟨rfl, by simp only [size_cons]; omega⟩
        · simp at split
  · rintro ⟨rfl, rfl⟩
    exact splitAtByte?_size_append front rest

/-- The bytes from `first` up to `last`, when both fall on characters of the text in this order. -/
def slice? (first last : Nat) (t : Text) : Option Text :=
  if first ≤ last then do
    let (_, rest) ← splitAtByte? first t
    let (middle, _) ← splitAtByte? (last - first) rest
    return middle
  else none

/-! ### Lines -/

/-- The pieces between the occurrences of a character; there is always one. -/
def splitOn (mark : Char) : Text → List Text
  | [] => [[]]
  | c :: rest =>
    if c = mark then [] :: splitOn mark rest
    else match splitOn mark rest with
      | [] => [[c]]
      | piece :: pieces => (c :: piece) :: pieces

/-- The words of a literal, written with one space between neighbours. -/
def words (literal : String) : List Text := splitOn ' ' literal.toList

/-- The lines of a text; a line feed ends a line, and the last line is what follows the last one. -/
def lines : Text → List Text := splitOn '\n'

/-- Lines put together, a line feed between neighbours. -/
def joinLines : List Text → Text := List.intercalate ['\n']

theorem splitOn_ne_nil (mark : Char) (t : Text) : splitOn mark t ≠ [] := by
  cases t with
  | nil => simp [splitOn]
  | cons c t =>
    simp only [splitOn]
    split
    · simp
    · split <;> simp

theorem lines_ne_nil (t : Text) : lines t ≠ [] := splitOn_ne_nil '\n' t

theorem intercalate_splitOn (mark : Char) (t : Text) :
    List.intercalate [mark] (splitOn mark t) = t := by
  induction t with
  | nil => rfl
  | cons c t ih =>
    obtain ⟨piece, pieces, pieces_eq⟩ : ∃ piece pieces, splitOn mark t = piece :: pieces :=
      List.exists_cons_of_ne_nil (splitOn_ne_nil mark t)
    rw [pieces_eq] at ih
    simp only [splitOn, pieces_eq]
    split
    · next same =>
      subst same
      simpa [List.intercalate] using ih
    · cases pieces with
      | nil => simpa [List.intercalate] using ih
      | cons next pieces => simpa [List.intercalate] using ih

/-- No piece holds the character between the pieces. -/
theorem not_mem_of_mem_splitOn {mark : Char} {t piece : Text} (member : piece ∈ splitOn mark t) :
    mark ∉ piece := by
  induction t generalizing piece with
  | nil => simp_all [splitOn]
  | cons c t ih =>
    obtain ⟨first, others, pieces⟩ := List.exists_cons_of_ne_nil (splitOn_ne_nil mark t)
    simp only [splitOn, pieces] at member ih
    split at member
    · rcases List.mem_cons.1 member with rfl | later
      · exact List.not_mem_nil
      · exact ih later
    · next other =>
      rcases List.mem_cons.1 member with rfl | later
      · simpa [Ne.symm other] using ih (List.mem_cons_self ..)
      · exact ih (List.mem_cons_of_mem _ later)

theorem splitOn_append_cons {mark : Char} {piece rest : Text} (unmarked : mark ∉ piece) :
    splitOn mark (piece ++ mark :: rest) = piece :: splitOn mark rest := by
  induction piece with
  | nil => simp [splitOn]
  | cons c piece ih =>
    simp only [List.mem_cons, not_or] at unmarked
    simp [splitOn, ih unmarked.2, Ne.symm unmarked.1]

theorem splitOn_eq_singleton {mark : Char} {piece : Text} (unmarked : mark ∉ piece) :
    splitOn mark piece = [piece] := by
  induction piece with
  | nil => rfl
  | cons c piece ih =>
    simp only [List.mem_cons, not_or] at unmarked
    simp [splitOn, ih unmarked.2, Ne.symm unmarked.1]

theorem splitOn_intercalate {mark : Char} {pieces : List Text} (nonempty : pieces ≠ [])
    (unmarked : ∀ piece ∈ pieces, mark ∉ piece) :
    splitOn mark (List.intercalate [mark] pieces) = pieces := by
  induction pieces with
  | nil => exact absurd rfl nonempty
  | cons piece others ih =>
    have first := unmarked piece (List.mem_cons_self ..)
    cases others with
    | nil => simpa [List.intercalate] using splitOn_eq_singleton first
    | cons next others =>
      have rest := ih (by simp) fun piece member => unmarked piece (List.mem_cons_of_mem _ member)
      have joined : List.intercalate [mark] (piece :: next :: others) =
          piece ++ mark :: List.intercalate [mark] (next :: others) := by
        simp [List.intercalate]
      rw [joined, splitOn_append_cons first, rest]

theorem not_mem_of_mem_lines {t line : Text} (member : line ∈ lines t) : '\n' ∉ line :=
  not_mem_of_mem_splitOn member

theorem lines_joinLines {all : List Text} (nonempty : all ≠ [])
    (unmarked : ∀ line ∈ all, '\n' ∉ line) : lines (joinLines all) = all :=
  splitOn_intercalate nonempty unmarked

@[simp] theorem joinLines_lines (t : Text) : joinLines (lines t) = t := intercalate_splitOn '\n' t

/-! ### Fixed beginnings and endings -/

/-- What follows `front`, when the text begins with it. -/
def after? (front : Text) (t : Text) : Option Text :=
  if front.isPrefixOf t then some (t.drop front.length) else none

theorem after?_eq_some {front t rest : Text} : after? front t = some rest ↔ t = front ++ rest := by
  unfold after?
  constructor
  · intro found
    split at found
    · next starts =>
      obtain ⟨tail, rfl⟩ := List.isPrefixOf_iff_prefix.1 starts
      simp only [List.drop_left, Option.some.injEq] at found
      rw [found]
    · simp at found
  · rintro rfl
    simp [ List.isPrefixOf_iff_prefix]

theorem suffix_of_after? {front t rest : Text} (found : after? front t = some rest) : rest <:+ t :=
  ⟨front, (after?_eq_some.1 found).symm⟩

/-- The text ends with `ending`. -/
def endsWith (ending t : Text) : Bool := ending.isSuffixOf t

end Text
end ProofDesk
