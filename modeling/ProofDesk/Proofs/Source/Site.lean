import ProofDesk.Proofs.Source.Declaration

/-!
# Where declarations stand

A declaration that is read at some place is a keyword, blanks and a name, and the name goes as far as
there are characters of names. The search for declarations goes on behind the name, so it passes over
a keyword that ends the name of an earlier declaration, and over no other.

* `Declaration` — the parts of a declaration; `nameHere?_eq_some` says that they are what is read.
* `exists_site_of_mem_declaredNames` — every declared name is declared at some place.
* `mem_declaredNames_or_covered` — what is declared at a place is a declared name, unless its keyword
  ends the name of an earlier declaration.
-/

namespace ProofDesk
namespace Source

variable {front here name behind tail keyword blanks other gap t : Text} {c : Char}
  {before : Option Char} {skip : Nat}

/-! ### Characters that separate names -/

/-- The code points of the characters that no name has. -/
def separatorCodes : List Nat :=
  [9, 10, 11, 12, 13, 0x20, 0x85, 0xA0, 0x1680, 0x2000, 0x2001, 0x2002, 0x2003, 0x2004, 0x2005,
    0x2006, 0x2007, 0x2008, 0x2009, 0x200A, 0x2028, 0x2029, 0x202F, 0x205F, 0x3000, 0x28, 0x3A, 0x5B,
    0x7B, 0x2983]

theorem toNat_mem_separatorCodes (separates : isNameChar c = false) : c.toNat ∈ separatorCodes := by
  simp only [isNameChar, Text.isBlank, Bool.not_eq_false', Bool.or_eq_true, Bool.and_eq_true,
    decide_eq_true_eq, beq_iff_eq] at separates
  simp only [separatorCodes, List.mem_cons, List.not_mem_nil, or_false]
  rcases separates with ((((blank | rfl) | rfl) | rfl) | rfl) | rfl
  · omega
  all_goals decide

theorem all_separatorCodes : separatorCodes.all (fun code =>
    !Text.isIdentChar (.ofNat code) && !Text.isWordChar (.ofNat code)) = true := by
  decide +kernel

/-- **A character that no name has** belongs to no identifier and to no word. -/
theorem apart_of_separates (separates : isNameChar c = false) :
    Text.isIdentChar c = false ∧ Text.isWordChar c = false := by
  have both := List.all_eq_true.1 all_separatorCodes _ (toNat_mem_separatorCodes separates)
  rw [Char.ofNat_toNat] at both
  simpa using both

theorem isNameChar_of_isWordChar (word : Text.isWordChar c = true) : isNameChar c = true := by
  cases named : isNameChar c with
  | true => rfl
  | false =>
    rw [(apart_of_separates named).2] at word
    cases word

theorem isNameChar_eq_false_of_isBlank (blank : Text.isBlank c = true) : isNameChar c = false := by
  simp [isNameChar, blank]

/-! ### Reading as far as possible -/

/-- The text does not go on with a character of this kind. -/
def Stops (p : Char → Bool) (behind : Text) : Prop := ∀ c, behind.head? = some c → p c = false

section Stops

variable {p : Char → Bool}

theorem stops_nil : Stops p [] := by
  rintro c ⟨⟩

theorem stops_dropWhile (t : Text) : Stops p (t.dropWhile p) := by
  intro c first
  have := List.head?_dropWhile_not p t
  rw [first] at this
  simpa using this

theorem takeWhile_append (inside : ∀ c ∈ front, p c = true) (stops : Stops p behind) :
    (front ++ behind).takeWhile p = front := by
  rw [List.takeWhile_append_of_pos inside]
  cases behind with
  | nil => exact List.append_nil front
  | cons c behind => rw [List.takeWhile_cons_of_neg (by simp [stops c rfl]), List.append_nil]

theorem dropWhile_append (inside : ∀ c ∈ front, p c = true) (stops : Stops p behind) :
    (front ++ behind).dropWhile p = behind := by
  rw [List.dropWhile_append_of_pos inside]
  cases behind with
  | nil => rfl
  | cons c behind => rw [List.dropWhile_cons_of_neg (by simp [stops c rfl])]

end Stops

/-! ### The parts of a declaration -/

/-- The words that begin a declaration. -/
def keywords : List Text := ["theorem".toList, "lemma".toList]

theorem isWordChar_of_mem_keyword (member : keyword ∈ keywords) :
    keyword ≠ [] ∧ ∀ c ∈ keyword, Text.isWordChar c = true := by
  have all : keywords.all (fun word => !word.isEmpty && word.all Text.isWordChar) = true := by decide
  have both := List.all_eq_true.1 all keyword member
  simpa using both

/-- **A declaration**: a keyword, blanks and a name, which goes as far as it can. -/
structure Declaration (here keyword blanks name behind : Text) : Prop where
  whole : here = keyword ++ (blanks ++ (name ++ behind))
  keyword : keyword ∈ keywords
  apart : blanks ≠ []
  blank : ∀ c ∈ blanks, Text.isBlank c = true
  solid : name ≠ []
  named : ∀ c ∈ name, isNameChar c = true
  stops : Stops isNameChar behind

namespace Declaration

variable (declaration : Declaration here keyword blanks name behind)

include declaration

theorem exists_cons : ∃ c rest, here = c :: rest ∧ isNameChar c = true := by
  obtain ⟨solid, words⟩ := isWordChar_of_mem_keyword declaration.keyword
  obtain ⟨c, rest, rfl⟩ := List.exists_cons_of_ne_nil solid
  exact ⟨c, _, declaration.whole, isNameChar_of_isWordChar (words c (List.mem_cons_self ..))⟩

theorem stops_blanks : Stops isNameChar (blanks ++ (name ++ behind)) := by
  obtain ⟨c, rest, rfl⟩ := List.exists_cons_of_ne_nil declaration.apart
  intro d first
  cases first
  exact isNameChar_eq_false_of_isBlank (declaration.blank c (List.mem_cons_self ..))

theorem takeWhile_here : here.takeWhile isNameChar = keyword := by
  rw [declaration.whole]
  have named : ∀ c ∈ keyword, isNameChar c = true := fun c member =>
    isNameChar_of_isWordChar ((isWordChar_of_mem_keyword declaration.keyword).2 c member)
  exact takeWhile_append named declaration.stops_blanks

end Declaration

theorem afterKeyword?_eq_some : afterKeyword? here = some tail ↔
    ∃ keyword ∈ keywords, ∃ blanks, here = keyword ++ (blanks ++ tail) ∧ blanks ≠ [] ∧
      (∀ c ∈ blanks, Text.isBlank c = true) ∧ Stops Text.isBlank tail := by
  constructor
  · intro found
    obtain ⟨rest, begins, found⟩ := Option.bind_eq_some_iff.1 found
    split at found
    · next blank =>
      cases found
      obtain ⟨c, first, white⟩ := (Option.any_eq_true ..).1 blank
      have blanks : Text.indentation rest ≠ [] := by
        cases rest with
        | nil => cases first
        | cons d rest =>
          cases first
          simp [Text.indentation, white]
      have here : ∃ keyword ∈ keywords, here = keyword ++ rest := by
        rcases Option.or_eq_some_iff.1 begins with begins | ⟨-, begins⟩
        · exact ⟨_, by simp [keywords], Text.after?_eq_some.1 begins⟩
        · exact ⟨_, by simp [keywords], Text.after?_eq_some.1 begins⟩
      obtain ⟨keyword, member, rfl⟩ := here
      refine ⟨keyword, member, Text.indentation rest, ?_, blanks, ?_, stops_dropWhile rest⟩
      · rw [Text.indentation_append_trimStart]
      · exact List.all_eq_true.1 List.all_takeWhile
    · cases found
  · rintro ⟨keyword, member, blanks, rfl, apart, blank, stops⟩
    have begins : (Text.after? "theorem" (keyword ++ (blanks ++ tail))).or
        (Text.after? "lemma" (keyword ++ (blanks ++ tail))) = some (blanks ++ tail) := by
      simp only [keywords, List.mem_cons, List.not_mem_nil, or_false] at member
      rcases member with rfl | rfl
      · rw [Text.after?_eq_some.2 rfl]
        rfl
      · rw [Text.after?_eq_some.2 rfl]
        rfl
    unfold afterKeyword?
    rw [begins]
    obtain ⟨c, rest, rfl⟩ := List.exists_cons_of_ne_nil apart
    show (if Text.isBlank c = true then some (Text.trimStart (c :: rest ++ tail)) else none) = _
    rw [if_pos (blank c (List.mem_cons_self ..)), Text.trimStart, dropWhile_append blank stops]

/-- **What is read is a declaration.** -/
theorem nameHere?_eq_some : nameHere? here = some (name, behind) ↔
    ∃ keyword blanks, Declaration here keyword blanks name behind := by
  constructor
  · intro found
    obtain ⟨solid, named⟩ := isNameChar_of_nameHere? found
    obtain ⟨rest, after, found⟩ := Option.bind_eq_some_iff.1 found
    obtain ⟨keyword, member, blanks, whole, apart, blank, -⟩ := afterKeyword?_eq_some.1 after
    dsimp only at found
    split at found
    · cases found
    · cases found
      refine ⟨keyword, blanks, ?_, member, apart, blank, solid, named, stops_dropWhile rest⟩
      rw [List.takeWhile_append_dropWhile]
      exact whole
  · rintro ⟨keyword, blanks, declaration⟩
    obtain ⟨c, others, rfl⟩ := List.exists_cons_of_ne_nil declaration.solid
    have visible : Stops Text.isBlank (c :: others ++ behind) := by
      rintro d ⟨⟩
      exact isBlank_eq_false_of_isNameChar (declaration.named c (List.mem_cons_self ..))
    have after : afterKeyword? here = some (c :: others ++ behind) := afterKeyword?_eq_some.2
      ⟨keyword, declaration.keyword, blanks, declaration.whole, declaration.apart, declaration.blank,
        visible⟩
    unfold nameHere?
    rw [after]
    show (if _ then none else some (_, _)) = _
    rw [takeWhile_append declaration.named declaration.stops,
      dropWhile_append declaration.named declaration.stops]
    rfl

/-! ### The search for declarations -/

/-- No character of words stands behind `front`, which begins behind `before`. -/
def Free (before : Option Char) (front : Text) : Prop :=
  (front.getLast?.or before).any Text.isWordChar = false

theorem free_cons : Free before (c :: front) ↔ Free (some c) front := by
  unfold Free
  rw [List.getLast?_cons]
  cases front.getLast? <;> rfl

theorem free_append (solid : tail ≠ []) : Free before (front ++ tail) ↔ Free before tail := by
  obtain ⟨init, last, rfl⟩ := (List.eq_nil_or_concat tail).resolve_left solid
  simp [Free]

theorem not_free_of_words (solid : front ≠ []) (words : ∀ c ∈ front, Text.isWordChar c = true) :
    ¬ Free before front := by
  obtain ⟨init, last, rfl⟩ := (List.eq_nil_or_concat front).resolve_left solid
  have word : Text.isWordChar last = true := words last (by simp)
  simp [Free, word]

theorem exists_site_of_mem_declaredNamesFrom
    (member : name ∈ declaredNamesFrom before skip t) :
    ∃ front here behind, t = front ++ here ∧ Free before front ∧
      nameHere? here = some (name, behind) := by
  induction t generalizing before skip with
  | nil => cases skip <;> cases member
  | cons c rest ih =>
    have later : ∀ {skip}, name ∈ declaredNamesFrom (some c) skip rest →
        ∃ front here behind, c :: rest = front ++ here ∧ Free before front ∧
          nameHere? here = some (name, behind) := by
      intro skip member
      obtain ⟨front, here, behind, rfl, free, found⟩ := ih member
      exact ⟨c :: front, here, behind, rfl, free_cons.2 free, found⟩
    cases skip with
    | succ skip => exact later member
    | zero =>
      unfold declaredNamesFrom at member
      split at member
      · next first behind found =>
        rcases List.mem_cons.1 member with rfl | member
        · split at found
          · cases found
          · next free => exact ⟨[], c :: rest, behind, rfl, Bool.eq_false_iff.2 free, found⟩
        · exact later member
      · exact later member

/-- **Every declared name is declared at some place**, where no character of words stands before. -/
theorem exists_site_of_mem_declaredNames (member : name ∈ declaredNames t) :
    ∃ front here behind, t = front ++ here ∧ Free none front ∧
      nameHere? here = some (name, behind) :=
  exists_site_of_mem_declaredNamesFrom member

/-- **A declaration that begins inside another one** begins with the end of its name. -/
theorem keyword_of_inside {keyword' blanks' : Text}
    (outer : Declaration (front ++ here) keyword' blanks' other tail)
    (inner : Declaration here keyword blanks name behind) (later : front ≠ [])
    (free : Free before front) (inside : tail.length < here.length) :
    ∃ gap blank, front ++ keyword = gap ++ blank :: other ∧ Text.isBlank blank = true := by
  obtain ⟨c, rest, begins, named⟩ := inner.exists_cons
  -- Not in the keyword, where a letter would stand before it.
  obtain ⟨middle, rfl, whole⟩ : ∃ middle, front = keyword' ++ middle ∧
      blanks' ++ (other ++ tail) = middle ++ here := by
    rcases List.append_eq_append_iff.1 outer.whole with ⟨middle, same, -⟩ | both
    · have words : ∀ c ∈ front, Text.isWordChar c = true := fun c member =>
        (isWordChar_of_mem_keyword outer.keyword).2 c (by simp [same, member])
      exact absurd free (not_free_of_words later words)
    · exact both
  -- Not in the blanks, as it does not begin with one.
  obtain ⟨start, rfl, within⟩ :
      ∃ start, middle = blanks' ++ start ∧ other ++ tail = start ++ here := by
    rcases List.append_eq_append_iff.1 whole with both | ⟨white, same, reaches⟩
    · exact both
    · cases white with
      | nil => exact ⟨[], by simpa using same.symm, by simpa using reaches.symm⟩
      | cons d white =>
        obtain ⟨rfl, -⟩ := List.cons.inj (begins.symm.trans reaches)
        have blank := isNameChar_eq_false_of_isBlank (outer.blank c (by simp [same]))
        rw [named] at blank
        cases blank
  -- So it begins with an end of the name, and the keyword is all of that.
  rcases List.append_eq_append_iff.1 within with ⟨more, rfl, rfl⟩ | ⟨word, rfl, rfl⟩
  · rw [List.length_append] at inside
    omega
  · have ends : ∀ c ∈ word, isNameChar c = true := fun c member =>
      outer.named c (List.mem_append_right _ member)
    obtain rfl : word = keyword :=
      (takeWhile_append ends outer.stops).symm.trans inner.takeWhile_here
    obtain ⟨white, blank, rfl⟩ := (List.eq_nil_or_concat blanks').resolve_left outer.apart
    exact ⟨keyword' ++ white, blank, by simp, outer.blank blank (by simp)⟩

theorem mem_declaredNamesFrom_or_covered
    (declaration : Declaration here keyword blanks name behind) (fits : skip ≤ front.length)
    (free : Free before front) :
    name ∈ declaredNamesFrom before skip (front ++ here) ∨
      ∃ gap blank other, front ++ keyword = gap ++ blank :: other ∧ Text.isBlank blank = true ∧
        other ∈ declaredNamesFrom before skip (front ++ here) := by
  have found := nameHere?_eq_some.2 ⟨keyword, blanks, declaration⟩
  induction front generalizing before skip with
  | nil =>
    obtain rfl : skip = 0 := by simpa using fits
    obtain ⟨c, rest, rfl, -⟩ := declaration.exists_cons
    have alone : ¬ before.any Text.isWordChar = true := by simpa [Free] using free
    rw [List.nil_append, declaredNamesFrom, if_neg alone, found]
    exact .inl (List.mem_cons_self ..)
  | cons c front ih =>
    have later : ∀ {skip}, skip ≤ front.length →
        name ∈ declaredNamesFrom (some c) skip (front ++ here) ∨
          ∃ gap blank other, c :: front ++ keyword = gap ++ blank :: other ∧
            Text.isBlank blank = true ∧
            other ∈ declaredNamesFrom (some c) skip (front ++ here) := by
      intro skip fits
      rcases ih fits (free_cons.1 free) with here | ⟨gap, blank, other, whole, white, member⟩
      · exact .inl here
      · exact .inr ⟨c :: gap, blank, other, congrArg (c :: ·) whole, white, member⟩
    cases skip with
    | succ skip => exact later (by simpa using fits)
    | zero =>
      rw [List.cons_append, declaredNamesFrom]
      split
      · next other tail first =>
        by_cases short : (front ++ here).length - tail.length ≤ front.length
        · rcases later short with member | ⟨gap, blank, other, whole, white, member⟩
          · exact .inl (List.mem_cons_of_mem _ member)
          · exact .inr ⟨gap, blank, other, whole, white, List.mem_cons_of_mem _ member⟩
        · split at first
          · cases first
          · obtain ⟨keyword', blanks', outer⟩ := nameHere?_eq_some.1 first
            have inside : tail.length < here.length := by
              rw [List.length_append] at short
              omega
            obtain ⟨gap, blank, whole, white⟩ :=
              keyword_of_inside outer declaration (List.cons_ne_nil c front) free inside
            exact .inr ⟨gap, blank, other, whole, white, List.mem_cons_self ..⟩
      · exact later (Nat.zero_le _)

/-- **What is declared at a place is a declared name**, unless its keyword ends the name of an earlier
declaration. -/
theorem mem_declaredNames_or_covered
    (declaration : Declaration here keyword blanks name behind) (free : Free none front) :
    name ∈ declaredNames (front ++ here) ∨
      ∃ gap blank other, front ++ keyword = gap ++ blank :: other ∧ Text.isBlank blank = true ∧
        other ∈ declaredNames (front ++ here) :=
  mem_declaredNamesFrom_or_covered declaration (Nat.zero_le _) free

end Source
end ProofDesk
