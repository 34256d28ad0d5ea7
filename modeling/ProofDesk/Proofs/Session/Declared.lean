import ProofDesk.Proofs.Session.Renaming
import ProofDesk.Proofs.Source.Site

/-!
# What a submitted text declares

The suffix goes behind the declared names, and a name is declared between separators: a blank before
it and a character that no name has behind it. So at a declaration the name is found as a whole, and
the submitted text declares it with the suffix. Nothing else comes up as a declaration: the suffix has
neither a keyword nor a separator, and a keyword that gets the suffix is none any more.

* `find?_searchOrder` — of the names that stand somewhere, the longest is found.
* `marks_eq_of_separator` — the marks on both sides of a separator are those of the two texts.
* `exists_eq_append_of_mem_declaredNames` — **every name that a submitted text declares** is a name of
  the document with the suffix.
-/

namespace ProofDesk
namespace Renaming

open Source (Declaration Free Stops isNameChar declaredNames)
open Text (put)

variable {names : List Text} {name t body : Text} {c : Char}

/-! ### The order of the search -/

theorem longerFirst_iff {a b : Text} : longerFirst a b = true ↔
    Text.size b < Text.size a ∨ Text.size a = Text.size b ∧ Text.precedes b a = false := by
  simp [longerFirst]

theorem longerFirst_trans (a b c : Text) (first : longerFirst a b = true)
    (second : longerFirst b c = true) : longerFirst a c = true := by
  rw [longerFirst_iff] at first second ⊢
  rcases first with longer | ⟨same, first⟩
  · left
    omega
  rcases second with longer | ⟨same', second⟩
  · left
    omega
  refine .inr ⟨same.trans same', ?_⟩
  -- Were `c` before `a`, then `b` would be neither before `a` nor behind it.
  cases reverse : Text.precedes c a with
  | false => rfl
  | true =>
    rcases Text.eq_or_precedes b c with rfl | less | more
    · rw [first] at reverse
      cases reverse
    · rw [Text.precedes_trans less reverse] at first
      cases first
    · rw [more] at second
      cases second

theorem longerFirst_total (a b : Text) : (longerFirst a b || longerFirst b a) = true := by
  rw [Bool.or_eq_true, longerFirst_iff, longerFirst_iff]
  rcases Nat.lt_trichotomy (Text.size a) (Text.size b) with less | same | more
  · exact .inr (.inl less)
  · by_cases before : Text.precedes b a = true
    · exact .inr (.inr ⟨same.symm, Text.precedes_asymm before⟩)
    · exact .inl (.inr ⟨same, by simpa using before⟩)
  · exact .inl (.inl more)

theorem eraseDups_sublist {α : Type} [BEq α] : ∀ l : List α, l.eraseDups.Sublist l
  | [] => .slnil
  | a :: l => by
    rw [List.eraseDups_cons]
    exact ((eraseDups_sublist _).trans List.filter_sublist).cons_cons a
termination_by l => l.length
decreasing_by exact Nat.lt_succ_of_le (List.length_filter_le ..)

theorem pairwise_searchOrder (t : Text) :
    (searchOrder t).Pairwise fun a b => longerFirst a b = true :=
  (List.pairwise_mergeSort longerFirst_trans longerFirst_total _).sublist (eraseDups_sublist _)

/-- **Where a declared name stands alone, it is found**, and no other name that it begins with. -/
theorem find?_searchOrder (member : name ∈ searchOrder t) :
    ((searchOrder t).find? fun other => other.isPrefixOf name) = some name := by
  cases known : (searchOrder t).find? fun other => other.isPrefixOf name with
  | none =>
    have missing := List.find?_eq_none.1 known name member
    simp [List.isPrefixOf_iff_prefix] at missing
  | some found =>
    obtain ⟨begins, front, behind, whole, missed⟩ := List.find?_eq_some_iff_append.1 known
    obtain ⟨rest, rfl⟩ := List.isPrefixOf_iff_prefix.1 begins
    have ordered := pairwise_searchOrder t
    rw [whole] at member ordered
    -- The whole name was not passed over, and behind what was found it is not longer.
    rcases List.mem_append.1 member with before | here
    · have passed : List.isPrefixOf (found ++ rest) (found ++ rest) = false := by
        simpa using missed _ before
      rw [List.isPrefixOf_iff_prefix.2 (List.prefix_refl _)] at passed
      cases passed
    rcases List.mem_cons.1 here with same | later
    · rw [same]
    · have longest := longerFirst_iff.1
        ((List.pairwise_cons.1 (List.pairwise_append.1 ordered).2.1).1 _ later)
      rw [Text.size_append] at longest
      have empty : rest = [] := Text.size_eq_zero.1 (by omega)
      rw [empty, List.append_nil]

/-! ### Marks of a text with separators -/

theorem isNameChar_of_mem_searchOrder (member : name ∈ searchOrder t) :
    name ≠ [] ∧ ∀ c ∈ name, isNameChar c = true :=
  Source.isNameChar_of_mem_declaredNames (mem_searchOrder.1 member)

theorem marks_searchOrder_append_cons (separates : isNameChar c = false) (line more : Text) :
    marks (searchOrder t) (line ++ c :: more) =
      marks (searchOrder t) line ++ (c, false) :: marks (searchOrder t) more := by
  refine marks_append_cons (fun name member => (isNameChar_of_mem_searchOrder member).1)
    (fun name member inside => ?_) (Source.apart_of_separates separates).1 line more
  rw [(isNameChar_of_mem_searchOrder member).2 c inside] at separates
  cases separates

/-- **The marks on both sides of a separator are those of the two texts.** -/
theorem marks_eq_of_separator {line : Text} {ends : Bool} {front behind : List (Char × Bool)}
    (shape : marks (searchOrder t) line = front ++ (c, ends) :: behind)
    (separates : isNameChar c = false) :
    ends = false ∧ front = marks (searchOrder t) (front.map Prod.fst) ∧
      behind = marks (searchOrder t) (behind.map Prod.fst) := by
  have chars : line = front.map Prod.fst ++ c :: behind.map Prod.fst := by
    rw [← map_fst_marks (searchOrder t) line, shape, List.map_append, List.map_cons]
  rw [chars, marks_searchOrder_append_cons separates] at shape
  obtain ⟨same, rest⟩ := List.append_inj shape (by simp)
  obtain ⟨mark, same'⟩ := List.cons.inj rest
  exact ⟨(congrArg Prod.snd mark).symm, same.symm, same'.symm⟩

theorem marksFrom_concat (before : Option Char) (alone : Bool) (front : Text) (last : Char) :
    marksFrom names before (front.length + 1) alone (front ++ [last]) =
      front.map (·, false) ++ [(last, alone)] := by
  induction front generalizing before with
  | nil => simp [marksFrom]
  | cons d front ih =>
    rw [List.cons_append, List.length_cons, marksFrom, ih]
    simp

theorem marks_name (member : name ∈ searchOrder t) :
    ∃ front last, name = front ++ [last] ∧
      marks (searchOrder t) name = front.map (·, false) ++ [(last, true)] := by
  obtain ⟨c, others, rfl⟩ := List.exists_cons_of_ne_nil (isNameChar_of_mem_searchOrder member).1
  have found : marks (searchOrder t) (c :: others) = _ :=
    marksFrom_of_found (find?_searchOrder member) (List.append_nil others).symm
  obtain ⟨front, last, whole⟩ := (List.eq_nil_or_concat (c :: others)).resolve_left (by simp)
  rw [List.concat_eq_append] at whole
  have length : others.length = front.length := by simpa using congrArg List.length whole
  have taken : marksFrom (searchOrder t) none (front.length + 1) true (front ++ [last]) = _ :=
    marksFrom_concat none true front last
  rw [← whole, ← length] at taken
  exact ⟨front, last, whole, found.trans taken⟩

theorem getLast?_marks_append_name (member : name ∈ searchOrder t)
    (separates : isNameChar c = false) (gap : Text) :
    ∃ last, (marks (searchOrder t) (gap ++ c :: name)).getLast? = some (last, true) := by
  obtain ⟨front, last, rfl, marked⟩ := marks_name member
  refine ⟨last, ?_⟩
  rw [marks_searchOrder_append_cons separates, marked, ← List.cons_append, ← List.append_assoc,
    List.getLast?_concat]

/-! ### Declarations of the submitted text -/

section Submitted

variable {front here keyword blanks behind : Text} {marked : List (Char × Bool)}

theorem underscore_not_mem_keyword (member : keyword ∈ Source.keywords) : '_' ∉ keyword := by
  have all : Source.keywords.all (fun word => !List.contains word '_') = true := by decide
  have none := List.all_eq_true.1 all keyword member
  simpa using none

theorem free_of_free_put (words : ∀ c ∈ '_' :: body, Text.isWordChar c = true)
    (free : Free none (put ('_' :: body) marked)) : Free none (marked.map Prod.fst) := by
  rcases List.eq_nil_or_concat marked with rfl | ⟨init, ⟨c, ends⟩, rfl⟩
  · rfl
  · rw [List.concat_eq_append, Text.put_append, Text.put_cons] at free
    cases ends with
    | false =>
      rw [Source.free_append (List.cons_ne_nil c _)] at free
      rw [List.concat_eq_append, List.map_append, List.map_singleton,
        Source.free_append (List.cons_ne_nil c [])]
      exact free
    | true =>
      have behind : c :: ('_' :: body ++ put ('_' :: body) []) = [c] ++ '_' :: body := by simp [put]
      rw [if_pos rfl, behind, ← List.append_assoc, Source.free_append (List.cons_ne_nil _ _)] at free
      exact absurd free (Source.not_free_of_words (List.cons_ne_nil _ _) words)

/-- A declaration of the new text begins with a character of the old one. -/
theorem exists_cut_of_declaration (words : ∀ c ∈ '_' :: body, Text.isWordChar c = true)
    (cut : put ('_' :: body) marked = front ++ here)
    (declaration : Declaration here keyword blanks name behind) (free : Free none front) :
    ∃ first second, marked = first ++ second ∧ here = put ('_' :: body) second ∧
      Free none (first.map Prod.fst) := by
  rcases Text.cut_put cut with ⟨first, second, rfl, rfl, rfl⟩ |
    ⟨first, c, second, start, rest, rfl, whole, inside, rfl, rfl⟩
  · exact ⟨first, second, rfl, rfl, free_of_free_put words free⟩
  · cases start with
    | nil =>
      -- No keyword begins as the suffix does.
      obtain rfl : '_' :: body = rest := whole
      obtain ⟨k, others, rfl⟩ := List.exists_cons_of_ne_nil
        (Source.isWordChar_of_mem_keyword declaration.keyword).1
      obtain ⟨rfl, -⟩ := List.cons.inj declaration.whole
      exact absurd (List.mem_cons_self ..) (underscore_not_mem_keyword declaration.keyword)
    | cons d start =>
      obtain ⟨rfl, rfl⟩ := List.cons.inj whole
      have words' : ∀ c ∈ '_' :: start, Text.isWordChar c = true := fun c inside =>
        words c (List.mem_append_left rest inside)
      have behind : c :: '_' :: start = [c] ++ '_' :: start := rfl
      rw [behind, ← List.append_assoc, Source.free_append (List.cons_ne_nil _ _)] at free
      exact absurd free (Source.not_free_of_words (List.cons_ne_nil _ _) words')

/-- The keyword and the blanks get no suffix, and behind them the name begins in the old text. -/
theorem exists_name_of_declaration {line : Text} {first second : List (Char × Bool)}
    (shape : marks (searchOrder t) line = first ++ second)
    (declaration : Declaration (put ('_' :: body) second) keyword blanks name behind) :
    ∃ later, second = (keyword ++ blanks).map (·, false) ++ marks (searchOrder t) later ∧
      name ++ behind = put ('_' :: body) (marks (searchOrder t) later) := by
  obtain ⟨white, b, rfl⟩ := (List.eq_nil_or_concat blanks).resolve_left declaration.apart
  rw [List.concat_eq_append] at *
  have blank : isNameChar b = false :=
    Source.isNameChar_eq_false_of_isBlank (declaration.blank b (by simp))
  have unmarked : '_' ∉ keyword ++ (white ++ [b]) := by
    intro inside
    rcases List.mem_append.1 inside with inside | inside
    · exact underscore_not_mem_keyword declaration.keyword inside
    · exact absurd (declaration.blank '_' inside) (by decide)
  have ends : ∀ c, (keyword ++ (white ++ [b])).getLast? = some c → (c, true) ∉ second := by
    intro c last member
    obtain rfl : b = c := by simpa using last
    obtain ⟨init, tail, rfl⟩ := List.append_of_mem member
    rw [← List.append_assoc] at shape
    exact absurd (marks_eq_of_separator shape blank).1 (by decide)
  have whole := declaration.whole
  rw [← List.append_assoc] at whole
  obtain ⟨later, rfl, text⟩ := Text.exists_unmarked_append whole unmarked ends
  have split : first ++ ((keyword ++ (white ++ [b])).map (·, false) ++ later) =
      (first ++ (keyword ++ white).map (·, false)) ++ (b, false) :: later := by simp
  rw [split] at shape
  obtain ⟨-, -, same⟩ := marks_eq_of_separator shape blank
  exact ⟨later.map Prod.fst, by rw [← same], by rw [← same]; exact text⟩

theorem put_marks_name (suffix : Text) (member : name ∈ searchOrder t) :
    put suffix (marks (searchOrder t) name) = name ++ suffix := by
  obtain ⟨front, last, rfl, marked⟩ := marks_name member
  rw [marked, Text.put_append, Text.put_unmarked, List.append_assoc]
  simp [put]

/-- **A name of the old text up to a separator** has the suffix in the new one. -/
theorem takeWhile_put_marks (words : ∀ c ∈ '_' :: body, Text.isWordChar c = true)
    (member : name ∈ searchOrder t) (stops : Stops isNameChar behind) :
    (put ('_' :: body) (marks (searchOrder t) (name ++ behind))).takeWhile isNameChar =
      name ++ '_' :: body := by
  have named : ∀ c ∈ name ++ '_' :: body, isNameChar c = true := by
    intro c inside
    rcases List.mem_append.1 inside with inside | inside
    · exact (isNameChar_of_mem_searchOrder member).2 c inside
    · exact Source.isNameChar_of_isWordChar (words c inside)
  cases behind with
  | nil =>
    have alone := Source.takeWhile_append named Source.stops_nil
    rw [List.append_nil] at alone
    rw [List.append_nil, put_marks_name _ member, alone]
  | cons c behind =>
    rw [marks_searchOrder_append_cons (stops c rfl), Text.put_append, put_marks_name _ member]
    refine Source.takeWhile_append named ?_
    rintro d ⟨⟩
    exact stops c rfl

/-- Behind the same keyword and blanks, the old text declares the name up to the next separator. -/
theorem declaration_of_put {later : Text} (declaration : Declaration here keyword blanks name behind)
    (text : name ++ behind = put ('_' :: body) (marks names later)) :
    Declaration (keyword ++ (blanks ++ later)) keyword blanks (later.takeWhile isNameChar)
      (later.dropWhile isNameChar) where
  whole := by rw [List.takeWhile_append_dropWhile]
  keyword := declaration.keyword
  apart := declaration.apart
  blank := declaration.blank
  solid := by
    have begins : (name ++ behind).head? = later.head? := by
      rw [text, Text.head?_put, map_fst_marks]
    obtain ⟨c, rest, rfl⟩ := List.exists_cons_of_ne_nil declaration.solid
    cases later with
    | nil => cases begins
    | cons d later =>
      cases begins
      rw [List.takeWhile_cons_of_pos (declaration.named c (List.mem_cons_self ..))]
      exact List.cons_ne_nil _ _
  named := List.all_eq_true.1 List.all_takeWhile
  stops := Source.stops_dropWhile later

/-- **A text that gets no suffix ends no declared name**, when separators stand around the name. -/
theorem not_mem_of_unmarked {line gap : Text} {first later : List (Char × Bool)} {blank : Char}
    (shape : marks (searchOrder t) line = (first ++ keyword.map (·, false)) ++ (c, false) :: later)
    (separates : isNameChar c = false) (solid : keyword ≠ [])
    (whole : first.map Prod.fst ++ keyword = gap ++ blank :: name)
    (before : isNameChar blank = false) : name ∉ searchOrder t := by
  intro member
  obtain ⟨-, same, -⟩ := marks_eq_of_separator shape separates
  obtain ⟨last, ends⟩ := getLast?_marks_append_name member before gap
  obtain ⟨init, k, rfl⟩ := (List.eq_nil_or_concat keyword).resolve_left solid
  rw [List.map_append, Text.map_fst_unmarked, whole] at same
  rw [← same, List.concat_eq_append, List.map_append, ← List.append_assoc, List.map_singleton,
    List.getLast?_concat] at ends
  cases ends

/-- **Every name that a submitted text declares** is a name that the document declares, with the
suffix. -/
theorem exists_eq_append_of_mem_declaredNames (words : ∀ c ∈ '_' :: body, Text.isWordChar c = true)
    (member : name ∈ declaredNames (suffixNames ('_' :: body) t)) :
    ∃ original ∈ declaredNames t, name = original ++ '_' :: body := by
  rw [suffixNames_eq_put] at member
  obtain ⟨front, here, behind, cut, free, found⟩ := Source.exists_site_of_mem_declaredNames member
  obtain ⟨keyword, blanks, declaration⟩ := Source.nameHere?_eq_some.1 found
  obtain ⟨first, second, shape, rfl, free⟩ := exists_cut_of_declaration words cut declaration free
  obtain ⟨later, rfl, text⟩ := exists_name_of_declaration shape declaration
  have document : t = first.map Prod.fst ++ (keyword ++ (blanks ++ later)) := by
    rw [← map_fst_marks (searchOrder t) t, shape, List.map_append, List.map_append,
      Text.map_fst_unmarked, map_fst_marks, List.append_assoc]
  rcases Source.mem_declaredNames_or_covered (declaration_of_put declaration text) free with
    known | ⟨gap, blank, other, whole, white, known⟩
  · rw [← document] at known
    refine ⟨later.takeWhile isNameChar, known, ?_⟩
    calc name = (name ++ behind).takeWhile isNameChar :=
          (Source.takeWhile_append declaration.named declaration.stops).symm
      _ = (put ('_' :: body) (marks (searchOrder t) (later.takeWhile isNameChar ++
            later.dropWhile isNameChar))).takeWhile isNameChar := by
          rw [text, List.takeWhile_append_dropWhile]
      _ = later.takeWhile isNameChar ++ '_' :: body :=
          takeWhile_put_marks words (mem_searchOrder.2 known) (Source.stops_dropWhile later)
  · -- A keyword that ends a declared name would have got the suffix.
    rw [← document] at known
    obtain ⟨b, rest, rfl⟩ := List.exists_cons_of_ne_nil declaration.apart
    have split : marks (searchOrder t) t = (first ++ keyword.map (·, false)) ++
        (b, false) :: (rest.map (·, false) ++ marks (searchOrder t) later) := by simp [shape]
    have separates := Source.isNameChar_eq_false_of_isBlank
      (declaration.blank b (List.mem_cons_self ..))
    exact absurd (mem_searchOrder.2 known) (not_mem_of_unmarked split separates
      (Source.isWordChar_of_mem_keyword declaration.keyword).1 whole
      (Source.isNameChar_eq_false_of_isBlank white))

end Submitted

end Renaming
end ProofDesk
