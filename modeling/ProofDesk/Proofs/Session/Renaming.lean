import ProofDesk.Session.Renaming
import ProofDesk.Proofs.Source.Declaration
import ProofDesk.Proofs.Text.Inserted
import ProofDesk.Proofs.Text.Piece

/-!
# What a suffix does to a text

* `marks` — the characters of a text, each with whether the suffix goes behind it.
* `suffixFrom_eq_put` — the suffix is put behind the marked characters, and nothing else happens.
* `marks_append_cons` — what stands on one side of a separator does not matter on the other.
* `lines_suffixNames` — the lines get their suffixes one by one, so no line comes or goes.
* `eraseAll_suffixNames` — erasing the suffix gives the document back.
-/

namespace ProofDesk
namespace Renaming

open Source (bounds)
open Text (put)

variable {names : List Text} {suffix name line more t : Text} {before : Option Char} {skip : Nat}

/-! ### Steps of the search -/

/-- A name that stands here is taken as a whole. -/
theorem suffixFrom_of_found {c : Char} {behind : Text}
    (known : (names.find? fun name => name.isPrefixOf (c :: t)) = some (c :: name))
    (whole : t = name ++ behind) :
    suffixFrom names suffix before 0 (c :: t) =
      c :: (name ++ ((if bounds before && bounds behind.head? then suffix else []) ++
        suffixFrom names suffix (some c) name.length t)) := by
  have rest : (c :: t).drop (c :: name).length = behind := by
    rw [whole, ← List.cons_append, List.drop_left]
  rw [suffixFrom, known]
  dsimp only
  rw [rest, List.length_cons, Nat.add_sub_cancel, List.cons_append, List.cons_append,
    List.append_assoc]

theorem suffixFrom_of_unknown {c : Char}
    (unknown : (names.find? fun name => name.isPrefixOf (c :: t)) = none) :
    suffixFrom names suffix before 0 (c :: t) = c :: suffixFrom names suffix (some c) 0 t := by
  rw [suffixFrom, unknown]

/-- A name that is found begins with the character that stands here. -/
theorem exists_of_found (solid : ∀ name ∈ names, name ≠ []) {c : Char}
    (known : (names.find? fun name => name.isPrefixOf (c :: t)) = some name) :
    ∃ others behind, name = c :: others ∧ t = others ++ behind := by
  obtain ⟨d, others, rfl⟩ := List.exists_cons_of_ne_nil (solid name (List.mem_of_find?_eq_some known))
  have begins := List.find?_some known
  rw [List.isPrefixOf_iff_prefix, List.cons_prefix_cons] at begins
  obtain ⟨rfl, behind, whole⟩ := begins
  exact ⟨others, behind, rfl, whole.symm⟩

/-! ### Marked characters -/

/-- The characters of a text with whether the suffix goes behind them, `skip` of them belonging to a
name that is known already; `alone` tells whether that name gets the suffix. -/
def marksFrom (names : List Text) (before : Option Char) :
    (skip : Nat) → (alone : Bool) → Text → List (Char × Bool)
  | _, _, [] => []
  | skip + 1, alone, c :: rest =>
    (c, alone && skip == 0) :: marksFrom names (some c) skip alone rest
  | 0, _, c :: rest =>
    match names.find? fun name => name.isPrefixOf (c :: rest) with
    | some name =>
      let alone := bounds before && bounds ((c :: rest).drop name.length).head?
      (c, alone && name.length - 1 == 0) :: marksFrom names (some c) (name.length - 1) alone rest
    | none => (c, false) :: marksFrom names (some c) 0 false rest

/-- The characters of a line with whether the suffix goes behind them. -/
def marks (names : List Text) (line : Text) : List (Char × Bool) := marksFrom names none 0 false line

theorem marksFrom_of_found {c : Char} {behind : Text} {alone : Bool}
    (known : (names.find? fun name => name.isPrefixOf (c :: t)) = some (c :: name))
    (whole : t = name ++ behind) :
    marksFrom names before 0 alone (c :: t) =
      (c, (bounds before && bounds behind.head?) && name.length == 0) ::
        marksFrom names (some c) name.length (bounds before && bounds behind.head?) t := by
  have rest : (c :: t).drop (c :: name).length = behind := by
    rw [whole, ← List.cons_append, List.drop_left]
  rw [marksFrom, known]
  dsimp only
  rw [rest, List.length_cons, Nat.add_sub_cancel]

theorem marksFrom_of_unknown {c : Char} {alone : Bool}
    (unknown : (names.find? fun name => name.isPrefixOf (c :: t)) = none) :
    marksFrom names before 0 alone (c :: t) =
      (c, false) :: marksFrom names (some c) 0 false t := by
  rw [marksFrom, unknown]

theorem map_fst_marksFrom (alone : Bool) :
    (marksFrom names before skip alone t).map Prod.fst = t := by
  induction t generalizing before skip alone with
  | nil => cases skip <;> rfl
  | cons c rest ih =>
    cases skip with
    | succ skip => exact congrArg _ (ih _)
    | zero =>
      unfold marksFrom
      split
      · exact congrArg _ (ih _)
      · exact congrArg _ (ih _)

@[simp] theorem map_fst_marks (names : List Text) (line : Text) :
    (marks names line).map Prod.fst = line := map_fst_marksFrom _

@[simp] theorem length_marks (names : List Text) (line : Text) :
    (marks names line).length = line.length := by
  rw [← List.length_map Prod.fst, map_fst_marks]

/-- The rest of a name comes first, then the suffix that it gets, and then the text behind it. -/
theorem put_marksFrom (solid : ∀ name ∈ names, name ≠ []) (alone : Bool) (fits : skip ≤ t.length) :
    put suffix (marksFrom names before skip alone t) =
      t.take skip ++ ((if alone && skip != 0 then suffix else []) ++
        suffixFrom names suffix before skip t) := by
  induction t generalizing before skip alone with
  | nil =>
    obtain rfl : skip = 0 := by simpa using fits
    simp [marksFrom, put, suffixFrom]
  | cons c rest ih =>
    -- Both ways to go on: `more` characters of a name are left, and then it gets the suffix.
    have name : ∀ alone more, more ≤ rest.length →
        put suffix ((c, alone && more == 0) :: marksFrom names (some c) more alone rest) =
          c :: (rest.take more ++ ((if alone then suffix else []) ++
            suffixFrom names suffix (some c) more rest)) := by
      intro alone more fits
      rw [Text.put_cons, ih alone fits]
      cases more with
      | zero => cases alone <;> simp
      | succ more => cases alone <;> simp
    cases skip with
    | succ skip =>
      have left := name alone skip (by simpa using fits)
      rw [marksFrom, left, suffixFrom, List.take_succ_cons]
      simp
    | zero =>
      rw [List.take_zero, List.nil_append, show (alone && 0 != 0) = false from Bool.and_false _,
        if_neg (by decide), List.nil_append]
      cases known : names.find? fun name => name.isPrefixOf (c :: rest) with
      | none =>
        rw [marksFrom_of_unknown known, suffixFrom_of_unknown known, Text.put_cons,
          ih false (Nat.zero_le _)]
        rfl
      | some found =>
        obtain ⟨others, behind, rfl, whole⟩ := exists_of_found solid known
        have fits : others.length ≤ rest.length := by simp [whole]
        have front : rest.take others.length = others := by rw [whole, List.take_left]
        rw [marksFrom_of_found known whole, suffixFrom_of_found known whole, name _ _ fits, front]

/-- **The suffix is put behind the marked characters**, and nothing else happens. -/
theorem suffixFrom_eq_put (solid : ∀ name ∈ names, name ≠ []) (line : Text) :
    suffixFrom names suffix none 0 line = put suffix (marks names line) := by
  unfold marks
  rw [put_marksFrom solid false (Nat.zero_le _)]
  rfl

/-! ### Separators -/

section Separator

variable {separator : Char}

theorem isPrefixOf_append_cons (apart : separator ∉ name) :
    name.isPrefixOf (line ++ separator :: more) = name.isPrefixOf line := by
  rw [Bool.eq_iff_iff, List.isPrefixOf_iff_prefix, List.isPrefixOf_iff_prefix]
  constructor
  · rintro ⟨rest, whole⟩
    rcases List.append_eq_append_iff.1 whole with ⟨gap, rfl, -⟩ | ⟨gap, rfl, reaches⟩
    · exact List.prefix_append ..
    · cases gap with
      | nil => exact ⟨[], by simp⟩
      | cons c gap =>
        obtain ⟨rfl, -⟩ := List.cons.inj reaches
        exact absurd (List.mem_append_right _ (List.mem_cons_self ..)) apart
  · exact fun begins => begins.trans (List.prefix_append ..)

theorem find?_append_cons (apart : ∀ name ∈ names, separator ∉ name) (line more : Text) :
    (names.find? fun name => name.isPrefixOf (line ++ separator :: more)) =
      names.find? fun name => name.isPrefixOf line := by
  rw [← List.head?_filter, ← List.head?_filter]
  exact congrArg _ (List.filter_congr fun name member =>
    isPrefixOf_append_cons (apart name member))

theorem bounds_separator (free : Text.isIdentChar separator = false) :
    bounds (some separator) = bounds none := by
  simp [bounds, free]

theorem bounds_head?_append_cons (free : Text.isIdentChar separator = false) :
    bounds (t ++ separator :: more).head? = bounds t.head? := by
  cases t with
  | nil => exact bounds_separator free
  | cons c t => rfl

theorem marksFrom_congr {other : Option Char} {alone alone' : Bool}
    (same : bounds before = bounds other) :
    marksFrom names before 0 alone t = marksFrom names other 0 alone' t := by
  cases t with
  | nil => rfl
  | cons c rest =>
    unfold marksFrom
    rw [same]

/-- **A character that no name has separates**: no name reaches over it, and it bounds a name as the
end of the text does. -/
theorem marksFrom_append_cons (solid : ∀ name ∈ names, name ≠ [])
    (apart : ∀ name ∈ names, separator ∉ name) (free : Text.isIdentChar separator = false)
    (alone : Bool) (fits : skip ≤ line.length) :
    marksFrom names before skip alone (line ++ separator :: more) =
      marksFrom names before skip alone line ++ (separator, false) :: marks names more := by
  induction line generalizing before skip alone with
  | nil =>
    obtain rfl : skip = 0 := by simpa using fits
    have unknown : (names.find? fun name => name.isPrefixOf (separator :: more)) = none := by
      refine (find?_append_cons apart [] more).trans (List.find?_eq_none.2 ?_)
      intro name member begins
      exact solid name member (by simpa using begins)
    rw [List.nil_append, marksFrom_of_unknown unknown]
    exact congrArg _ (marksFrom_congr (bounds_separator free))
  | cons c line ih =>
    cases skip with
    | succ skip => exact congrArg _ (ih _ (by simpa using fits))
    | zero =>
      have search := find?_append_cons apart (c :: line) more
      rw [List.cons_append] at search ⊢
      cases known : names.find? fun name => name.isPrefixOf (c :: line) with
      | none =>
        rw [marksFrom_of_unknown known, marksFrom_of_unknown (search.trans known),
          ih false (Nat.zero_le _)]
        rfl
      | some found =>
        obtain ⟨others, behind, rfl, whole⟩ := exists_of_found solid known
        have longer : line ++ separator :: more = others ++ (behind ++ separator :: more) := by
          rw [whole, List.append_assoc]
        rw [marksFrom_of_found known whole, marksFrom_of_found (search.trans known) longer,
          bounds_head?_append_cons free, ih _ (by simp [whole])]
        rfl

theorem marks_append_cons (solid : ∀ name ∈ names, name ≠ [])
    (apart : ∀ name ∈ names, separator ∉ name) (free : Text.isIdentChar separator = false)
    (line more : Text) :
    marks names (line ++ separator :: more) =
      marks names line ++ (separator, false) :: marks names more :=
  marksFrom_append_cons solid apart free false (Nat.zero_le _)

end Separator

/-! ### Whole documents -/

theorem mem_searchOrder : name ∈ searchOrder t ↔ name ∈ Source.declaredNames t := by
  unfold searchOrder
  rw [List.mem_eraseDups, List.mem_mergeSort]

theorem solid_of_mem_searchOrder (member : name ∈ searchOrder t) : name ≠ [] ∧ '\n' ∉ name := by
  obtain ⟨solid, named⟩ := Source.isNameChar_of_mem_declaredNames (mem_searchOrder.1 member)
  exact ⟨solid, fun newline => Source.ne_newline_of_isNameChar (named _ newline) rfl⟩

theorem newline_not_mem_put (plain : '\n' ∉ suffix) (single : '\n' ∉ line) :
    '\n' ∉ put suffix (marks names line) := by
  intro newline
  obtain ⟨⟨c, ends⟩, marked, inside⟩ := List.mem_flatMap.1 newline
  have member : c ∈ line := by
    rw [← map_fst_marks names line]
    exact List.mem_map_of_mem marked
  rcases List.mem_cons.1 inside with rfl | added
  · exact single member
  · cases ends with
    | false => cases added
    | true => exact plain added

theorem put_marks_joinLines (solid : ∀ name ∈ names, name ≠ [] ∧ '\n' ∉ name) (all : List Text) :
    put suffix (marks names (Text.joinLines all)) =
      Text.joinLines (all.map fun line => put suffix (marks names line)) := by
  have nonempty : ∀ name ∈ names, name ≠ [] := fun name member => (solid name member).1
  have single : ∀ name ∈ names, '\n' ∉ name := fun name member => (solid name member).2
  induction all with
  | nil => rfl
  | cons first rest ih =>
    cases rest with
    | nil =>
      rw [List.map_singleton, Text.joinLines_singleton, Text.joinLines_singleton]
    | cons second rest =>
      rw [Text.joinLines_cons_cons, marks_append_cons nonempty single (by decide), Text.put_append,
        Text.put_cons, if_neg (by decide), List.nil_append, ih]
      exact (Text.joinLines_cons_cons ..).symm

/-- **A session's text is its document with suffixes put behind the marked characters.** -/
theorem suffixNames_eq_put (suffix t : Text) :
    suffixNames suffix t = put suffix (marks (searchOrder t) t) :=
  suffixFrom_eq_put (fun _ member => (solid_of_mem_searchOrder member).1) t

/-- **The lines get their suffixes one by one**, so no line comes or goes. -/
theorem lines_suffixNames (plain : '\n' ∉ suffix) (t : Text) :
    Text.lines (suffixNames suffix t) =
      (Text.lines t).map fun line => put suffix (marks (searchOrder t) line) := by
  have joined : suffixNames suffix t =
      Text.joinLines ((Text.lines t).map fun line => put suffix (marks (searchOrder t) line)) := by
    rw [← put_marks_joinLines fun name member => solid_of_mem_searchOrder member,
      Text.joinLines_lines, suffixNames_eq_put]
  rw [joined]
  refine Text.lines_joinLines (by simpa using Text.lines_ne_nil t) fun line member => ?_
  obtain ⟨old, inside, rfl⟩ := List.mem_map.1 member
  exact newline_not_mem_put plain (Text.not_mem_of_mem_lines inside)

/-- **Erasing the suffix gives the document back.** -/
theorem eraseAll_suffixNames {mark : Char} {body : Text} (unmarked : mark ∉ body)
    (absent : ¬ mark :: body <:+: t) :
    Text.eraseAll (mark :: body) (suffixNames (mark :: body) t) = t := by
  rw [suffixNames_eq_put, Text.eraseAll_put unmarked (by rwa [map_fst_marks]), map_fst_marks]

end Renaming
end ProofDesk
