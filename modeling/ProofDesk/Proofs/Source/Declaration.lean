import ProofDesk.Source.Declaration

/-!
# Declared names

* `suffix_of_afterKeyword?` — behind a keyword, a text goes on with its own end.
* `isNameChar_of_nameHere?` — a declared name has a character, and only characters of names.
* `isNameChar_of_mem_declaredNames` — so do all names that a text declares.
-/

namespace ProofDesk
namespace Source

variable {t name behind : Text} {c : Char}

theorem isBlank_eq_false_of_isNameChar (named : isNameChar c = true) : Text.isBlank c = false := by
  unfold isNameChar at named
  simp_all

theorem ne_colon_of_isNameChar (named : isNameChar c = true) : c ≠ ':' := by
  rintro rfl
  exact absurd named (by decide)

theorem ne_newline_of_isNameChar (named : isNameChar c = true) : c ≠ '\n' := by
  rintro rfl
  exact absurd named (by decide)

theorem suffix_of_afterKeyword? (found : afterKeyword? t = some behind) : behind <:+ t := by
  obtain ⟨rest, keyword, found⟩ := Option.bind_eq_some_iff.1 found
  split at found
  · cases found
    have suffix : rest <:+ t := by
      rcases Option.or_eq_some_iff.1 keyword with first | ⟨-, second⟩
      · exact Text.suffix_of_after? first
      · exact Text.suffix_of_after? second
    exact (Text.trimStart_suffix rest).trans suffix
  · cases found

/-- **A declared name is not empty** and has only characters of names. -/
theorem isNameChar_of_nameHere? (found : nameHere? t = some (name, behind)) :
    name ≠ [] ∧ ∀ c ∈ name, isNameChar c = true := by
  obtain ⟨rest, -, found⟩ := Option.bind_eq_some_iff.1 found
  dsimp only at found
  split at found
  · cases found
  · next solid =>
    cases found
    exact ⟨by simpa using solid, List.all_eq_true.1 List.all_takeWhile⟩

theorem isNameChar_of_mem_declaredNamesFrom {before : Option Char} {skip : Nat}
    (member : name ∈ declaredNamesFrom before skip t) :
    name ≠ [] ∧ ∀ c ∈ name, isNameChar c = true := by
  induction t generalizing before skip with
  | nil => cases skip <;> cases member
  | cons c rest ih =>
    cases skip with
    | succ skip => exact ih member
    | zero =>
      unfold declaredNamesFrom at member
      split at member
      · next first behind found =>
        rcases List.mem_cons.1 member with rfl | later
        · split at found
          · cases found
          · exact isNameChar_of_nameHere? found
        · exact ih later
      · exact ih member

theorem isNameChar_of_mem_declaredNames (member : name ∈ declaredNames t) :
    name ≠ [] ∧ ∀ c ∈ name, isNameChar c = true :=
  isNameChar_of_mem_declaredNamesFrom member

end Source
end ProofDesk
