import ProofDesk.Text.Basic

/-!
# Finding and replacing inside a text

* `breakOn?` — the sides of the first occurrence of a pattern; `breakOn?_eq_some` gives the text
  back and says that no occurrence starts earlier.
* `contains` — whether there is one; `contains_iff` ties it to `<:+:`.
* `replaceAll` — every occurrence replaced, read from left to right without overlaps.
-/

namespace ProofDesk
namespace Text

/-- The text before and after the first occurrence of `pattern`. -/
def breakOn? (pattern : Text) : Text → Option (Text × Text)
  | [] => if pattern.isEmpty then some ([], []) else none
  | c :: rest =>
    match after? pattern (c :: rest) with
    | some behind => some ([], behind)
    | none => (breakOn? pattern rest).map fun sides => (c :: sides.1, sides.2)

/-- The pattern occurs in the text. -/
def contains (pattern t : Text) : Bool := (breakOn? pattern t).isSome

theorem eq_of_breakOn? {pattern t before behind : Text}
    (found : breakOn? pattern t = some (before, behind)) : t = before ++ pattern ++ behind := by
  induction t generalizing before with
  | nil =>
    simp only [breakOn?, List.isEmpty_iff] at found
    split at found
    · next empty => simp_all
    · simp at found
  | cons c rest ih =>
    simp only [breakOn?] at found
    split at found
    · next hit =>
      simp only [Option.some.injEq, Prod.mk.injEq] at found
      obtain ⟨rfl, rfl⟩ := found
      simpa using after?_eq_some.1 hit
    · obtain ⟨⟨before', behind'⟩, deeper, same⟩ := Option.map_eq_some_iff.1 found
      simp only [Prod.mk.injEq] at same
      obtain ⟨rfl, rfl⟩ := same
      simpa using ih deeper

/-- The occurrence that `breakOn?` finds is the first one. -/
theorem length_le_of_breakOn? {pattern t before behind front tail : Text}
    (found : breakOn? pattern t = some (before, behind)) (occurs : t = front ++ pattern ++ tail) :
    before.length ≤ front.length := by
  induction t generalizing before front with
  | nil =>
    obtain ⟨rfl, -⟩ : before = [] ∧ _ := by simpa using (eq_of_breakOn? found).symm
    exact Nat.zero_le _
  | cons c rest ih =>
    simp only [breakOn?] at found
    split at found
    · simp only [Option.some.injEq, Prod.mk.injEq] at found
      simp [← found.1]
    · next miss =>
      obtain ⟨⟨before', behind'⟩, deeper, same⟩ := Option.map_eq_some_iff.1 found
      simp only [Prod.mk.injEq] at same
      obtain ⟨rfl, rfl⟩ := same
      cases front with
      | nil => exact absurd (after?_eq_some.2 (by simpa using occurs)) (by simp [miss])
      | cons d front =>
        simp only [List.cons_append, List.cons.injEq] at occurs
        exact Nat.succ_le_succ (ih deeper occurs.2)

theorem breakOn?_isSome {pattern before behind : Text} :
    (breakOn? pattern (before ++ pattern ++ behind)).isSome = true := by
  induction before with
  | nil =>
    cases h : pattern ++ behind with
    | nil => simp_all [breakOn?]
    | cons c rest =>
      have hit : after? pattern (c :: rest) = some behind := after?_eq_some.2 h.symm
      simp [h, breakOn?, hit]
  | cons c before ih =>
    simp only [List.cons_append, breakOn?]
    split
    · simp
    · simpa using ih

/-- A text contains a pattern when the pattern is a contiguous part of it. -/
theorem contains_iff {pattern t : Text} : contains pattern t = true ↔ pattern <:+: t := by
  constructor
  · intro found
    obtain ⟨⟨before, behind⟩, found⟩ := Option.isSome_iff_exists.1 found
    exact ⟨before, behind, (eq_of_breakOn? found).symm⟩
  · rintro ⟨before, behind, rfl⟩
    exact breakOn?_isSome

/-- `replaceFrom pattern new skip t` passes over the `skip` characters of an occurrence that has
been replaced already, and then replaces the occurrences that begin in the rest. -/
def replaceFrom (pattern new : Text) : Nat → Text → Text
  | _, [] => []
  | skip + 1, _ :: rest => replaceFrom pattern new skip rest
  | 0, c :: rest =>
    if pattern.isPrefixOf (c :: rest) then
      new ++ replaceFrom pattern new (pattern.length - 1) rest
    else c :: replaceFrom pattern new 0 rest

/-- Every occurrence of a pattern replaced, from left to right, without overlaps. -/
def replaceAll (pattern new t : Text) : Text := replaceFrom pattern new 0 t

/-- Every occurrence of a pattern taken out. -/
def eraseAll (pattern t : Text) : Text := replaceAll pattern [] t

end Text
end ProofDesk
