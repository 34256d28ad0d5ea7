import ProofDesk.Text.Basic

/-!
# The order of texts

Texts are ordered by their characters, and characters by their code points, which is the order of
the bytes of their UTF-8 forms as well.

* `precedes` — one text comes before another. `precedes_irrefl`, `precedes_trans` and
  `eq_or_precedes` make it a linear order.
-/

namespace ProofDesk
namespace Text

/-- The first text comes before the second. -/
def precedes : Text → Text → Bool
  | _, [] => false
  | [], _ :: _ => true
  | a :: s, b :: t => a.toNat < b.toNat || (a == b && precedes s t)

theorem precedes_cons {a b : Char} {s t : Text} :
    precedes (a :: s) (b :: t) = true ↔ a.toNat < b.toNat ∨ a = b ∧ precedes s t = true := by
  simp [precedes]

theorem precedes_irrefl (t : Text) : precedes t t = false := by
  induction t with
  | nil => rfl
  | cons c t ih => simp [precedes, ih]

theorem precedes_trans {s t u : Text} (first : precedes s t = true)
    (second : precedes t u = true) : precedes s u = true := by
  induction s generalizing t u with
  | nil =>
    cases t with
    | nil => exact second
    | cons b t => cases u <;> simp_all [precedes]
  | cons a s ih =>
    cases t with
    | nil => simp [precedes] at first
    | cons b t =>
      cases u with
      | nil => simp [precedes] at second
      | cons c u =>
        rw [precedes_cons] at first second ⊢
        rcases first with first | ⟨rfl, first⟩
        · rcases second with second | ⟨rfl, -⟩
          · exact .inl (Nat.lt_trans first second)
          · exact .inl first
        · rcases second with second | ⟨rfl, second⟩
          · exact .inl second
          · exact .inr ⟨rfl, ih first second⟩

theorem precedes_asymm {s t : Text} (first : precedes s t = true) : precedes t s = false := by
  cases second : precedes t s with
  | false => rfl
  | true =>
    have cycle := precedes_trans first second
    rw [precedes_irrefl] at cycle
    cases cycle

/-- Of two texts that differ, one comes before the other. -/
theorem eq_or_precedes (s t : Text) : s = t ∨ precedes s t = true ∨ precedes t s = true := by
  induction s generalizing t with
  | nil => cases t <;> simp [precedes]
  | cons a s ih =>
    cases t with
    | nil => simp [precedes]
    | cons b t =>
      simp only [precedes_cons, List.cons.injEq]
      rcases Nat.lt_trichotomy a.toNat b.toNat with less | same | more
      · exact .inr (.inl (.inl less))
      · have same : a = b := Char.toNat_inj.1 same
        subst same
        rcases ih t with rfl | less | more
        · exact .inl ⟨rfl, rfl⟩
        · exact .inr (.inl (.inr ⟨rfl, less⟩))
        · exact .inr (.inr (.inr ⟨rfl, more⟩))
      · exact .inr (.inr (.inl more))

end Text
end ProofDesk
