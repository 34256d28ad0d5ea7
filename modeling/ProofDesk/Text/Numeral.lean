import ProofDesk.Text.Basic

/-!
# Numerals

Decimal digits of natural numbers and integers, and the reading of 64-bit words.

* `decimal` and `integer` — the digits, without leading zeros, a minus sign in front of a negative
  number. `decimal_inj` tells numbers apart by their digits.
* `number?` — a number written in ASCII digits; `number?_decimal` reads every number back.
* `word?` — a number below 2^64, with at most one plus sign in front of its digits.
-/

namespace ProofDesk
namespace Text

/-- The decimal digits of a number. -/
def decimal (n : Nat) : Text := Nat.toDigits 10 n

/-- The decimal digits of an integer, after a minus sign when it is negative. -/
def integer : Int → Text
  | .ofNat n => decimal n
  | .negSucc n => '-' :: decimal (n + 1)

/-- A number written with one or more ASCII digits. -/
def number? (t : Text) : Option Nat :=
  if !t.isEmpty && t.all Char.isDigit then some (Nat.ofDigitChars 10 t 0) else none

/-- The largest number of a 64-bit word, 2^64 - 1. -/
def maxWord : Nat := 18446744073709551615

/-- A 64-bit word: one or more ASCII digits, at most one plus sign in front. -/
def word? (t : Text) : Option Nat :=
  (number? ((after? ['+'] t).getD t)).filter (· ≤ maxWord)

/-! ### Reading digits back -/

theorem ofDigitChars_decimal (n : Nat) : Nat.ofDigitChars 10 (decimal n) 0 = n :=
  Nat.ofDigitChars_ten_toDigits

theorem decimal_inj {m n : Nat} (same : decimal m = decimal n) : m = n := by
  rw [← ofDigitChars_decimal m, same, ofDigitChars_decimal]

theorem decimal_ne_nil (n : Nat) : decimal n ≠ [] := Nat.toDigits_ne_nil

theorem isDigit_of_mem_decimal {n : Nat} {c : Char} (member : c ∈ decimal n) :
    c.isDigit = true :=
  Nat.isDigit_of_mem_toDigits (by decide) (by decide) member

@[simp] theorem number?_decimal (n : Nat) : number? (decimal n) = some n := by
  have digits : (decimal n).all Char.isDigit = true :=
    List.all_eq_true.2 fun c member => isDigit_of_mem_decimal member
  simp [number?, digits, decimal_ne_nil, ofDigitChars_decimal]

theorem word?_decimal {n : Nat} (small : n ≤ maxWord) : word? (decimal n) = some n := by
  have unsigned : after? ['+'] (decimal n) = none := by
    cases digits : decimal n with
    | nil => rfl
    | cons c rest =>
      have digit : c.isDigit = true := isDigit_of_mem_decimal (n := n) (by simp [digits])
      have other : ('+' == c) = false := by
        rw [beq_eq_false_iff_ne]
        rintro rfl
        exact absurd digit (by decide)
      simp [after?, List.isPrefixOf, other]
  simp [word?, unsigned, small]

end Text
end ProofDesk
