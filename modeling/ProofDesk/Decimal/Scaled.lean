import ProofDesk.Text.Numeral

/-!
# Doubles from decimal notation

A numeral with a fraction or an exponent is read as a 64-bit significand, digits that do not fit
being dropped, which is then multiplied or divided by a power of ten in floating point.

* `scale?` — the significand times a power of ten, unless that is infinite.
-/

namespace ProofDesk
namespace Decimal

/-- The largest power of ten of a double. -/
def largestPower : Nat := 308

/-- A power of ten as a double. -/
def powerOfTen (n : Nat) : Float := Float.ofScientific 1 false n

/-- `value` · 10 ^ `exponent`, in at most `steps` divisions beyond the largest power; `none` when
it is too large for a double. -/
def scaleBy? (steps : Nat) (value : Float) (exponent : Int) : Option Float :=
  if exponent.natAbs ≤ largestPower then
    if 0 ≤ exponent then
      let scaled := value * powerOfTen exponent.natAbs
      if scaled.isInf then none else some scaled
    else some (value / powerOfTen exponent.natAbs)
  else if value == 0.0 then some value
  else if 0 ≤ exponent then none
  else match steps with
    | 0 => some 0.0
    | steps + 1 => scaleBy? steps (value / powerOfTen largestPower) (exponent + largestPower)

/-- The significand times a power of ten; after four divisions every significand is zero. -/
def scale? (significand : Nat) (exponent : Int) : Option Float :=
  scaleBy? 4 (UInt64.ofNat significand).toFloat exponent

end Decimal
end ProofDesk
