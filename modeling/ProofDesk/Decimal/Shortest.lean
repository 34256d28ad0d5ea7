import ProofDesk.Text.Numeral

/-!
# Shortest decimals of binary floating-point numbers

A finite double is an interval of reals around it that all round to it. Its shortest decimal has
the fewest digits of all decimals in that interval, and is the nearest of those.

* `Binary64` — a finite double as sign, integer significand and power of two.
* `Binary64.shortest` — digits and the power of ten of the last one.
* `Binary64.text` — the decimal written out: positional where the point falls within sixteen
  digits or at most five places before them, and with an exponent elsewhere.
-/

namespace ProofDesk

/-- The finite number ± `significand` · 2 ^ `exponent`. -/
structure Binary64 where
  negative : Bool
  significand : Nat
  exponent : Int
  /-- The number below is half as far away as the number above. -/
  narrowBelow : Bool
  deriving DecidableEq, Repr

namespace Binary64

/-- Reads the bits of a double; infinities and what is not a number have none. -/
def ofBits? (bits : UInt64) : Option Binary64 :=
  let unit : Nat := Nat.pow 2 52
  let biased : Nat := bits.toNat / unit % 2048
  let fraction : Nat := bits.toNat % unit
  let negative := bits.toNat / unit / 2048 == 1
  if biased = 2047 then none
  else if biased = 0 then some ⟨negative, fraction, -1074, false⟩
  else some ⟨negative, fraction + unit, Int.ofNat biased - 1075, fraction == 0 && biased != 1⟩

/-- Four times the significand over a power of two, as a fraction. -/
def quarters (x : Binary64) (n : Nat) : Nat × Nat :=
  if 2 ≤ x.exponent then (n * Nat.pow 2 (x.exponent - 2).toNat, 1)
  else (n, Nat.pow 2 (2 - x.exponent).toNat)

/-- The decimal `digits` · 10 ^ `exponent` rounds to the number. -/
def admits (x : Binary64) (digits : Nat) (exponent : Int) : Bool :=
  let (low, den) := x.quarters (4 * x.significand - if x.narrowBelow then 1 else 2)
  let (high, _) := x.quarters (4 * x.significand + 2)
  let value := digits * Nat.pow 10 exponent.toNat * den
  let scale := Nat.pow 10 (-exponent).toNat
  if x.significand % 2 = 0 then low * scale ≤ value && value ≤ high * scale
  else low * scale < value && value < high * scale

/-- The number of digits before the decimal point of `num / den`, or minus the number of zeros
behind it. -/
def magnitude (num den : Nat) : Int :=
  if den ≤ num then ((Nat.toDigits 10 (num / den)).length : Int)
  else
    -(((List.range 400).takeWhile fun zeros => num * Nat.pow 10 (zeros + 1) < den).length : Int)

/-- The nearest admitted decimal with a given exponent of ten. -/
def nearest? (x : Binary64) (exponent : Int) : Option Nat :=
  let (num, den) := x.quarters (4 * x.significand)
  let num := num * Nat.pow 10 (-exponent).toNat
  let den := den * Nat.pow 10 exponent.toNat
  let below := num / den
  let twice := 2 * (num % den)
  let upFirst := den < twice || (twice == den && below % 2 == 1)
  let (first, second) := if upFirst then (below + 1, below) else (below, below + 1)
  if x.admits first exponent then some first
  else if x.admits second exponent then some second
  else none

/-- The digits of the shortest decimal of a positive number, and the exponent of ten of the last
one. Seventeen digits always suffice. -/
def shortest (x : Binary64) : Nat × Int :=
  let (num, den) := x.quarters (4 * x.significand)
  let top := magnitude num den
  ((List.range 18).findSome? fun (count : Nat) =>
    (x.nearest? (top - count)).bind fun digits =>
      if digits = 0 then none else some (digits, top - count)).getD (0, 0)

/-- The largest number of digits before the point in positional notation. -/
def positionalDigits : Int := 16

/-- One more than the largest number of zeros between the point and the first digit in positional
notation. -/
def positionalZeros : Int := 5

/-- A positive decimal written out. -/
def layOut (digits : Nat) (exponent : Int) : Text :=
  let shown := Text.decimal digits
  let point := (shown.length : Int) + exponent
  if 0 ≤ exponent ∧ point ≤ positionalDigits then
    shown ++ List.replicate exponent.toNat '0' ++ ['.', '0']
  else if 0 < point ∧ point ≤ positionalDigits then
    shown.take point.toNat ++ '.' :: shown.drop point.toNat
  else if -positionalZeros < point ∧ point ≤ 0 then
    '0' :: '.' :: List.replicate (-point).toNat '0' ++ shown
  else
    shown.take 1 ++ (if shown.length = 1 then [] else '.' :: shown.drop 1) ++
      'e' :: Text.integer (point - 1)

/-- The shortest decimal written out; whole numbers keep a zero behind the point. -/
def text (x : Binary64) : Text :=
  (if x.negative then ['-'] else []) ++
    if x.significand = 0 then ['0', '.', '0']
    else
      let (digits, exponent) := x.shortest
      -- a decimal that ends in zeros is the same decimal without them
      let zeros := ((Text.decimal digits).reverse.takeWhile (· == '0')).length
      layOut (digits / Nat.pow 10 zeros) (exponent + zeros)

end Binary64
end ProofDesk
