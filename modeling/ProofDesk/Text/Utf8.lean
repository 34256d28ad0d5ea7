import ProofDesk.Text.Basic

/-!
# Reading UTF-8

* `Utf8.next` — the character at the beginning of a sequence of bytes.
* `Utf8.decode?` — the text of bytes that are valid UTF-8.
* `Utf8.decodeLossy` — the text of any bytes; every longest part that could begin a character and
  does not complete one gives a replacement character.
-/

namespace ProofDesk
namespace Utf8

/-- The number of continuation bytes after a first byte, and the bounds of the first of them. -/
def shape? (b : UInt8) : Option (Nat × UInt8 × UInt8) :=
  if b < 0x80 then some (0, 0x80, 0xBF)
  else if 0xC2 ≤ b && b ≤ 0xDF then some (1, 0x80, 0xBF)
  else if b = 0xE0 then some (2, 0xA0, 0xBF)
  else if b = 0xED then some (2, 0x80, 0x9F)
  else if 0xE1 ≤ b && b ≤ 0xEF then some (2, 0x80, 0xBF)
  else if b = 0xF0 then some (3, 0x90, 0xBF)
  else if 0xF1 ≤ b && b ≤ 0xF3 then some (3, 0x80, 0xBF)
  else if b = 0xF4 then some (3, 0x80, 0x8F)
  else none

/-- The bits that a first byte contributes, with some continuation bytes to come. -/
def leadBits (b : UInt8) (tails : Nat) : Nat :=
  if tails = 0 then b.toNat else b.toNat % Nat.pow 2 (6 - tails)

/-- Reads continuation bytes: the code point when all are there, and how many were read. -/
def tails : (left : Nat) → (low high : UInt8) → (bits : Nat) → List UInt8 → Option Nat × Nat
  | 0, _, _, bits, _ => (some bits, 0)
  | _ + 1, _, _, _, [] => (none, 0)
  | left + 1, low, high, bits, b :: rest =>
    if low ≤ b && b ≤ high then
      let (point, read) := tails left 0x80 0xBF (bits * 0x40 + b.toNat % 0x40) rest
      (point, read + 1)
    else (none, 0)

/-- Reads on after a first byte: the character, and the number of further bytes that belong to it;
without a character they belong to its beginning. -/
def next (b : UInt8) (rest : List UInt8) : Option Char × Nat :=
  match shape? b with
  | none => (none, 0)
  | some (count, low, high) =>
    let (point, read) := tails count low high (leadBits b count) rest
    (point.map Char.ofNat, read)

/-- The characters of the bytes behind the next `skip` ones, `none` standing for what is no
character. -/
def charsFrom : (skip : Nat) → List UInt8 → List (Option Char)
  | _, [] => []
  | skip + 1, _ :: rest => charsFrom skip rest
  | 0, b :: rest => (next b rest).1 :: charsFrom (next b rest).2 rest

/-- The text of bytes that are valid UTF-8. -/
def decode? (bytes : List UInt8) : Option Text := (charsFrom 0 bytes).mapM id

/-- The character that stands for what is no character. -/
def replacement : Char := '\ufffd'

/-- The text of any bytes. -/
def decodeLossy (bytes : List UInt8) : Text :=
  (charsFrom 0 bytes).map fun found => found.getD replacement

end Utf8
end ProofDesk
