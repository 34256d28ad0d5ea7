import ProofDesk.Json.Basic
import ProofDesk.Decimal.Scaled

/-!
# Reading JSON

Reading goes in two steps. `Raw.read?` finds the structure of a text and leaves numerals and
strings as they are written; `Raw.toJson?` gives them their values. A reader that skips a part of a
text takes only the first step there.

* `Raw` — a text as a tree.
* `Json.unquote?` — the characters that a string stands for.
* `Json.numeral?` — the value of a numeral.
* `Json.read?` — the value of a text; at most 127 lists and objects lie in each other.
-/

namespace ProofDesk

/-- The structure of a JSON text; numerals and strings stay as they are written. -/
inductive Raw where
  | null
  | bool (value : Bool)
  | numeral (written : Text)
  | string (written : Text)
  | list (items : List Raw)
  | object (fields : List (Text × Raw))
  deriving Inhabited

namespace Json

/-! ### Strings -/

/-- The value of a hexadecimal digit. -/
def hexValue? (c : Char) : Option Nat :=
  if '0' ≤ c ∧ c ≤ '9' then some (c.toNat - '0'.toNat)
  else if 'a' ≤ c ∧ c ≤ 'f' then some (c.toNat - 'a'.toNat + 10)
  else if 'A' ≤ c ∧ c ≤ 'F' then some (c.toNat - 'A'.toNat + 10)
  else none

/-- The value of four hexadecimal digits. -/
def hexWord? (a b c d : Char) : Option Nat := do
  return (((← hexValue? a) * 16 + (← hexValue? b)) * 16 + (← hexValue? c)) * 16 + (← hexValue? d)

/-- The character of an escape with one letter. -/
def escaped? : Char → Option Char
  | '"' => some '"'
  | '\\' => some '\\'
  | '/' => some '/'
  | 'b' => some '\x08'
  | 'f' => some '\x0c'
  | 'n' => some '\n'
  | 'r' => some '\r'
  | 't' => some '\t'
  | _ => none

/-- Puts characters in front of the first of two texts. -/
def inFront (front : Text) (sides : Text × Text) : Text × Text := (front ++ sides.1, sides.2)

/-- What is written in a string up to its closing quote, and the text behind the quote. Escapes
have their form; control characters are refused. -/
def string? : Text → Option (Text × Text)
  | [] => none
  | '"' :: rest => some ([], rest)
  | '\\' :: 'u' :: a :: b :: c :: d :: rest => do
    let _ ← hexWord? a b c d
    return inFront ['\\', 'u', a, b, c, d] (← string? rest)
  | '\\' :: c :: rest => do
    let _ ← escaped? c
    return inFront ['\\', c] (← string? rest)
  | c :: rest => if c.toNat < 0x20 ∨ c = '\\' then none else (string? rest).map (inFront [c])

/-- The characters that a string stands for; surrogates stand for a character in pairs only. -/
def unquote? : Text → Option Text
  | [] => some []
  | '\\' :: 'u' :: a :: b :: c :: d :: rest => do
    let high ← hexWord? a b c d
    if 0xDC00 ≤ high ∧ high ≤ 0xDFFF then none
    else if 0xD800 ≤ high ∧ high ≤ 0xDBFF then
      match rest with
      | '\\' :: 'u' :: a :: b :: c :: d :: rest => do
        let low ← hexWord? a b c d
        if 0xDC00 ≤ low ∧ low ≤ 0xDFFF then
          let point := 0x10000 + (high - 0xD800) * 0x400 + (low - 0xDC00)
          return Char.ofNat point :: (← unquote? rest)
        else none
      | _ => none
    else return Char.ofNat high :: (← unquote? rest)
  | '\\' :: c :: rest => do return (← escaped? c) :: (← unquote? rest)
  | c :: rest => (unquote? rest).map (c :: ·)

/-! ### Numerals -/

/-- The digits at the beginning of a text, of which there must be one, and what follows. -/
def digits? (t : Text) : Option (Text × Text) :=
  let digits := t.takeWhile Char.isDigit
  if digits.isEmpty then none else some (digits, t.dropWhile Char.isDigit)

/-- The digits before the point: a zero alone, or digits that begin with another one. -/
def wholePart? (t : Text) : Option (Text × Text) :=
  match t with
  | '0' :: rest => if rest.head?.any Char.isDigit then none else some (['0'], rest)
  | t => digits? t

/-- The point and the digits behind it, if there is a point. -/
def fractionPart? : Text → Option (Text × Text)
  | '.' :: rest => (digits? rest).map (inFront ['.'])
  | t => some ([], t)

/-- The sign at the beginning of an exponent. -/
def exponentSign : Text → Text × Text
  | '+' :: rest => (['+'], rest)
  | '-' :: rest => (['-'], rest)
  | t => ([], t)

/-- The exponent, if there is one. -/
def exponentPart? : Text → Option (Text × Text)
  | [] => some ([], [])
  | c :: rest =>
    if c = 'e' ∨ c = 'E' then
      let (sign, rest) := exponentSign rest
      (digits? rest).map (inFront (c :: sign))
    else some ([], c :: rest)

/-- The numeral at the beginning of a text, as it is written. -/
def numeralText? (t : Text) : Option (Text × Text) := do
  let (sign, t) := match t with
    | '-' :: rest => (['-'], rest)
    | t => ([], t)
  let (whole, t) ← wholePart? t
  let (fraction, t) ← fractionPart? t
  let (exponent, t) ← exponentPart? t
  return (sign ++ whole ++ fraction ++ exponent, t)

/-- The digits taken into a 64-bit significand up to the first one that does not fit: the
significand, and the digits left out. -/
def significand (high : Nat) : Text → Nat × Text
  | [] => (high, [])
  | c :: rest =>
    let more := 10 * high + (c.toNat - '0'.toNat)
    if more ≤ Text.maxWord then significand more rest else (high, c :: rest)

/-- The largest exponent that is told apart. -/
def largestExponent : Nat := 2147483647

/-- The double of a numeral, below zero or not: `whole` digits before the point, `fraction` digits
behind it, and an exponent. A digit that does not fit into the significand is dropped with those
that follow it in its part. -/
def real? (below : Bool) (whole fraction : Text) (exponent : Option (Bool × Nat)) :
    Option Json := do
  let (high, dropped) := significand 0 whole
  let (all, left) := significand high fraction
  let point : Int := (dropped.length : Int) - (fraction.length - left.length : Nat)
  let sign : Float → Json := fun value => .real (if below then -value else value).toBits
  match exponent with
  | none => return sign (← Decimal.scale? all point)
  | some (isNegative, size) =>
    if largestExponent < size then
      if all != 0 && !isNegative then none else return sign 0.0
    else return sign (← Decimal.scale? all (if isNegative then point - size else point + size))

/-- The value of a numeral. Whole numbers stay whole as far as 64 bits go; all others are
doubles, and those beyond the largest double have no value. -/
def numeral? (written : Text) : Option Json := do
  let (below, t) := match written with
    | '-' :: rest => (true, rest)
    | t => (false, t)
  let (whole, t) ← wholePart? t
  let (fraction, t) ← fractionPart? t
  let exponent ← match t with
    | [] => pure none
    | _ :: t => do
      let (sign, t) := exponentSign t
      let (digits, _) ← digits? t
      pure (some (sign == ['-'], Nat.ofDigitChars 10 digits 0))
  let value := Nat.ofDigitChars 10 whole 0
  if fraction.isEmpty ∧ exponent.isNone ∧ value ≤ Text.maxWord then
    if !below then return .natural value
    else if value = 0 ∨ 9223372036854775808 < value then
      return .real (-(UInt64.ofNat value).toFloat).toBits
    else return .negative value
  else real? below whole (fraction.drop 1) exponent

end Json

namespace Raw

/-- A blank of JSON texts. -/
def isBlank (c : Char) : Bool := c == ' ' || c == '\n' || c == '\t' || c == '\r'

/-- The text without the blanks in front. -/
def skipBlanks (t : Text) : Text := t.dropWhile isBlank

mutual

/-- The tree of the value at the beginning of a text without blanks in front, and what follows. -/
def value? : (fuel : Nat) → Text → Option (Raw × Text)
  | 0, _ => none
  | fuel + 1, t =>
    match t with
    | '\x7b' :: rest =>
      match skipBlanks rest with
      | '\x7d' :: rest => some (.object [], rest)
      | rest => (fields? fuel rest).map fun (fields, rest) => (.object fields, rest)
    | '[' :: rest =>
      match skipBlanks rest with
      | ']' :: rest => some (.list [], rest)
      | rest => (items? fuel rest).map fun (items, rest) => (.list items, rest)
    | '"' :: rest => (Json.string? rest).map fun (written, rest) => (.string written, rest)
    | t =>
      match Text.after? "null" t, Text.after? "true" t, Text.after? "false" t with
      | some rest, _, _ => some (.null, rest)
      | _, some rest, _ => some (.bool true, rest)
      | _, _, some rest => some (.bool false, rest)
      | none, none, none =>
        (Json.numeralText? t).map fun (written, rest) => (.numeral written, rest)

/-- The items of a list up to its closing bracket, and what follows. -/
def items? : (fuel : Nat) → Text → Option (List Raw × Text)
  | 0, _ => none
  | fuel + 1, t => do
    let (item, rest) ← value? fuel t
    match skipBlanks rest with
    | ']' :: rest => return ([item], rest)
    | ',' :: rest =>
      let (items, rest) ← items? fuel (skipBlanks rest)
      return (item :: items, rest)
    | _ => none

/-- The fields of an object up to its closing brace, and what follows. -/
def fields? : (fuel : Nat) → Text → Option (List (Text × Raw) × Text)
  | 0, _ => none
  | fuel + 1, t => do
    let (key, rest) ← Json.string? (← Text.after? ['"'] t)
    let rest ← Text.after? [':'] (skipBlanks rest)
    let (value, rest) ← value? fuel (skipBlanks rest)
    match skipBlanks rest with
    | '\x7d' :: rest => return ([(key, value)], rest)
    | ',' :: rest =>
      let (fields, rest) ← fields? fuel (skipBlanks rest)
      return ((key, value) :: fields, rest)
    | _ => none

end

/-- The tree of a text. Every nested call reads on in the text or goes one level into it, so twice
the length is more than enough for all of them. -/
def read? (t : Text) : Option Raw := do
  let (raw, rest) ← value? (2 * t.length + 2) (skipBlanks t)
  if (skipBlanks rest).isEmpty then some raw else none

mutual

/-- The value of a tree, in which at most `depth` lists and objects lie in each other. -/
def toJson? (depth : Nat) : Raw → Option Json
  | .null => some .null
  | .bool value => some (.bool value)
  | .numeral written => Json.numeral? written
  | .string written => (Json.unquote? written).map .text
  | .list items => match depth with
    | 0 => none
    | depth + 1 => (itemsToJson? depth items).map .list
  | .object fields => match depth with
    | 0 => none
    | depth + 1 => (fieldsToJson? depth fields).map Json.record

/-- The values of trees. -/
def itemsToJson? (depth : Nat) : List Raw → Option (List Json)
  | [] => some []
  | item :: rest => do return (← toJson? depth item) :: (← itemsToJson? depth rest)

/-- The values of fields. -/
def fieldsToJson? (depth : Nat) : List (Text × Raw) → Option (List (Text × Json))
  | [] => some []
  | (key, value) :: rest => do
    return (← Json.unquote? key, ← toJson? depth value) :: (← fieldsToJson? depth rest)

end

end Raw

namespace Json

/-- The number of lists and objects that may lie in each other. -/
def maxDepth : Nat := 127

/-- The value of a text. -/
def read? (t : Text) : Option Json := do (← Raw.read? t).toJson? maxDepth

end Json
end ProofDesk
