import ProofDesk.Text.Blank
import ProofDesk.Text.Numeral

/-!
# Arguments of a command

Arguments are flags and the values behind them. A word behind a flag is its value whatever it looks
like.

* `Arguments.value?` — the value of the first such flag.
* `Arguments.values` — the values of all such flags, a value never counting as a flag.
* `Arguments.has` — the flag occurs.
-/

namespace ProofDesk

/-- The words behind the name of a command. -/
abbrev Arguments : Type := List Text

namespace Arguments

/-- The word behind the first occurrence of a flag. -/
def value? (flag : Text) : Arguments → Option Text
  | [] => none
  | word :: rest => if word = flag then rest.head? else value? flag rest

/-- The words behind the occurrences of a flag. -/
def values (flag : Text) : Arguments → List Text
  | [] => []
  | [_] => []
  | word :: next :: rest =>
    if word = flag then next :: values flag rest else values flag (next :: rest)

/-- The flag occurs among the words. -/
def has (flag : Text) (arguments : Arguments) : Bool := arguments.contains flag

/-- The value of a flag as a number below 2^64. -/
def number? (flag : Text) (arguments : Arguments) : Option Nat :=
  (value? flag arguments).bind fun value => Text.word? (Text.trim value)

end Arguments
end ProofDesk
