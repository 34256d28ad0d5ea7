import ProofDesk.Json.Basic
import ProofDesk.Decimal.Shortest

/-!
# Writing JSON

* `Json.quote` — a text as a JSON string; only quotes, backslashes and control characters are
  escaped.
* `Json.compact` — a value without blanks.
* `Json.pretty` — a value over several lines, two columns further in for every level.
-/

namespace ProofDesk
namespace Json

/-- A hexadecimal digit, in lower case. -/
def hexDigit (n : Nat) : Char := Nat.digitChar (n % 16)

/-- A character as it stands in a JSON string. -/
def quoteChar (c : Char) : Text :=
  if c = '"' then ['\\', '"']
  else if c = '\\' then ['\\', '\\']
  else if c = '\x08' then ['\\', 'b']
  else if c = '\t' then ['\\', 't']
  else if c = '\n' then ['\\', 'n']
  else if c = '\x0c' then ['\\', 'f']
  else if c = '\r' then ['\\', 'r']
  else if c.toNat < 0x20 then
    ['\\', 'u', '0', '0', hexDigit (c.toNat / 16), hexDigit c.toNat]
  else [c]

/-- A text as a JSON string. -/
def quote (t : Text) : Text := '"' :: t.flatMap quoteChar ++ ['"']

/-- A double in shortest form. -/
def realText (bits : UInt64) : Text :=
  match Binary64.ofBits? bits with
  | some value => value.text
  | none => "null"

mutual

/-- A value without blanks. -/
def compact : Json → Text
  | .null => "null"
  | .bool true => "true"
  | .bool false => "false"
  | .natural n => Text.decimal n
  | .negative n => '-' :: Text.decimal n
  | .real bits => realText bits
  | .text t => quote t
  | .list items => '[' :: compactItems items ++ [']']
  | .object fields => '\x7b' :: compactFields fields ++ ['\x7d']

/-- Items without blanks. -/
def compactItems : List Json → Text
  | [] => []
  | [item] => compact item
  | item :: rest => compact item ++ ',' :: compactItems rest

/-- Fields without blanks. -/
def compactFields : List (Text × Json) → Text
  | [] => []
  | [(key, value)] => quote key ++ ':' :: compact value
  | (key, value) :: rest => quote key ++ ':' :: compact value ++ ',' :: compactFields rest

end

/-- A new line at a level. -/
def newLine (level : Nat) : Text := '\n' :: List.replicate (2 * level) ' '

mutual

/-- A value over several lines, at a level. -/
def prettyAt (level : Nat) : Json → Text
  | .list [] => ['[', ']']
  | .list items => '[' :: prettyItems (level + 1) items ++ newLine level ++ [']']
  | .object [] => ['\x7b', '\x7d']
  | .object fields => '\x7b' :: prettyFields (level + 1) fields ++ newLine level ++ ['\x7d']
  | scalar => compact scalar

/-- Items on lines of their own, at a level. -/
def prettyItems (level : Nat) : List Json → Text
  | [] => []
  | [item] => newLine level ++ prettyAt level item
  | item :: rest => newLine level ++ prettyAt level item ++ ',' :: prettyItems level rest

/-- Fields on lines of their own, at a level. -/
def prettyFields (level : Nat) : List (Text × Json) → Text
  | [] => []
  | [(key, value)] => newLine level ++ quote key ++ ':' :: ' ' :: prettyAt level value
  | (key, value) :: rest =>
    newLine level ++ quote key ++ ':' :: ' ' :: prettyAt level value ++
      ',' :: prettyFields level rest

end

/-- A value over several lines. -/
def pretty (value : Json) : Text := prettyAt 0 value

end Json
end ProofDesk
