import ProofDesk.Text.Order

/-!
# JSON values

Values as they are sent and received. The fields of an object are kept in the order of their keys,
each key once.

* `Json.record` — the object with given fields; of two fields with one key the last counts.
* `Json.field?` — the value of a key.
-/

namespace ProofDesk

/-- A JSON value. -/
inductive Json where
  | null
  | bool (value : Bool)
  /-- A whole number that is not negative. -/
  | natural (value : Nat)
  /-- The number below zero with this absolute value. -/
  | negative (value : Nat)
  /-- The double with these bits. -/
  | real (bits : UInt64)
  | text (value : Text)
  | list (items : List Json)
  /-- An object, its fields in the order of their keys. -/
  | object (fields : List (Text × Json))
  deriving Inhabited

namespace Json

/-- The fields with one more, in the place of a field with the same key. -/
def insertField (key : Text) (value : Json) : List (Text × Json) → List (Text × Json)
  | [] => [(key, value)]
  | (other, old) :: rest =>
    if Text.precedes key other then (key, value) :: (other, old) :: rest
    else if key = other then (key, value) :: rest
    else (other, old) :: insertField key value rest

/-- The object with given fields; of two fields with one key the last counts. -/
def record (fields : List (Text × Json)) : Json :=
  .object (fields.foldl (fun sorted field => insertField field.1 field.2 sorted) [])

/-- The value of a key of an object. -/
def field? (key : Text) : Json → Option Json
  | .object fields => (fields.find? fun field => field.1 = key).map Prod.snd
  | _ => none

/-- The double as a value; infinities and what is not a number are null. -/
def ofFloat (value : Float) : Json := if value.isFinite then .real value.toBits else .null

/-- The items of a list. -/
def items? : Json → Option (List Json)
  | .list items => some items
  | _ => none

/-- The characters of a text. -/
def text? : Json → Option Text
  | .text value => some value
  | _ => none

/-- A truth value. -/
def bool? : Json → Option Bool
  | .bool value => some value
  | _ => none

/-- A whole number that is not negative. -/
def natural? : Json → Option Nat
  | .natural value => some value
  | _ => none

end Json

/-- Values that have a JSON form. -/
class ToJson (α : Type) where
  toJson : α → Json

export ToJson (toJson)

instance : ToJson Json := ⟨id⟩
instance : ToJson Bool := ⟨.bool⟩
instance : ToJson Nat := ⟨.natural⟩
instance : ToJson Text := ⟨.text⟩

instance : ToJson Int where
  toJson
    | .ofNat n => .natural n
    | .negSucc n => .negative (n + 1)

/-- An absent value is null. -/
instance {α : Type} [ToJson α] : ToJson (Option α) where
  toJson
    | some value => toJson value
    | none => .null

instance (priority := low) {α : Type} [ToJson α] : ToJson (List α) where
  toJson values := .list (values.map toJson)

end ProofDesk
