import ProofDesk.Json.Reader
import ProofDesk.Session.Step

/-!
# Scripts

A script is a JSON list of steps. A step is an object whose field `op` names it, or a list with the
name first and the parts behind it.

* `Script.read?` — the steps of a script.
-/

namespace ProofDesk
namespace Script

/-- The parts of a step: named ones, each as often as it is written, or those of a list. -/
inductive Parts
  | named (fields : List (Text × Json))
  | listed (items : List Json)

/-- The part with a name, at its place of a list; `none` when there is none or more than one. -/
def Parts.part? (name : Text) (place : Nat) : Parts → Option Json
  | named fields =>
    match fields.filter fun field => field.1 = name with
    | [field] => some field.2
    | _ => none
  | listed items => items[place]?

/-- A list has exactly `count` parts; named parts may be more. -/
def Parts.hasCount (count : Nat) : Parts → Bool
  | named _ => true
  | listed items => items.length == count

/-- The step with a name and parts. -/
def step? (name : Text) (parts : Parts) : Option Session.Step :=
  if name = "edit".toList ∧ parts.hasCount 2 then do
    let clause ← (← parts.part? "clause" 0).text?
    let text ← (← parts.part? "text" 1).text?
    return .edit clause text
  else if name = "structure".toList ∧ parts.hasCount 1 then do
    let lines ← (← (← parts.part? "lines" 0).items?).mapM Json.text?
    return .addOutline lines
  else if name = "panel".toList ∧ parts.hasCount 0 then some .panel
  else if name = "suggest".toList ∧ parts.hasCount 0 then some .suggestions
  else none

/-- The step of a tree inside the list of a script. -/
def stepOf? : Raw → Option Session.Step
  | .object fields => do
    let fields ← Raw.fieldsToJson? (Json.maxDepth - 2) fields
    let name ← (← (Parts.named fields).part? "op" 0).text?
    step? name (.named (fields.filter fun field => field.1 ≠ "op".toList))
  | .list items => do
    match ← Raw.itemsToJson? (Json.maxDepth - 2) items with
    | .text name :: rest => step? name (.listed rest)
    | _ => none
  | _ => none

/-- The steps of a script. -/
def read? (script : Text) : Option (List Session.Step) := do
  match ← Raw.read? script with
  | .list steps => steps.mapM stepOf?
  | _ => none

end Script
end ProofDesk
