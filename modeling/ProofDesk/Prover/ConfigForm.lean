import ProofDesk.Json.Basic
import ProofDesk.Prover.Config

/-!
# Prover settings as JSON

Settings are given as an object, in which every part may be missing, or as a list of parts in their
order, in which parts at the end may be missing. What is missing keeps its standard value.

* `Prover.Config.ofJson?` — the settings of a value.
-/

namespace ProofDesk
namespace Prover
namespace Config

/-- The parts of the settings, in the order of a list. -/
def partNames : List Text :=
  Text.words ("max_turns n_pass refinement remove_cot delete_wrong_turns system_prompt " ++
    "prompt_template refine_template")

/-- The settings with one part replaced; `none` when the value does not fit the part. -/
def setPart? (config : Config) (part : Nat) (value : Json) : Option Config :=
  match part with
  | 0 => value.natural?.map fun maxTurns => { config with maxTurns }
  | 1 => value.natural?.map fun attempts => { config with attempts }
  | 2 => value.bool?.map fun refinement => { config with refinement }
  | 3 => value.bool?.map fun codeOnly => { config with codeOnly }
  | 4 => value.bool?.map fun latestOnly => { config with latestOnly }
  | 5 => match value with
    | .null => some { config with systemPrompt := none }
    | value => value.text?.map fun prompt => { config with systemPrompt := some prompt }
  | 6 => value.text?.map fun prompt => { config with prompt }
  | 7 => value.text?.map fun refinePrompt => { config with refinePrompt }
  | _ => none

/-- The settings with the parts of a list replaced, from part number `part` on. -/
def setParts? (part : Nat) : List Json → Config → Option Config
  | [], config => some config
  | value :: rest, config => do setParts? (part + 1) rest (← config.setPart? part value)

/-- The settings of a value. Fields with other names are passed over. -/
def ofJson? : Json → Option Config
  | .list parts => setParts? 0 parts standard
  | .object fields => fields.foldlM (fun config (key, value) =>
      match partNames.findIdx? (· = key) with
      | some part => config.setPart? part value
      | none => some config) standard
  | _ => none

end Config
end Prover
end ProofDesk
