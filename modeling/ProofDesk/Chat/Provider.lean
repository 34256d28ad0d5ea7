import ProofDesk.Host.Basic
import ProofDesk.Settings.Environment

/-!
# Providers of models

A provider answers conversations over the network. It is usable when the environment names a model
for it, and a key where it needs one; a local provider has to be reachable as well.

* `Chat.providers` — the providers that are known.
* `Chat.order` — the names in the order in which they are tried.
* `Chat.select` — the first usable provider and its model.
-/

namespace ProofDesk
namespace Chat

/-- A provider of models. -/
structure Provider where
  name : Text
  /-- The address below which its services lie. -/
  base : Text
  /-- The variable that holds its key. -/
  keyVariable : Option Text
  /-- The variable that names the model. -/
  modelVariable : Text
  /-- It runs on a machine of one's own, which may be off. -/
  isLocal : Bool
  deriving DecidableEq, Repr

/-- The address that a variable gives, or a standard one, without slashes at its end. -/
def address (environment : Environment) (name standard : Text) : Text :=
  let given := environment.text name
  Text.trimEndOf (· == '/') (if Text.allBlank given then standard else given)

/-- The providers that are known. -/
def providers (environment : Environment) : List Provider :=
  [⟨"ollama", address environment "OLLAMA_HOST" "http://localhost:11434", none, "OLLAMA_MODEL",
      true⟩,
    ⟨"groq", "https://api.groq.com/openai/v1", some "GROQ_API_KEY".toList, "GROQ_MODEL", false⟩,
    ⟨"openrouter", address environment "OPENROUTER_BASE_URL" "https://openrouter.ai/api/v1",
      some "OPENROUTER_API_KEY".toList, "OPENROUTER_MODEL", false⟩,
    ⟨"openai", address environment "OPENAI_BASE_URL" "https://api.openai.com/v1",
      some "OPENAI_API_KEY".toList, "OPENAI_MODEL", false⟩]

/-- The order in which providers are tried when the environment gives none. -/
def standardOrder : List Text := Text.words "ollama groq openrouter openai"

/-- The names of providers in the order in which they are tried. -/
def order (environment : Environment) : List Text :=
  match environment.setting? "PROOFSESSION_PROVIDER_ORDER" with
  | some names => ((Text.splitOn ',' names).map Text.trim).filter (· ≠ [])
  | none => standardOrder

/-- The model that the environment names for a provider which needs no key, or has one. -/
def usableModel? (environment : Environment) (provider : Provider) : Option Text := do
  let model ← environment.setting? provider.modelVariable
  if (provider.keyVariable.all fun key => (environment.setting? key).isSome) then some model
  else none

/-- The answers that show that something listens. -/
def listeningStatuses : List Nat := [200, 401, 404]

/-- Asks at an address whether something listens there. -/
def listensAt (url : Text) : Hosted Bool := do
  let answer ← Host.send ⟨"GET", url, none, none, none⟩
  return answer.any fun response => listeningStatuses.contains response.status

/-- Asks whether a local provider is reachable. -/
def isReachable (base : Text) : Hosted Bool := do
  if ← listensAt (base ++ "/v1/models") then return true
  listensAt (base ++ "/api/tags")

/-- The first usable one of the providers with these names, and its model. -/
def selectFrom (environment : Environment) : List Text → Hosted (Option (Provider × Text))
  | [] => return none
  | name :: rest => do
    let candidate : Option (Provider × Text) := do
      let provider ← (providers environment).find? fun known => known.name = name
      return (provider, ← usableModel? environment provider)
    match candidate with
    | none => selectFrom environment rest
    | some (provider, model) =>
      if !provider.isLocal then return some (provider, model)
      if ← isReachable provider.base then return some (provider, model)
      selectFrom environment rest

/-- The first usable provider and its model. -/
def select (environment : Environment) : Hosted (Option (Provider × Text)) :=
  selectFrom environment (order environment)

end Chat
end ProofDesk
