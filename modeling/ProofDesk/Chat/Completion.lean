import ProofDesk.Chat.Provider
import ProofDesk.Json.Printer
import ProofDesk.Json.Reader
import ProofDesk.Report

/-!
# Completions

The next turn of a conversation, as a provider writes it.

* `Chat.complete` — one completion.
* `Chat.CompletionError` — why there is none, with its wording in `CompletionError.message`.
-/

namespace ProofDesk
namespace Chat

open Json (field record)

/-- The next turn, and where it comes from. -/
structure Completion where
  provider : Text
  model : Text
  content : Text
  /-- The whole answer. -/
  raw : Json

/-- Why there is no completion. -/
inductive CompletionError
  | noProvider
  | missingKey (name : Text)
  /-- The key cannot be sent. -/
  | invalidKey
  | unreachable
  /-- The answer is no JSON. -/
  | noJson
  | refused (provider : Text) (status : Nat) (raw : Json)
  /-- The answer has no list of choices. -/
  | noChoices
  /-- The first choice has no content. -/
  | noContent

/-- The wording of an error. -/
def CompletionError.message : CompletionError → Text
  | noProvider =>
    "No usable provider found. Set one of:\n- OLLAMA_MODEL (+ optional OLLAMA_HOST)\n" ++
      "- GROQ_API_KEY and GROQ_MODEL\n- OPENROUTER_API_KEY and OPENROUTER_MODEL\n" ++
      "- OPENAI_API_KEY and OPENAI_MODEL\nOptionally set PROOFSESSION_PROVIDER_ORDER."
  | missingKey name => "missing " ++ name
  | invalidKey => "invalid Authorization header"
  | unreachable => "http request failed"
  | noJson => "http json decode"
  | refused provider status raw =>
    "provider " ++ provider ++ " returned " ++ Text.decimal status ++ ": " ++ raw.compact
  | noChoices => "invalid chat response"
  | noContent => "missing choices[0].message.content"

/-- A character that a header may hold. -/
def isHeaderChar (c : Char) : Bool := c == '\t' || (0x20 ≤ c.toNat && c.toNat != 0x7F)

/-- The authorization that goes with a request. -/
def authorization? (environment : Environment) (provider : Provider) :
    Except CompletionError (Option Text) :=
  match provider.keyVariable with
  | none => .ok none
  | some name =>
    match environment.setting? name with
    | none => .error (.missingKey name)
    | some key => if key.all isHeaderChar then .ok (some ("Bearer " ++ key)) else .error .invalidKey

/-- The request for the next turn. -/
def request (provider : Provider) (model : Text) (authorization : Option Text) (turns : List Turn)
    (temperature : Float32) : Host.Request where
  method := "POST"
  url := provider.base ++ "/chat/completions"
  authorization
  contentType := some "application/json".toList
  body := some (record [
    field "model" model, field "messages" turns,
    field "temperature" (Json.ofFloat temperature.toFloat)])

/-- The message of a choice, which may be the only item of a list. -/
def messageOf? : Json → Option Json
  | .list [message] => some message
  | .object fields => (Json.object fields).field? "message"
  | _ => none

/-- The choices of an answer, which may be the only item of a list. -/
def choicesOf? : Json → Option (List Json)
  | .list [choices] => choices.items?
  | .object fields => ((Json.object fields).field? "choices").bind Json.items?
  | _ => none

/-- The content of the first choice of an answer. -/
def contentOf (raw : Json) : Except CompletionError Text :=
  match (choicesOf? raw).bind fun choices => choices.mapM messageOf? with
  | none => .error .noChoices
  | some messages =>
    match (messages.head?.bind (Json.field? "content")).bind Json.text? with
    | some content => .ok content
    | none => .error .noContent

/-- The completion that a response amounts to. -/
def ofResponse (provider : Provider) (model : Text) (response : Host.Response) :
    Except CompletionError Completion := do
  let some raw := Json.read? response.body | throw .noJson
  if response.status < 200 ∨ 300 ≤ response.status then
    throw (.refused provider.name response.status raw)
  return ⟨provider.name, model, ← contentOf raw, raw⟩

/-- Asks the first usable provider for the next turn. -/
def complete (environment : Environment) (turns : List Turn) (temperature : Float32) :
    Hosted (Except CompletionError Completion) := do
  match ← select environment with
  | none => return .error .noProvider
  | some (provider, model) =>
    match authorization? environment provider with
    | .error error => return .error error
    | .ok authorization =>
      match ← Host.send (request provider model authorization turns temperature) with
      | none => return .error .unreachable
      | some response => return ofResponse provider model response

/-- The temperature at which proofs are generated. -/
def proofTemperature : Float32 := 0.2

/-- Generates the next turn, or the wording of why there is none. -/
def generate (environment : Environment) (turns : List Turn) : Hosted (Except Text Text) := do
  match ← complete environment turns proofTemperature with
  | .ok completion => return .ok completion.content
  | .error error => return .error error.message

instance : ToJson Completion where
  toJson completion := record [
    field "provider" completion.provider, field "model" completion.model,
    field "content" completion.content, field "raw" completion.raw]

end Chat
end ProofDesk
