import ProofDesk.Prover.Attempt
import ProofDesk.Session.Step

/-!
# Rehearsals

A verifier and a generator that answer from a script, so that sessions and attempts can be held
without a proof assistant and without a model.

* `Rehearsal.Verifier` — answers the n-th text with the n-th reply, the last one again and again.
* `Rehearsal.Party` — such a verifier beside a generator that reads from a list.
-/

namespace ProofDesk
namespace Rehearsal

/-- One reply of the script. -/
inductive Reply
  /-- The same report whatever the text is. -/
  | fixed (report : Verification)
  /-- A report by the words of the text. -/
  | byWords
  deriving DecidableEq, Repr

/-- A tactic that does not exist. -/
def badTactic : Text := "bad_tactic"

/-- A tactic that never ends. -/
def endlessTactic : Text := "spin_forever"

/-- The diagnostics for the words of a text: an error on each line with the tactic that does not
exist, and a warning when there is a placeholder. -/
def wordDiagnostics (text : Text) : List Diagnostic :=
  let errors := (Text.printedLines text).zipIdx.filterMap fun (line, k) =>
    if Text.contains badTactic line then
      some ⟨.error, k + 1, 0, none, none, "unknown tactic"⟩
    else none
  if Text.contains Source.sorryWord text then
    errors ++ [⟨.warning, 1, 0, none, none, Diagnostic.incompleteMarker⟩]
  else errors

/-- The report by the words of a text; with the tactic that never ends it is given up. -/
def reportByWords (text : Text) : Verification :=
  if Text.contains endlessTactic text then Verification.timeout 1
  else
    let diagnostics := wordDiagnostics text
    { response := Text.joinLines <| diagnostics.map fun diagnostic =>
        diagnostic.severity.name ++ ": " ++ diagnostic.text
      diagnostics := some diagnostics
      hasSorry := Text.contains Source.sorryWord text
      proofState := none
      timedOut := false }

/-- The report of a reply on a text. -/
def Reply.report : Reply → Text → Verification
  | fixed report, _ => report
  | byWords, text => reportByWords text

/-- A verifier with a script. -/
structure Verifier where
  /-- The replies to come; the last one is not used up. -/
  script : List Reply
  /-- The texts that it was sent. -/
  heard : List Text
  deriving DecidableEq, Repr

/-- The verifier that has heard nothing yet. -/
def Verifier.ofScript (script : List Reply) : Verifier := ⟨script, []⟩

/-- The report on a text, and the verifier after it; without a script it goes by the words. -/
def Verifier.answer (text : Text) (verifier : Verifier) : Verification × Verifier :=
  match verifier.script with
  | [] => (reportByWords text, { verifier with heard := verifier.heard ++ [text] })
  | [reply] => (reply.report text, { verifier with heard := verifier.heard ++ [text] })
  | reply :: script => (reply.report text, ⟨script, verifier.heard ++ [text]⟩)

/-- A generator with a script beside a verifier with one. -/
structure Party where
  verifier : Verifier
  /-- The generations to come, or the errors in their place. -/
  generations : List (Except Text Text)
  /-- The turns that the generator was shown. -/
  calls : List (List Turn)

/-- The error of a generator whose script has ended. -/
def exhausted : Text := "script exhausted"

/-- The answer to an inquiry, and the party after it. -/
def Party.answer : (inquiry : Prover.Inquiry) → Party → inquiry.Answer × Party
  | .verify text, party =>
    let (report, verifier) := party.verifier.answer text
    (report, { party with verifier })
  | .generate turns, party =>
    let calls := party.calls ++ [turns]
    match party.generations with
    | [] => (Except.error exhausted, { party with calls })
    | generation :: generations => (generation, { party with calls, generations })

end Rehearsal
end ProofDesk
