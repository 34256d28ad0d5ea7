import ProofDesk.Diagnostic.Basic

/-!
# Tagged blocks of free text

A proof assistant without structured diagnostics tags its remarks: `[error] …`. A block runs from
its tag, blanks skipped, to a blank line, to a line that begins with a bracket, or to the end.

* `firstBlock?` — the first block of a severity.
* `taggedMessages` — at most one message for each severity, the gravest first.
-/

namespace ProofDesk
namespace Diagnostic

/-- The tag of a severity. -/
def tag (severity : Severity) : Text := '[' :: severity.name ++ [']']

/-- The text up to the first line feed that a second one or a bracket follows. -/
def upToBreak : Text → Text
  | [] => []
  | c :: rest =>
    if c = '\n' ∧ (rest.head? = some '\n' ∨ rest.head? = some '[') then [] else c :: upToBreak rest

/-- The first block of a severity, trimmed. -/
def firstBlock? (severity : Severity) (response : Text) : Option Text :=
  (Text.breakOn? (tag severity) response).map fun (_, rest) =>
    Text.trim (upToBreak (Text.trimStart rest))

/-- The first block of each severity as a message without a place. -/
def taggedMessages (response : Text) : List Message :=
  Severity.all.filterMap fun severity =>
    (firstBlock? severity response).map (Message.unplaced severity)

/-- The free text says that a declaration has a placeholder. -/
def saysIncomplete (response : Text) : Bool := Text.contains incompleteMarker response

end Diagnostic
end ProofDesk
