import ProofDesk.Text.Basic

/-!
# Conversations

What is said to a generator of proofs, turn by turn.
-/

namespace ProofDesk

/-- Who speaks in a turn. -/
inductive Role
  | system
  | user
  | assistant
  deriving DecidableEq, Repr

/-- The name of a role. -/
def Role.name : Role → Text
  | system => "system"
  | user => "user"
  | assistant => "assistant"

/-- All roles. -/
def Role.all : List Role := [.system, .user, .assistant]

/-- One turn of a conversation. -/
structure Turn where
  role : Role
  content : Text
  deriving DecidableEq, Repr

end ProofDesk
