import ProofDesk.Session.Step

/-!
# Desks

A desk hands out sessions that share one verifier and nothing else.

* `Desk.ofIds` — the sessions with given ids.
* `Desk.perform` — a step of one of the sessions, which leaves the others as they are.
-/

namespace ProofDesk

/-- Sessions over one verifier. -/
structure Desk where
  /-- The id that the sessions carry beside their own; empty for sessions on their own. -/
  instanceId : Text
  /-- Sessions rename their declarations before verification. -/
  uniqueNames : Bool
  sessions : List Session
  deriving DecidableEq, Repr

namespace Desk

/-- A desk with one session for each id. -/
def ofIds (instanceId : Text) (uniqueNames : Bool) (ids : List Text) : Desk :=
  ⟨instanceId, uniqueNames, ids.map fun id => Session.fresh ⟨id, instanceId⟩ uniqueNames⟩

/-- Performs a step of the session with an index; there is no answer where there is no session. -/
def perform (desk : Desk) (index : Nat) (step : Session.Step) :
    Verified (Option Session.Answer × Desk) :=
  match desk.sessions[index]? with
  | none => return (none, desk)
  | some session => do
    let (answer, session) ← session.perform step
    return (some answer, { desk with sessions := desk.sessions.set index session })

end Desk
end ProofDesk
