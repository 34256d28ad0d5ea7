import ProofDesk.Text.Blank
import ProofDesk.Text.Search

/-!
# Code in generated text

A generator writes its code into fenced blocks.

* `blocks` — the bodies of the fenced blocks of a text, read from left to right.
* `code?` — the body of the last block, trimmed, unless it is blank.
-/

namespace ProofDesk
namespace Generation

/-- The sign that opens and closes a block. -/
def fence : Text := "```"

/-- What follows the opening line of a block at the beginning of a text. -/
def afterOpener? (t : Text) : Option Text := do
  let rest ← Text.after? (fence ++ "lean") t
  let rest := (Text.after? ['4'] rest).getD rest
  let rest := rest.dropWhile fun c => c == ' ' || c == '\t'
  Text.after? ['\n'] ((Text.after? ['\r'] rest).getD rest)

/-- The body of the block at the beginning of a text, and what follows its closing fence. -/
def block? (t : Text) : Option (Text × Text) := do Text.breakOn? fence (← afterOpener? t)

/-- The bodies of the blocks that begin behind the next `skip` characters. -/
def blocksFrom : Nat → Text → List Text
  | _, [] => []
  | skip + 1, _ :: rest => blocksFrom skip rest
  | 0, c :: rest =>
    match block? (c :: rest) with
    | some (body, behind) => body :: blocksFrom (rest.length - behind.length) rest
    | none => blocksFrom 0 rest

/-- The bodies of the blocks of a text, which do not overlap. -/
def blocks (t : Text) : List Text := blocksFrom 0 t

/-- The code of a generation: the last block, trimmed, unless it is blank. -/
def code? (generation : Text) : Option Text := do
  let code := Text.trim (← (blocks generation).getLast?)
  if code.isEmpty then none else some code

end Generation
end ProofDesk
