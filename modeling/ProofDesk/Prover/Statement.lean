import ProofDesk.Source.Declaration
import ProofDesk.Text.Search

/-!
# Formal statements

A formal statement is a text whose last part declares the theorem to be proved. A generated proof
is checked under the signature of the statement, whatever signature was generated with it.

* `refineBySorry` — the statement with a bare placeholder for its proof.
* `declaredName?` — the name of the first theorem or lemma.
* `cutAtProof?` — a text cut behind the `:=` that ends the signature of a name.
* `imposeStatement` — the signature of the statement with the proof of the generated code.
-/

namespace ProofDesk
namespace Statement

/-- The statement up to its proof sign, with a placeholder for the proof. -/
def refineBySorry (statement : Text) : Text :=
  let statement := Text.trimEnd statement
  match Text.breakOn? Source.tacticSign statement with
  | some (front, _) => front ++ Source.tacticSign ++ " sorry"
  | none =>
    match Text.breakOn? Source.proofSign statement with
    | some (front, _) => front ++ Source.proofSign ++ " by sorry"
    | none => statement ++ " := by sorry"

/-! ### Declarations at the beginning of a line -/

/-- The name that a text declares at its beginning, blanks in front of the keyword skipped. -/
def nameHere? (t : Text) : Option Text := (Source.nameHere? (Text.trimStart t)).map Prod.fst

/-- A character that may follow the name in the declaration that is looked for. -/
def endsName (c : Char) : Bool :=
  Text.isBlank c || c == ':' || c == '(' || c == '\x7b' || c == '['

/-- The text declares `name` at its beginning, blanks in front of the keyword skipped. -/
def declaresHere (name t : Text) : Bool :=
  ((Source.afterKeyword? (Text.trimStart t)).bind (Text.after? name)).any fun rest =>
    rest.head?.all endsName

/-- A text cut at the first beginning of a line where `p` holds of the rest; `atStart` tells
whether the text itself begins a line. -/
def splitAtLine? (p : Text → Bool) (atStart : Bool) : Text → Option (Text × Text)
  | [] => if atStart && p [] then some ([], []) else none
  | c :: rest =>
    if atStart && p (c :: rest) then some ([], c :: rest)
    else (splitAtLine? p (c == '\n') rest).map fun sides => (c :: sides.1, sides.2)

/-- The name of the first theorem or lemma that begins a line. -/
def declaredName? (t : Text) : Option Text := do
  let (_, rest) ← splitAtLine? (fun rest => (nameHere? rest).isSome) true t
  nameHere? rest

/-- The text cut behind the first `:=` after the first declaration of the name. -/
def cutAtProof? (name t : Text) : Option (Text × Text) := do
  let (front, rest) ← splitAtLine? (declaresHere name) true t
  let (signature, proof) ← Text.breakOn? Source.proofSign rest
  return (front ++ signature ++ Source.proofSign, proof)

/-! ### Imposing a statement -/

/-- Why a generated proof cannot be put under a statement. -/
inductive Mismatch
  /-- The statement declares no theorem or lemma. -/
  | noDeclaration
  /-- The statement has no proof sign after the declaration of its name. -/
  | noProofSign (name : Text)
  /-- The generated code declares another name, or has no proof sign after this one. -/
  | notDeclared (name : Text)
  deriving DecidableEq, Repr

/-- The words that mark the text of a mismatch. -/
def errorMarker : Text := "**Error**"

/-- The text of a mismatch. -/
def Mismatch.message : Mismatch → Text
  | noDeclaration => errorMarker ++ ": no theorem or lemma declaration in the formal statement"
  | noProofSign name => errorMarker ++ ": formal statement for `" ++ name ++ "` has no `:=`"
  | notDeclared name => errorMarker ++ ": could not find `" ++ name ++ "` in the generated code"

/-- The signature of the statement with the proof of the code. -/
def imposeStatement (statement code : Text) : Except Mismatch Text :=
  match declaredName? statement with
  | none => .error .noDeclaration
  | some name =>
    match cutAtProof? name statement with
    | none => .error (.noProofSign name)
    | some (signature, _) =>
      match cutAtProof? name code with
      | none => .error (.notDeclared name)
      | some (_, proof) => .ok (signature ++ proof)

/-- The text under which a turn goes on: the spliced code, or the text of the mismatch. -/
def imposedText (statement code : Text) : Text :=
  match imposeStatement statement code with
  | .ok text => text
  | .error mismatch => mismatch.message

end Statement
end ProofDesk
