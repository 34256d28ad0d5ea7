import ProofDesk.Host.Basic
import ProofDesk.Host.Path

/-!
# Project roots

The root of a project is the nearest directory above a place that holds a toolchain file and a
lakefile.

* `Project.findRoot` — the root of the project that a place belongs to.
* `RootError.message` — why there is none.
-/

namespace ProofDesk
namespace Project

/-- Why a place belongs to no project. -/
inductive RootError
  /-- The place does not exist. -/
  | unresolved (start : Text) (error : FileError)
  /-- It lies in a project for an older version of the proof assistant. -/
  | outdated (directory : Text)
  /-- No directory above it is a root. -/
  | notFound (start : Text)
  deriving DecidableEq, Repr

/-- The wording of an error. -/
def RootError.message : RootError → Text
  | unresolved start error =>
    "failed to resolve start path " ++ start ++ ": " ++ error.message
  | outdated directory =>
    "Lean 3 project detected at " ++ directory ++
      " (found leanpkg.toml); only Lean 4 (Lake) projects are supported"
  | notFound start =>
    "Could not find Lean repo root from " ++ start ++ " (expected lean-toolchain + lakefile.*)"

/-- What a directory looks like. -/
inductive Landmark
  /-- It is the root of a project. -/
  | root
  /-- It is the root of a project for an older version. -/
  | outdated
  /-- It is neither. -/
  | neither
  deriving DecidableEq, Repr

/-- Looks at a directory. -/
def landmark (directory : Text) : Hosted Landmark := do
  let hasToolchain ← Host.pathExists (Path.join directory "lean-toolchain")
  let hasLakefile ← Host.pathExists (Path.join directory "lakefile.lean")
  let hasTomlfile ← Host.pathExists (Path.join directory "lakefile.toml")
  if hasToolchain && (hasLakefile || hasTomlfile) then return .root
  if ← Host.pathExists (Path.join directory "leanpkg.toml") then return .outdated
  return .neither

/-- Looks at a directory and those above it, at most `steps` of them. -/
def climb (start : Text) : (steps : Nat) → (directory : Text) → Hosted (Except RootError Text)
  | 0, _ => return .error (.notFound start)
  | steps + 1, directory => do
    match ← landmark directory with
    | .root => return .ok directory
    | .outdated => return .error (.outdated directory)
    | .neither =>
      match Path.parent? directory with
      | some above => climb start steps above
      | none => return .error (.notFound start)

/-- The number of directories that are looked at. -/
def maxSteps : Nat := 80

/-- The root of the project that a place belongs to. -/
def findRoot (start : Text) : Hosted (Except RootError Text) := do
  match ← Host.resolve start with
  | .error error => return .error (.unresolved start error)
  | .ok directory => climb start maxSteps directory

end Project
end ProofDesk
