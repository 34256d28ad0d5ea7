import ProofDesk.Host.Basic
import ProofDesk.Host.Path

/-!
# Directories

* `Host.makeDirectories` — makes a directory with all that lie above it.
-/

namespace ProofDesk
namespace Host

/-- Makes one directory; one that is there already will do. -/
def ensureDirectory (path : Text) : Hosted (Except FileError Unit) := do
  match ← makeDirectory path with
  | .ok () => return .ok ()
  | .error .notFound => return .error .notFound
  | .error error => if ← isDirectory path then return .ok () else return .error error

/-- Makes a directory and those above it, at most `most` of them; the empty path names the working
directory. -/
def makeDirectoriesFrom : (most : Nat) → (path : Text) → Hosted (Except FileError Unit)
  | 0, _ => return .error .notFound
  | most + 1, path => do
    if path = [] then return .ok ()
    match ← ensureDirectory path with
    | .ok () => return .ok ()
    | .error .notFound =>
      match Path.parent? path with
      | none => return .error .notFound
      | some parent =>
        match ← makeDirectoriesFrom most parent with
        | .ok () => ensureDirectory path
        | .error error => return .error error
    | .error error => return .error error

/-- Makes a directory with all that lie above it; a path has no more names than characters. -/
def makeDirectories (path : Text) : Hosted (Except FileError Unit) :=
  makeDirectoriesFrom (path.length + 1) path

end Host
end ProofDesk
