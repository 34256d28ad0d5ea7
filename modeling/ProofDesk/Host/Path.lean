import ProofDesk.Text.Basic

/-!
# Paths

A path is a text whose components are separated by slashes; one that begins with a slash is
absolute. Empty components, and dots that are not the first component, do not count.

* `Path.join` — a path read from a directory.
* `Path.parent?` — the path without its last component.
-/

namespace ProofDesk
namespace Path

/-- The path begins at the root. -/
def isAbsolute (path : Text) : Bool := path.head? == some '/'

/-- `path` as it is read from a directory. -/
def join (directory path : Text) : Text :=
  if isAbsolute path || directory.isEmpty then path
  else if directory.getLast? == some '/' then directory ++ path
  else directory ++ '/' :: path

/-- A reversed path without the slashes and dots at its end; the root stays. -/
def trimReversed : Text → Text
  | '/' :: rest => if rest.isEmpty then ['/'] else trimReversed rest
  | '.' :: '/' :: rest => if rest.isEmpty then ['/'] else trimReversed rest
  | path => path

/-- The path without its last component; the root and the empty path have no parent. -/
def parent? (path : Text) : Option Text :=
  let reversed := trimReversed path.reverse
  if reversed.isEmpty || reversed == ['/'] then none
  else some (trimReversed (reversed.dropWhile (· != '/'))).reverse

end Path
end ProofDesk
