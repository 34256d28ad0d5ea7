import ProofDesk.Rehearsal.Tree
import ProofDesk.Text.Numeral
import ProofDesk.Text.Search

/-!
# Machines

A host in memory: a file tree, tools that answer from a script, no network, and ids from a list. The
system may refuse what is asked of the files, or break off when a file is written.

* `Machine.carryOut` — the answer to a question, and the machine after it.
* `Machine.refuse` — the same where a fault strikes.
* `Machine.answer` — each question about files meets the next fault, or none.
-/

namespace ProofDesk
namespace Rehearsal

/-- What a scripted tool does. -/
inductive ToolReply
  /-- It prints and ends with a code; a tool that is killed has none. -/
  | ends (stdout stderr : Text) (code : Option Int)
  /-- It does not end. -/
  | sleeps
  deriving DecidableEq, Repr

/-- One run of a scripted tool. -/
structure Call where
  arguments : List Text
  directory : Text
  /-- The content of the source file that is its last argument. -/
  text : Option Text
  deriving DecidableEq, Repr

/-- What keeps the system from carrying out a question about files. -/
inductive Fault
  /-- The question is refused and nothing changes: the file is read-only, the medium fails. -/
  | refused (error : FileError)
  /-- A file that is written is emptied, and then only some bytes get into it: the medium is full. -/
  | cut (bytes : Nat) (error : FileError)
  deriving DecidableEq, Repr

/-- What the system reports. -/
def Fault.error : Fault → FileError
  | refused error | cut _ error => error

/-- A host in memory. -/
structure Machine where
  tree : Tree
  /-- What the tools do, run by run; later runs print nothing and succeed. -/
  script : List ToolReply
  /-- The runs so far. -/
  calls : List Call
  /-- The ids to come. -/
  ids : List Text
  /-- The faults that the questions about files meet, one after the other; later ones meet none. -/
  faults : List (Option Fault) := []
  /-- The home directory of the user. -/
  home : Option Text := none

namespace Machine

/-- The words in the output of a tool that stand for its last argument. -/
def fileHole : Text := "\x7bFILE\x7d"

/-- The name of a temporary file where nothing has it yet. -/
def temporaryName : Text := "proofsession-a1b2c3.lean"

/-- The names for temporary files, in the order in which they are tried. -/
def temporaryNames (more : Nat) : List Text :=
  temporaryName :: (List.range more).map fun n => "proofsession-" ++ Text.decimal n ++ ".lean"

/-- How the n-th run of a tool goes. -/
def outcome (reply : Option ToolReply) (arguments : List Text) : Host.Outcome :=
  let fill := Text.replaceAll fileHole (arguments.getLast?.getD [])
  match reply with
  | none => .ended ⟨true, some 0, [], []⟩
  | some .sleeps => .timedOut
  | some (.ends stdout stderr code) =>
    .ended ⟨code == some 0, code, fill stdout, fill stderr⟩

/-- The content of a source file. -/
def sourceText? (machine : Machine) (path : Text) : Option Text :=
  if Text.endsWith ".lean" path then (machine.tree.read path).toOption else none

/-- Runs a command. A name without a slash would be looked for on the search path, where nothing
is. -/
def run (command : Host.Command) (machine : Machine) : Host.Outcome × Machine :=
  let tree := machine.tree
  if !Text.contains ['/'] command.program then (.notStarted .notFound, machine)
  else match tree.walk command.directory, tree.walk command.program with
    | .error error, _ => (.notStarted error, machine)
    | _, .error error => (.notStarted error, machine)
    | .ok directory, .ok program =>
      if tree.entry? program = some .program then
        let call : Call := {
          arguments := command.arguments
          directory := Tree.pathOf directory
          text := command.arguments.getLast?.bind machine.sourceText? }
        (outcome machine.script.head? command.arguments,
          { machine with script := machine.script.tail, calls := machine.calls ++ [call] })
      else (.notStarted .permissionDenied, machine)

/-- The path of a new file in a directory. There is one more name than there are entries, so one of
them is free. -/
def freePath? (directory : Text) (machine : Machine) : Option Text :=
  ((temporaryNames machine.tree.entries.length).map (Path.join directory)).find? fun path =>
    !(machine.tree.walk path).isOk

/-- Makes a temporary file in a directory that is there. -/
def makeTemporary (directory content : Text) (machine : Machine) :
    Except WriteError Text × Machine :=
  match machine.freePath? directory with
  | none => (.error (.unopened .alreadyExists), machine)
  | some path =>
    match machine.tree.write path content with
    | .ok tree => (.ok path, { machine with tree })
    | .error error => (.error (.unopened error), machine)

/-- The machine without the file at a path. -/
def removeFile (path : Text) (machine : Machine) : Machine :=
  match machine.tree.walk path with
  | .ok place => { machine with tree := machine.tree.remove place }
  | .error _ => machine

/-- The machine after an operation on its files that gives a new tree. -/
def change (result : Except FileError Tree) (machine : Machine) :
    Except FileError Unit × Machine :=
  match result with
  | .ok tree => (.ok (), { machine with tree })
  | .error error => (.error error, machine)

/-- Writes a file. -/
def write (path content : Text) (machine : Machine) : Except WriteError Unit × Machine :=
  match machine.tree.write path content with
  | .ok tree => (.ok (), { machine with tree })
  | .error error => (.error (.unopened error), machine)

/-- The answer to a question, and the machine after it. -/
def carryOut : (query : Host.Query) → Machine → query.Answer × Machine
  | .resolve path, machine => ((machine.tree.walk path).map Tree.pathOf, machine)
  | .present path, machine => ((machine.tree.walk path).isOk, machine)
  | .read path, machine => (machine.tree.read path, machine)
  | .write path content, machine => machine.write path content
  | .makeDirectory path, machine => machine.change (machine.tree.makeDirectory path)
  | .isDirectory path, machine => (machine.tree.isDirectory path, machine)
  | .homeDirectory, machine => (machine.home, machine)
  | .makeTemporary directory content, machine => machine.makeTemporary directory content
  | .removeTemporary path, machine => ((), machine.removeFile path)
  | .run command _, machine => machine.run command
  | .send _, machine => (none, machine)
  | .freshId, machine => (machine.ids.head?.getD [], { machine with ids := machine.ids.tail })

/-! ### Faults -/

/-- What gets into a file of a text that is cut behind some bytes; no text when a character is cut. -/
def front? (bytes : Nat) (content : Text) : Option Text :=
  (Text.splitAtByte? (min bytes (Text.size content)) content).map Prod.fst

/-- Writes a file, of which only some bytes get onto the medium. -/
def cutWrite (bytes : Nat) (error : FileError) (path content : Text) (machine : Machine) :
    Except WriteError Unit × Machine :=
  match machine.tree.fill path (front? bytes content) with
  | .ok tree => (.error (.unfinished error), { machine with tree })
  | .error error => (.error (.unopened error), machine)

/-- The answer to a question that a fault strikes, and the machine after it. A temporary file can always
be removed, and what is not about files meets no fault. -/
def refuse (fault : Fault) : (query : Host.Query) → Machine → query.Answer × Machine
  | .resolve _, machine => (.error fault.error, machine)
  | .present _, machine => (false, machine)
  | .read _, machine => (.error fault.error, machine)
  | .write path content, machine =>
    match fault with
    | .refused error => (.error (.unopened error), machine)
    | .cut bytes error => machine.cutWrite bytes error path content
  | .makeDirectory _, machine => (.error fault.error, machine)
  | .isDirectory _, machine => (false, machine)
  | .makeTemporary _ _, machine =>
    match fault with
    | .refused error => (.error (.unopened error), machine)
    | .cut _ error => (.error (.unfinished error), machine)
  | query, machine => machine.carryOut query

/-- The question is about files. -/
def isAboutFiles : Host.Query → Bool
  | .resolve _ | .present _ | .read _ | .write _ _ | .makeDirectory _ | .isDirectory _
  | .makeTemporary _ _ => true
  | _ => false

/-- The answer to a question, and the machine after it. -/
def answer (query : Host.Query) (machine : Machine) : query.Answer × Machine :=
  if isAboutFiles query then
    let struck : Machine := { machine with faults := machine.faults.tail }
    match machine.faults with
    | some fault :: _ => struck.refuse fault query
    | _ => struck.carryOut query
  else machine.carryOut query

end Machine
end Rehearsal
end ProofDesk
