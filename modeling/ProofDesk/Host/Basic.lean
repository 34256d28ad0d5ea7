import ProofDesk.Dialogue
import ProofDesk.Json.Basic
import ProofDesk.Verification

/-!
# The host

What a program asks of the machine that it runs on: files, tools, the network and fresh ids.

* `Host.Query` and `Host.Query.Answer` — the questions and the kinds of their answers.
* `Hosted` — a computation that asks the host.
* `FileError.message` — the wording of what goes wrong with files.
* `WriteError` — whether a file that did not get its content is as it was.
-/

namespace ProofDesk

/-- The wording of an error of the system. It quotes nothing. -/
structure Wording where
  text : Text
  plain : '\'' ∉ text
  deriving DecidableEq, Repr

/-- What goes wrong with a file or a directory. -/
inductive FileError
  | notFound
  | notDirectory
  | isDirectory
  | alreadyExists
  | permissionDenied
  /-- The content is not valid UTF-8. -/
  | notText
  /-- Anything else that the system reports. -/
  | other (wording : Wording)
  deriving DecidableEq, Repr

/-- The wording of an error, as the operating system has it. -/
def FileError.message : FileError → Text
  | notFound => "No such file or directory (os error 2)"
  | notDirectory => "Not a directory (os error 20)"
  | isDirectory => "Is a directory (os error 21)"
  | alreadyExists => "File exists (os error 17)"
  | permissionDenied => "Permission denied (os error 13)"
  | notText => "stream did not contain valid UTF-8"
  | other wording => wording.text

/-- Why a file did not get its content. -/
inductive WriteError
  /-- It could not be opened, and is as it was. -/
  | unopened (error : FileError)
  /-- It was emptied, and then only a part of the content got into it. -/
  | unfinished (error : FileError)
  deriving DecidableEq, Repr

/-- What the system reports. -/
def WriteError.reason : WriteError → FileError
  | unopened error | unfinished error => error

namespace Host

/-- A command: a program, its arguments and the directory in which it runs. -/
structure Command where
  program : Text
  arguments : List Text
  directory : Text
  deriving DecidableEq, Repr

/-- How a command went. -/
inductive Outcome
  /-- The program could not be started. -/
  | notStarted (error : FileError)
  /-- It did not end in time. -/
  | timedOut
  /-- It ended. -/
  | ended (run : ToolRun)
  deriving DecidableEq, Repr

/-- A request over the network. -/
structure Request where
  method : Text
  url : Text
  authorization : Option Text
  contentType : Option Text
  body : Option Json

/-- The answer to a request. -/
structure Response where
  status : Nat
  body : Text
  deriving DecidableEq, Repr

/-- What is asked of the host. -/
inductive Query
  /-- The absolute path of what exists at a path, without dots. -/
  | resolve (path : Text)
  /-- Whether something exists at a path. -/
  | present (path : Text)
  /-- The content of a file. -/
  | read (path : Text)
  /-- Gives a file its content. -/
  | write (path content : Text)
  /-- Makes one directory. -/
  | makeDirectory (path : Text)
  /-- Whether a directory lies at a path. -/
  | isDirectory (path : Text)
  /-- The home directory of the user, as the system knows it. -/
  | homeDirectory
  /-- Makes a temporary file with a content in a directory; its path. One that does not get the
  content is removed. -/
  | makeTemporary (directory content : Text)
  /-- Removes a temporary file. -/
  | removeTemporary (path : Text)
  /-- Runs a command for at most some milliseconds. -/
  | run (command : Command) (limit : Nat)
  /-- Sends a request; there is no answer when nothing is reached. -/
  | send (request : Request)
  /-- An id that no session has yet. -/
  | freshId

/-- The kind of answer of each question. -/
abbrev Query.Answer : Query → Type
  | resolve _ => Except FileError Text
  | present _ => Bool
  | read _ => Except FileError Text
  | write _ _ => Except WriteError Unit
  | makeDirectory _ => Except FileError Unit
  | isDirectory _ => Bool
  | homeDirectory => Option Text
  | makeTemporary _ _ => Except WriteError Text
  | removeTemporary _ => Unit
  | run _ _ => Outcome
  | send _ => Option Response
  | freshId => Text

end Host

/-- A computation that asks the host. -/
abbrev Hosted (α : Type) : Type := Dialogue Host.Query Host.Query.Answer α

namespace Host

/-- Asks for the absolute path of what exists at a path. -/
def resolve (path : Text) : Hosted (Except FileError Text) := Dialogue.question (Query.resolve path)

/-- Asks whether something exists at a path. -/
def pathExists (path : Text) : Hosted Bool := Dialogue.question (Query.present path)

/-- Asks for the content of a file. -/
def readFile (path : Text) : Hosted (Except FileError Text) := Dialogue.question (Query.read path)

/-- Asks to give a file its content. -/
def writeFile (path content : Text) : Hosted (Except WriteError Unit) :=
  Dialogue.question (Query.write path content)

/-- Asks to make one directory. -/
def makeDirectory (path : Text) : Hosted (Except FileError Unit) :=
  Dialogue.question (Query.makeDirectory path)

/-- Asks whether a directory lies at a path. -/
def isDirectory (path : Text) : Hosted Bool := Dialogue.question (Query.isDirectory path)

/-- Asks for the home directory of the user. -/
def homeDirectory : Hosted (Option Text) := Dialogue.question Query.homeDirectory

/-- Asks for a temporary file with a content. -/
def makeTemporary (directory content : Text) : Hosted (Except WriteError Text) :=
  Dialogue.question (Query.makeTemporary directory content)

/-- Asks to remove a temporary file. -/
def removeTemporary (path : Text) : Hosted Unit := Dialogue.question (Query.removeTemporary path)

/-- Asks to run a command. -/
def run (command : Command) (limit : Nat) : Hosted Outcome :=
  Dialogue.question (Query.run command limit)

/-- Asks to send a request. -/
def send (request : Request) : Hosted (Option Response) := Dialogue.question (Query.send request)

/-- Asks for a fresh id. -/
def freshId : Hosted Text := Dialogue.question Query.freshId

end Host
end ProofDesk
