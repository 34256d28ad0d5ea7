import Mathlib.Data.List.Forall2
import ProofDesk.Session.Step
import ProofDesk.Proofs.Dialogue
import ProofDesk.Proofs.Session.Renaming

/-!
# Renaming does not show

A session that renames and one that does not are told the same about a document, the first one in
the submitted text: its columns lie behind the suffixes that were put before them, and its texts may
have the suffix. Then both know the same.

* `IsSessionId` — what the id of a session looks like.
* `CarriedReport` — a report on the document and the same report on the submitted text.
* `restoreMessage_toMessage` — a carried diagnostic becomes the message of the original one.
* `load_transparent` — after a load, a session that renames knows what the other one does.
-/

namespace ProofDesk
namespace Session

open Dialogue (Respondent)
open Renaming (marks searchOrder suffixOf suffixNames stripColumn)
open Text (CarriedColumn eraseAll put)

/-! ### Reports in two texts -/

/-- A hexadecimal digit, in either case. -/
def isHexDigit (c : Char) : Bool :=
  c.isDigit || ('a' ≤ c && c ≤ 'f') || ('A' ≤ c && c ≤ 'F')

/-- Session ids have eight hexadecimal digits. -/
def IsSessionId (id : Text) : Prop := id.length = 8 ∧ ∀ c ∈ id, isHexDigit c = true

/-- A place that the document has, and the column of it on the same line of the submitted text. -/
def CarriedPlace (suffix document : Text) (line column column' : Nat) : Prop :=
  ∃ text, (Text.lines document)[line - 1]? = some text ∧ column ≤ text.length ∧
    CarriedColumn suffix (marks (searchOrder document) text) column column'

/-- A diagnostic of the document, and the same one of the submitted text: on the same lines, with
carried columns, and with a text that is the same once the suffix is erased. -/
structure CarriedDiagnostic (suffix document : Text) (original carried : Diagnostic) : Prop where
  severity : carried.severity = original.severity
  line : carried.line = original.line
  column : CarriedPlace suffix document original.line original.column carried.column
  endLine : carried.endLine = original.endLine
  endColumn : match original.endLine, original.endColumn with
    | some line, some column => ∃ column', carried.endColumn = some column' ∧
        CarriedPlace suffix document line column column'
    | _, _ => carried.endColumn.isSome = original.endColumn.isSome
  text : eraseAll suffix carried.text = original.text

/-- A report on the document, and the same report on the submitted text. -/
structure CarriedReport (suffix document : Text) (original carried : Verification) : Prop where
  response : carried.response = original.response
  diagnostics : ∃ originals carrieds, original.diagnostics = some originals ∧
    carried.diagnostics = some carrieds ∧
      List.Forall₂ (CarriedDiagnostic suffix document) originals carrieds
  hasSorry : carried.hasSorry = original.hasSorry
  proofState : carried.proofState = original.proofState
  timedOut : carried.timedOut = original.timedOut

variable {document body : Text} {mark : Char}

/-! ### Suffixes that can be told apart -/

/-- The suffix is read nowhere in the document, stays on its line, and begins with a character that
it does not have again. -/
structure Apart (mark : Char) (body document : Text) : Prop where
  absent : ¬ mark :: body <:+: document
  single : '\n' ∉ mark :: body
  unmarked : mark ∉ body

theorem apart_suffixOf {id : Text} (hexadecimal : IsSessionId id)
    (absent : ¬ suffixOf id <:+: document) : Apart '_' ('s' :: id) document := by
  have other : ∀ c, c ≠ 's' → isHexDigit c = false → c ∉ 's' :: id := by
    intro c letter digit member
    rcases List.mem_cons.1 member with same | member
    · exact letter same
    · rw [hexadecimal.2 c member] at digit
      cases digit
  refine ⟨absent, fun newline => ?_, other '_' (by decide) (by decide)⟩
  rcases List.mem_cons.1 newline with same | member
  · exact absurd same (by decide)
  · exact other '\n' (by decide) (by decide) member

theorem infix_of_mem_lines {line : Text} (member : line ∈ Text.lines document) :
    line <:+: document := by
  obtain ⟨n, found⟩ := List.mem_iff_getElem?.1 member
  obtain ⟨before, behind, whole, -⟩ := Text.standsAt_lineOffset found
  exact ⟨before, behind, whole.symm⟩

/-! ### Places -/

theorem splitAtByte?_byteColumn (line : Text) (column : Nat) :
    Text.splitAtByte? (Text.byteColumn line column) line =
      some (line.take column, line.drop column) :=
  Text.splitAtByte?_eq_some.2 ⟨(List.take_append_drop ..).symm, rfl⟩

/-- **A carried column goes back to its place**, in bytes on both sides. -/
theorem stripColumn_placeIn (apart : Apart mark body document) {line column column' : Nat}
    (carried : CarriedPlace (mark :: body) document line column column') :
    stripColumn (mark :: body) (Text.lines (suffixNames (mark :: body) document))
        (Diagnostic.placeIn (Text.lines (suffixNames (mark :: body) document)) line column') =
      Diagnostic.placeIn (Text.lines document) line column := by
  obtain ⟨text, found, sized, carried⟩ := carried
  have clear : ¬ mark :: body <:+: (marks (searchOrder document) text).map Prod.fst := by
    rw [Renaming.map_fst_marks]
    exact fun occurs => apart.absent (occurs.trans (infix_of_mem_lines (List.mem_of_getElem? found)))
  have submitted : (Text.lines (suffixNames (mark :: body) document))[line - 1]? =
      some (put (mark :: body) (marks (searchOrder document) text)) := by
    rw [Renaming.lines_suffixNames apart.single, List.getElem?_map, found]
    rfl
  have front := Text.eraseAll_take_put apart.unmarked clear (by rwa [Renaming.length_marks]) carried
  unfold Diagnostic.placeIn stripColumn
  rw [submitted, found]
  dsimp only
  rw [Option.bind_some, splitAtByte?_byteColumn]
  dsimp only
  rw [front, Renaming.map_fst_marks]
  rfl

/-! ### Messages -/

variable {session plain : Session}

/-- **A carried diagnostic becomes the message of the original one.** -/
theorem restoreMessage_toMessage (unique : session.uniqueNames = true)
    (named : session.suffix = mark :: body) (apart : Apart mark body document)
    {original carried : Diagnostic}
    (same : CarriedDiagnostic (mark :: body) document original carried) :
    session.restoreMessage (suffixNames (mark :: body) document)
        (carried.toMessage (suffixNames (mark :: body) document)) = original.toMessage document := by
  have start := stripColumn_placeIn apart same.column
  have ended := same.endColumn
  unfold restoreMessage Diagnostic.toMessage
  rw [if_pos unique, named]
  dsimp only
  rw [same.severity, same.line, same.endLine, same.text, start]
  congr 1
  cases line : original.endLine with
  | none =>
    rw [line] at ended
    exact start
  | some line =>
    cases column : original.endColumn with
    | none =>
      rw [line, column] at ended
      have point : carried.endColumn = none := by
        rw [← Option.not_isSome_iff_eq_none, ended]
        decide
      rw [point]
      exact start
    | some column =>
      rw [line, column] at ended
      obtain ⟨column', found, place⟩ := ended
      rw [found]
      exact stripColumn_placeIn apart place

/-- A note about the whole document has no place and no name. -/
theorem restoreMessage_unplaced (unique : session.uniqueNames = true)
    (named : session.suffix = mark :: body) (submitted : Text) (severity : Severity) {text : Text}
    (clear : mark ∉ text) :
    session.restoreMessage submitted (Message.unplaced severity text) =
      Message.unplaced severity text := by
  have absent : ¬ mark :: body <:+: text := fun occurs =>
    clear (occurs.subset (List.mem_cons_self ..))
  obtain ⟨first, rest, lines⟩ := List.exists_cons_of_ne_nil (Text.lines_ne_nil submitted)
  have place : stripColumn (mark :: body) (Text.lines submitted) Position.start = Position.start := by
    have front : (Text.lines submitted)[Position.start.line]?.bind
        (Text.splitAtByte? Position.start.column) = some ([], first) := by
      rw [lines]
      exact Text.splitAtByte?_zero first
    unfold stripColumn
    rw [front]
    rfl
  unfold restoreMessage Message.unplaced
  rw [if_pos unique, named]
  dsimp only
  rw [Text.eraseAll_of_absent absent, place]

/-- The messages of a report, with the notes that it gets. -/
def withNotes (response : Text) (messages : List Message) : List Message :=
  if Text.trim response = "Success" then
    messages ++ [Message.unplaced .info "Compilation successful"]
  else if messages = [] then [Message.unplaced .info "Compilation completed"]
  else messages

theorem map_withNotes (restore : Message → Message)
    (notes : ∀ text : Text, '_' ∉ text →
      restore (Message.unplaced .info text) = Message.unplaced .info text)
    (response : Text) (messages : List Message) :
    (withNotes response messages).map restore = withNotes response (messages.map restore) := by
  unfold withNotes
  split
  · rw [List.map_append, List.map_singleton, notes _ (by decide)]
  · cases messages with
    | nil => exact congrArg (fun note => [note]) (notes _ (by decide))
    | cons first rest => rfl

theorem deriveMessages_of_diagnostics {report : Verification} {diagnostics : List Diagnostic}
    (found : report.diagnostics = some diagnostics) (source : Text) :
    deriveMessages report source =
      withNotes report.response (diagnostics.map (Diagnostic.toMessage · source)) := by
  unfold deriveMessages
  rw [found]
  rfl

/-- **The messages are the same**, their texts, their places and the notes among them. -/
theorem receivedMessages_eq (unique : session.uniqueNames = true) (off : plain.uniqueNames = false)
    (documents : plain.document = session.document) (named : session.suffix = '_' :: body)
    (apart : Apart '_' body session.document) {original carried : Verification}
    (same : CarriedReport ('_' :: body) session.document original carried) :
    session.receivedMessages carried = plain.receivedMessages original := by
  obtain ⟨originals, carrieds, foundOriginals, foundCarrieds, pairs⟩ := same.diagnostics
  have submitted : session.submission = suffixNames ('_' :: body) session.document := by
    unfold submission
    rw [if_pos unique, named]
  have shown : plain.submission = session.document := by
    unfold submission
    rw [off, documents]
    rfl
  have unchanged : plain.restoreMessage session.document = id := by
    funext message
    unfold restoreMessage
    rw [off]
    rfl
  have restored : (carrieds.map (Diagnostic.toMessage · session.submission)).map
      (session.restoreMessage session.submission) =
        originals.map (Diagnostic.toMessage · session.document) := by
    have pointwise : List.Forall₂ (· = ·) (originals.map (Diagnostic.toMessage · session.document))
        ((carrieds.map (Diagnostic.toMessage · session.submission)).map
          (session.restoreMessage session.submission)) := by
      rw [submitted, List.map_map, List.forall₂_map_left_iff, List.forall₂_map_right_iff]
      exact pairs.imp fun _ _ same => (restoreMessage_toMessage unique named apart same).symm
    rw [List.forall₂_eq_eq_eq] at pointwise
    exact pointwise.symm
  unfold receivedMessages
  rw [deriveMessages_of_diagnostics foundCarrieds, deriveMessages_of_diagnostics foundOriginals,
    map_withNotes _ fun text clear => restoreMessage_unplaced unique named _ .info clear, restored,
    shown, unchanged, List.map_id, same.response]

/-! ### Loads -/

/-- A load asks once, and then absorbs the report. -/
theorem heldWith_load (session : Session) (document : Text)
    (verifier : Respondent Text fun _ => Verification)
    (said : List (Dialogue.Exchange Text fun _ => Verification)) :
    let asked := { session with document }.submission
    let after := { session with document }.absorb (verifier said asked)
    (session.load document).heldWith verifier said =
      ((after.result (verifier said asked), after), said ++ [⟨asked, verifier said asked⟩]) := rfl

/-- **A session that renames knows what one that does not rename knows.** The first is told about its
submission what the second is told about the document, whatever both knew and heard before; and the
submission has the lines of the document, each with suffixes behind the names in it. -/
theorem load_transparent (unique : session.uniqueNames = true) (off : plain.uniqueNames = false)
    (hexadecimal : IsSessionId session.identity.sessionId) {document : Text}
    (absent : ¬ session.suffix <:+: document)
    {verifier plainVerifier : Respondent Text fun _ => Verification}
    {said plainSaid : List (Dialogue.Exchange Text fun _ => Verification)}
    (carried : CarriedReport session.suffix document (plainVerifier plainSaid document)
      (verifier said (suffixNames session.suffix document))) :
    let submitted := suffixNames session.suffix document
    let renamed := (session.load document).heldWith verifier said
    let told := (plain.load document).heldWith plainVerifier plainSaid
    renamed.2 = said ++ [⟨submitted, verifier said submitted⟩] ∧
      told.2 = plainSaid ++ [⟨document, plainVerifier plainSaid document⟩] ∧
      renamed.1.2.document = told.1.2.document ∧
      renamed.1.2.messages = told.1.2.messages ∧
      renamed.1.2.goals = told.1.2.goals ∧
      Text.lines submitted = (Text.lines document).map
        (fun line => put session.suffix (marks (searchOrder document) line)) ∧
      (Text.lines submitted).length = (Text.lines document).length ∧
      eraseAll session.suffix submitted = document := by
  have sent : { session with document }.submission = suffixNames session.suffix document :=
    if_pos unique
  have shown : { plain with document }.submission = document := if_neg (by simp [off])
  have renames : { session with document }.uniqueNames = true := unique
  have keeps : { plain with document }.uniqueNames = false := off
  have named : { session with document }.suffix = '_' :: 's' :: session.identity.sessionId := rfl
  have apart := apart_suffixOf hexadecimal absent
  have messages : { session with document }.receivedMessages
      (verifier said (suffixNames session.suffix document)) =
        { plain with document }.receivedMessages (plainVerifier plainSaid document) :=
    receivedMessages_eq renames keeps rfl named apart carried
  have lines : Text.lines (suffixNames session.suffix document) = (Text.lines document).map
      fun line => put session.suffix (marks (searchOrder document) line) :=
    Renaming.lines_suffixNames apart.single document
  have erased := Renaming.eraseAll_suffixNames apart.unmarked apart.absent
  intro submitted renamed told
  dsimp only [renamed, told]
  rw [heldWith_load, heldWith_load, sent, shown]
  refine ⟨rfl, rfl, rfl, messages, ?_, lines, ?_, erased⟩
  · show deriveGoals document _ _ = deriveGoals document _ _
    rw [messages, carried.proofState]
  · rw [lines, List.length_map]

/-- A report with one error on the first line. -/
def oneError (column stop : Nat) (text : Text) : Verification :=
  ⟨text, some [⟨.error, 1, column, some 1, some stop, text⟩], false, none, false⟩

/-- An error about the name `t` and its place, which ends behind the suffix. -/
theorem load_transparent_one_error :
    let session := fresh ⟨"5e551d01", "1257a9ce"⟩ true
    let plain := fresh ⟨"5e551d02", "1257a9ce"⟩ false
    let document : Text := "theorem t : True := by rfl"
    let verifier : Respondent Text fun _ => Verification :=
      fun _ _ => { oneError 8 19 "unknown t_s5e551d01" with response := "unknown t" }
    let plainVerifier : Respondent Text fun _ => Verification := fun _ _ => oneError 8 9 "unknown t"
    session.uniqueNames = true ∧ plain.uniqueNames = false ∧
      IsSessionId session.identity.sessionId ∧ ¬ session.suffix <:+: document ∧
      CarriedReport session.suffix document (plainVerifier [] document)
        (verifier [] (suffixNames session.suffix document)) ∧
      ((session.load document).heldWith verifier []).1.2.messages =
        ((plain.load document).heldWith plainVerifier []).1.2.messages := by
  intro session plain document verifier plainVerifier
  have digits : "5e551d01".toList.all isHexDigit = true := by decide
  have hexadecimal : IsSessionId session.identity.sessionId := ⟨rfl, List.all_eq_true.1 digits⟩
  have absent : ¬ session.suffix <:+: document := fun occurs =>
    absurd (Text.contains_iff.2 occurs) (by decide)
  have names : searchOrder document = ["t".toList] := by
    unfold searchOrder
    rw [show Source.declaredNames document = ["t".toList] by decide, List.mergeSort_singleton]
    decide
  have start : CarriedPlace session.suffix document 1 8 8 :=
    ⟨document, rfl, by decide, .inl (by rw [names]; decide)⟩
  have stop : CarriedPlace session.suffix document 1 9 19 :=
    ⟨document, rfl, by decide, .inl (by rw [names]; decide)⟩
  have error : CarriedDiagnostic session.suffix document
      ⟨.error, 1, 8, some 1, some 9, "unknown t"⟩
      ⟨.error, 1, 8, some 1, some 19, "unknown t_s5e551d01"⟩ :=
    ⟨rfl, rfl, start, rfl, ⟨19, rfl, stop⟩, by decide⟩
  have carried : CarriedReport session.suffix document (plainVerifier [] document)
      (verifier [] (suffixNames session.suffix document)) :=
    ⟨rfl, ⟨_, _, rfl, rfl, .cons error .nil⟩, rfl, rfl, rfl⟩
  exact ⟨rfl, rfl, hexadecimal, absent, carried,
    (load_transparent rfl rfl hexadecimal absent carried).2.2.2.1⟩

end Session
end ProofDesk
