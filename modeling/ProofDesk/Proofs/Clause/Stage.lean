import ProofDesk.Proofs.Clause.Span
import ProofDesk.Proofs.Source.Mode

/-!
# The scan line by line

What a line holds depends on the lines before it only through the stage that they lead to: the
context, the ids that are taken, and the number of open block comments. So a line that is replaced
is read at the same stage.

* `Stage.clausesOf` and `Stage.next` — the clauses of one line, and the stage of the line after it.
* `Stage.before` — the stage of a line of a document.
* `mem_scan_iff` — the clauses of a document are those that its lines hold at their stages.
* `before_joinLines_set` — the stage of a line does not depend on the line.
-/

namespace ProofDesk
namespace Clause

open Source (LineScan scanLine scanLines)

/-- What the reading of a line depends on besides the line. -/
structure Stage where
  context : Context
  /-- The ids of the clauses before. -/
  taken : List Text
  /-- The number of open block comments. -/
  depth : Nat

namespace Stage

variable {stage : Stage} {n k : Nat} {line : Text} {front rest all : List Text} {clause : Clause}

/-- The stage at the beginning of a document. -/
def start : Stage := ⟨.outside, [], 0⟩

/-- The clauses of line number `n`. -/
def clausesOf (stage : Stage) (n : Nat) (line : Text) : List Clause :=
  (lineClauses stage.context stage.taken n line (scanLine stage.depth line)).2

/-- The stage of the line behind line number `n`. -/
def next (stage : Stage) (n : Nat) (line : Text) : Stage where
  context := (lineClauses stage.context stage.taken n line (scanLine stage.depth line)).1
  taken := stage.taken ++ (stage.clausesOf n line).map Clause.id
  depth := (scanLine stage.depth line).depth

/-- The stage behind lines, the first of them having number `n`. -/
def through : Stage → (n : Nat) → List Text → Stage
  | stage, _, [] => stage
  | stage, n, line :: rest => (stage.next n line).through (n + 1) rest

/-- The stage at which line number `n` of a document is read. -/
def before (document : Text) (n : Nat) : Stage := start.through 0 ((Text.lines document).take n)

theorem depth_through (stage : Stage) (n : Nat) (front : List Text) :
    (stage.through n front).depth = Source.depthAfter stage.depth front := by
  induction front generalizing stage n with
  | nil => rfl
  | cons line front ih => exact ih ..

theorem depth_before (document : Text) (n : Nat) :
    (before document n).depth = Source.depthAfter 0 ((Text.lines document).take n) :=
  depth_through ..

theorem through_append (stage : Stage) (n : Nat) (front rest : List Text) :
    stage.through n (front ++ rest) = (stage.through n front).through (n + front.length) rest := by
  induction front generalizing stage n with
  | nil => rfl
  | cons line front ih =>
    rw [List.cons_append, through, ih, List.length_cons, Nat.add_assoc n, Nat.add_comm 1]
    rfl

/-- **One line on.** -/
theorem before_succ {document : Text} (found : (Text.lines document)[n]? = some line) :
    before document (n + 1) = (before document n).next n line := by
  have short := (List.getElem?_eq_some_iff.1 found).1
  unfold before
  rw [List.take_add_one, found, Option.toList_some, through_append, List.length_take,
    Nat.min_eq_left (Nat.le_of_lt short), Nat.zero_add]
  rfl

/-- The clauses of the lines of a scan are those of the first line and those of the others. -/
theorem scanFrom_cons (stage : Stage) (n : Nat) (line : Text) (rest : List Text) :
    scanFrom stage.context stage.taken n (scanLines stage.depth (line :: rest)) =
      stage.clausesOf n line ++ scanFrom (stage.next n line).context (stage.next n line).taken (n + 1)
        (scanLines (stage.next n line).depth rest) := rfl

/-- **Lines one after the other**, the stage handed on. -/
theorem scanFrom_append (stage : Stage) (n : Nat) (front rest : List Text) :
    scanFrom stage.context stage.taken n (scanLines stage.depth (front ++ rest)) =
      scanFrom stage.context stage.taken n (scanLines stage.depth front) ++
        scanFrom (stage.through n front).context (stage.through n front).taken
          (n + front.length) (scanLines (stage.through n front).depth rest) := by
  induction front generalizing stage n with
  | nil => rfl
  | cons line front ih =>
    rw [List.cons_append, scanFrom_cons, ih, scanFrom_cons, List.append_assoc, List.length_cons,
      Nat.add_right_comm, ← Nat.add_assoc]
    rfl

theorem exists_line_of_mem_scanFrom
    (member : clause ∈ scanFrom stage.context stage.taken n (scanLines stage.depth all)) :
    ∃ k line, all[k]? = some line ∧
      clause ∈ (stage.through n (all.take k)).clausesOf (n + k) line := by
  induction all generalizing stage n with
  | nil => cases member
  | cons first rest ih =>
    rw [scanFrom_cons] at member
    rcases List.mem_append.1 member with here | later
    · exact ⟨0, first, rfl, here⟩
    · obtain ⟨k, line, found, inside⟩ := ih later
      refine ⟨k + 1, line, found, ?_⟩
      rwa [← Nat.add_assoc, Nat.add_right_comm]

/-- A clause of a line is on that line. -/
theorem onLine_of_mem_clausesOf (member : clause ∈ stage.clausesOf n line) : OnLine n line clause := by
  have fit := piecesFit_scanLine stage.depth line
  exact (lineShape_lineClauses fit stage.context stage.taken).onLine fit clause member

end Stage

/-! ### Documents -/

variable {document line new : Text} {clause : Clause} {n : Nat}

/-- **The clauses of a document** are those that its lines hold at their stages. -/
theorem mem_scan_iff : clause ∈ scan document ↔
    ∃ line, (Text.lines document)[clause.start.line]? = some line ∧
      clause ∈ (Stage.before document clause.start.line).clausesOf clause.start.line line := by
  constructor
  · intro member
    have scanned : clause ∈ scanFrom Stage.start.context Stage.start.taken 0
        (scanLines Stage.start.depth (Text.lines document)) := member
    obtain ⟨k, line, found, inside⟩ := Stage.exists_line_of_mem_scanFrom scanned
    rw [Nat.zero_add] at inside
    have number := (Stage.onLine_of_mem_clausesOf inside).start
    rw [number]
    exact ⟨line, found, inside⟩
  · rintro ⟨line, found, inside⟩
    obtain ⟨short, same⟩ := List.getElem?_eq_some_iff.1 found
    have split : Text.lines document = (Text.lines document).take clause.start.line ++
        line :: (Text.lines document).drop (clause.start.line + 1) := by
      rw [← same, List.getElem_cons_drop, List.take_append_drop]
    have whole := Stage.scanFrom_append Stage.start 0 ((Text.lines document).take clause.start.line)
      (line :: (Text.lines document).drop (clause.start.line + 1))
    rw [← split, List.length_take, Nat.min_eq_left (Nat.le_of_lt short), Nat.zero_add] at whole
    have scanned : scan document = _ := whole
    rw [scanned, Stage.scanFrom_cons]
    exact List.mem_append_right _ (List.mem_append_left _ inside)

theorem lines_joinLines_set (single : '\n' ∉ new) :
    Text.lines (Text.joinLines ((Text.lines document).set n new)) =
      (Text.lines document).set n new := by
  refine Text.lines_joinLines ?_ ?_
  · rw [Ne, List.set_eq_nil_iff]
    exact Text.lines_ne_nil document
  · intro line member
    rcases List.mem_or_eq_of_mem_set member with old | rfl
    · exact Text.not_mem_of_mem_lines old
    · exact single

/-- **The stage of a line does not depend on the line.** -/
theorem before_joinLines_set (single : '\n' ∉ new) :
    Stage.before (Text.joinLines ((Text.lines document).set n new)) n = Stage.before document n := by
  unfold Stage.before
  rw [lines_joinLines_set single, List.take_set, List.set_eq_of_length_le]
  rw [List.length_take]
  exact Nat.min_le_left ..

end Clause
end ProofDesk
