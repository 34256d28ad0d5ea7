import ProofDesk.Clause.Basic
import ProofDesk.Clause.Reading
import ProofDesk.Source.Placeholder

/-!
# The clauses of a document

One pass over the lines of a document finds its editable clauses. A declaration opens a header,
`:= by` in the header opens a proof, and a command in the first column closes it.

* `lineClauses` — the clauses of one line, and the context of the next.
* `scan` — the clauses of a document, in document order.
* `freshId` — an id that is not taken; `freshId_not_mem` says so.
-/

namespace ProofDesk
namespace Clause

/-- Where a line stands. -/
inductive Context
  /-- Outside declarations. -/
  | outside
  /-- In the signature of a declaration. -/
  | header
  /-- In a tactic proof. -/
  | proof
  deriving DecidableEq, Repr

/-- The context in which a line with this code is read. -/
def Context.enter (context : Context) (code : Text) : Context :=
  let stripped := Text.trim code
  if startsDeclaration stripped then .header
  else if context = .proof ∧ Text.indentation code = [] ∧ isTopLevelCommand stripped = true then
    .outside
  else context

/-! ### Ids -/

/-- A base with a number behind it. -/
def withNumber (base : Text) (n : Nat) : Text := base ++ "_" ++ Text.decimal n

/-- The id of a clause of a category, when `count` clauses come before it. -/
def numberedId (category : Category) (count : Nat) : Text := withNumber category.name count

theorem withNumber_inj {base : Text} {m n : Nat} (same : withNumber base m = withNumber base n) :
    m = n :=
  Text.decimal_inj (List.append_cancel_left same)

/-- The first of `base`, `base_n`, `base_(n+1)`, … that is not taken, where `n` is the number of
ids taken. -/
def freshId (base : Text) (taken : List Text) : Text :=
  if base ∈ taken then
    (((List.range (taken.length + 1)).map fun k => withNumber base (taken.length + k)).find?
      fun id => id ∉ taken).getD base
  else base

/-- Among `count` ids with different numbers, `count` are taken only if so many are taken at all. -/
theorem le_length_of_withNumber_mem {base : Text} {count first : Nat} {taken : List Text}
    (covered : ∀ k < count, withNumber base (first + k) ∈ taken) : count ≤ taken.length := by
  induction count generalizing first taken with
  | zero => exact Nat.zero_le _
  | succ count ih =>
    have here : withNumber base first ∈ taken := covered 0 (Nat.succ_pos count)
    have others : ∀ k < count,
        withNumber base (first + 1 + k) ∈ taken.erase (withNumber base first) := by
      intro k small
      have apart : withNumber base (first + 1 + k) ≠ withNumber base first := by
        intro same
        have := withNumber_inj same
        omega
      rw [List.mem_erase_of_ne apart, Nat.add_assoc, Nat.add_comm 1 k]
      exact covered (k + 1) (Nat.succ_lt_succ small)
    have rest := ih others
    rw [List.length_erase_of_mem here] at rest
    have := List.length_pos_of_mem here
    omega

/-- A fresh id is not taken. -/
theorem freshId_not_mem (base : Text) (taken : List Text) : freshId base taken ∉ taken := by
  unfold freshId
  split
  · cases found : ((List.range (taken.length + 1)).map fun k =>
        withNumber base (taken.length + k)).find? fun id => id ∉ taken with
    | some id => simpa using List.find?_some found
    | none =>
      have covered : ∀ k < taken.length + 1, withNumber base (taken.length + k) ∈ taken := by
        intro k small
        have member : withNumber base (taken.length + k) ∈
            (List.range (taken.length + 1)).map fun k => withNumber base (taken.length + k) :=
          List.mem_map_of_mem (List.mem_range.2 small)
        simpa using List.find?_eq_none.1 found _ member
      have := le_length_of_withNumber_mem covered
      omega
  · next free => exact free

/-! ### Lines -/

/-- One clause for each placeholder column of a line. -/
def placeholderClauses (count line : Nat) (columns : List Nat) : List Clause :=
  columns.zipIdx.map fun (column, k) =>
    place (numberedId .placeholder (count + k)) .placeholder line column Source.sorryWord

/-- The clauses of a line of a header. -/
def headerClauses (count line : Nat) (scan : Source.LineScan) : Context × List Clause :=
  match Text.breakOn? Source.tacticSign scan.code with
  | some (before, rest) =>
    let column := Text.size before + Text.size Source.tacticSign
    let later := scan.sorries.filter (column ≤ ·)
    if later = [] then
      let (start, content) := trimmedAt column rest
      (.proof, if content = [] then [] else
        [place (numberedId .mainProof count) .mainProof line start content])
    else (.proof, placeholderClauses count line later)
  | none =>
    if Text.contains Source.proofSign scan.code then
      (.outside, placeholderClauses count line scan.sorries)
    else (.header, [])

/-- The clauses of a line of a proof; the remark at its end belongs to a line that is replaced
whole. -/
def proofClauses (taken : List Text) (line : Nat) (text : Text) (scan : Source.LineScan) :
    List Clause :=
  let code := scan.code
  let indent := Text.indentation code
  match HaveLine.ofCode? code with
  | some fact =>
    let (start, content) := trimmedAt (Text.size code - Text.size fact.proof) fact.proof
    [place (freshId ("have_" ++ fact.name) taken) .haveProof line start content]
  | none =>
    if scan.sorries = [] then
      match Text.after? (Source.byWord ++ [' ']) (Text.trim code) with
      | some _ =>
        let (start, content) :=
          trimmedAt (Text.size indent + 3) ((Text.trimStart code).drop 3)
        [place (numberedId .tacticBlock taken.length) .tacticBlock line start content]
      | none =>
        let category := if isTacticLine (Text.trim code) then Category.tactic else .proofLine
        let (start, content) := trimmedAt (Text.size indent) (text.drop indent.length)
        [place (numberedId category taken.length) category line start content]
    else placeholderClauses taken.length line scan.sorries

/-- The clauses of a line, and the context in which the next line is read. -/
def lineClauses (context : Context) (taken : List Text) (line : Nat) (text : Text)
    (scan : Source.LineScan) : Context × List Clause :=
  if scan.hasCode then
    match context.enter scan.code with
    | .outside => (.outside, [])
    | .header => headerClauses taken.length line scan
    | .proof => (.proof, proofClauses taken line text scan)
  else (context, [])

/-- The clauses of scanned lines, the first of them having number `line`. -/
def scanFrom (context : Context) (taken : List Text) (line : Nat) :
    List (Text × Source.LineScan) → List Clause
  | [] => []
  | (text, scan) :: rest =>
    let (context, clauses) := lineClauses context taken line text scan
    clauses ++ scanFrom context (taken ++ clauses.map Clause.id) (line + 1) rest

/-- The editable clauses of a document, in document order. -/
def scan (document : Text) : List Clause :=
  scanFrom .outside [] 0 (Source.scanLines 0 (Text.lines document))

end Clause
end ProofDesk
