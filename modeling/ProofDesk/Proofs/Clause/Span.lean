import ProofDesk.Clause.Scan
import ProofDesk.Proofs.Source.Placeholder

/-!
# The spans of scanned clauses

A span comes from a placeholder, from the text behind `:= by`, from the proof of a `have` line, from
what follows `by`, or from a whole line. Each is a piece of its line, whatever the line holds.

* `PiecesFit` — every piece that the scan cuts out of a line is there, on characters;
  `piecesFit_scanLine` proves it for every line and depth.
* `LineShape` — what a line can hold; `lineShape_lineClauses` proves it for every context.
* `OnLine` — the span of a clause is a piece of its line; `exists_onLine_of_mem_scan` proves it for
  the clauses of a document.
* `EndsBefore` — the order of clauses; `pairwise_scan` proves it for a document.
* `clauseMap_wellFormed` — the clause map of a document fits the document.
-/

namespace ProofDesk
namespace Clause

open Text (StandsAt size slice? suffix_of_after? trimStart_suffix)
open Source (LineScan scanLine scanLines sorryWord)

/-! ### What a reading leaves over -/

theorem suffix_of_proofAfterAssign? {t body : Text} (found : proofAfterAssign? t = some body) :
    body <:+ t := by
  unfold proofAfterAssign? at found
  obtain ⟨rest, assign, found⟩ := Option.bind_eq_some_iff.1 found
  obtain ⟨body', tactics, found⟩ := Option.bind_eq_some_iff.1 found
  split at found
  · cases found
  · cases found
    exact (suffix_of_after? tactics).trans
      ((trimStart_suffix rest).trans (suffix_of_after? assign))

theorem suffix_of_firstProof? {t body : Text} (found : firstProof? t = some body) : body <:+ t := by
  induction t with
  | nil => cases found
  | cons c rest ih =>
    rw [firstProof?, Option.or_eq_some_iff] at found
    rcases found with here | ⟨-, later⟩
    · exact suffix_of_proofAfterAssign? here
    · exact (ih later).trans (List.suffix_cons c rest)

/-- The proof of a `have` line is the end of its code. -/
theorem HaveLine.suffix_of_ofCode? {code : Text} {fact : HaveLine}
    (found : HaveLine.ofCode? code = some fact) : fact.proof <:+ code := by
  unfold HaveLine.ofCode? at found
  obtain ⟨afterHave, keyword, found⟩ := Option.bind_eq_some_iff.1 found
  obtain ⟨typed, colon, found⟩ := Option.bind_eq_some_iff.1 found
  obtain ⟨proof, assigned, found⟩ := Option.bind_eq_some_iff.1 found
  split at found
  · cases found
  · cases found
    have named := (trimStart_suffix afterHave).trans
      ((suffix_of_after? keyword).trans (trimStart_suffix code))
    have typedEnds := (suffix_of_after? colon).trans
      ((trimStart_suffix _).trans ((List.dropWhile_suffix _).trans named))
    exact (suffix_of_firstProof? assigned).trans typedEnds

/-- The end of a part is cut out of the whole at the same offsets. -/
theorem slice?_of_eq_append {front rest part : Text} (cut : part = front ++ rest) (tail : Text) :
    slice? (size front) (size part) (part ++ tail) = some rest := by
  rw [cut, Text.size_append]
  exact ((StandsAt.behind front rest).append tail).slice?

/-! ### The pieces of one line -/

/-- **Every piece that the scan cuts out of a line is there.** A slice has a value only when its two
offsets are in order, in range and on characters. -/
structure PiecesFit (line : Text) (scan : LineScan) : Prop where
  /-- The line up to its remark. -/
  code : slice? 0 scan.codeEnd line = some scan.code
  /-- The placeholders. -/
  sorries : ∀ column ∈ scan.sorries,
    slice? column (column + size sorryWord) line = some sorryWord
  /-- The text behind `:= by`. -/
  mainProof : ∀ before rest, Text.breakOn? Source.tacticSign scan.code = some (before, rest) →
    slice? (size before + size Source.tacticSign) scan.codeEnd line = some rest
  /-- The proof of a `have` line. -/
  haveProof : ∀ fact, HaveLine.ofCode? scan.code = some fact →
    slice? (size scan.code - size fact.proof) scan.codeEnd line = some fact.proof
  /-- The text behind `by` at the beginning of a line. -/
  tacticBlock : ∀ rest, Text.after? (Source.byWord ++ [' ']) (Text.trim scan.code) = some rest →
    slice? (size (Text.indentation scan.code) + 3) scan.codeEnd line =
      some ((Text.trimStart scan.code).drop 3)
  /-- The line without its indentation. -/
  proofLine : slice? (size (Text.indentation scan.code)) (size line) line =
    some (line.drop (Text.indentation scan.code).length)

/-- What follows `by` and a blank, when trimmed code begins with them. -/
theorem eq_append_of_afterBy {code rest : Text}
    (found : Text.after? (Source.byWord ++ [' ']) (Text.trim code) = some rest) :
    code = Text.indentation code ++ (Source.byWord ++ [' ']) ++ (Text.trimStart code).drop 3 := by
  obtain ⟨tail, -, whole⟩ := Text.exists_trim_append code
  rw [Text.after?_eq_some.1 found] at whole
  calc code = Text.indentation code ++ Text.trimStart code :=
        (Text.indentation_append_trimStart code).symm
    _ = _ := by
      rw [whole]
      simp [Source.byWord]

/-- The code and the remark of a line are the indentation and the rest. -/
theorem append_eq_indentation_append (code tail : Text) :
    code ++ tail = Text.indentation code ++ (code ++ tail).drop (Text.indentation code).length := by
  have split : code ++ tail = Text.indentation code ++ (Text.trimStart code ++ tail) := by
    rw [← List.append_assoc, Text.indentation_append_trimStart]
  have behind : (code ++ tail).drop (Text.indentation code).length =
      Text.trimStart code ++ tail := by
    rw [split, List.drop_left]
  rw [behind]
  exact split

theorem piecesFit_scanLine (depth : Nat) (line : Text) : PiecesFit line (scanLine depth line) := by
  obtain ⟨remark, whole⟩ := Source.exists_code_append depth line
  have inCode : ∀ {front rest}, (scanLine depth line).code = front ++ rest →
      slice? (size front) (scanLine depth line).codeEnd line = some rest := by
    intro front rest cut
    have stands := slice?_of_eq_append cut remark
    rwa [← whole] at stands
  constructor
  · have all : (scanLine depth line).code = [] ++ (scanLine depth line).code := rfl
    exact inCode all
  · intro column member
    exact (Source.standsAt_of_mem_sorries member).slice?
  · intro before rest found
    rw [← Text.size_append]
    exact inCode (Text.eq_of_breakOn? found)
  · intro fact found
    obtain ⟨front, cut⟩ := HaveLine.suffix_of_ofCode? found
    have behind : size (scanLine depth line).code - size fact.proof = size front := by
      rw [← cut, Text.size_append, Nat.add_sub_cancel]
    rw [behind]
    exact inCode cut.symm
  · intro rest found
    have behind : size (Text.indentation (scanLine depth line).code) + 3 =
        size (Text.indentation (scanLine depth line).code ++ (Source.byWord ++ [' '])) := by
      rw [Text.size_append]
      rfl
    rw [behind]
    exact inCode (eq_append_of_afterBy found)
  · have cut := append_eq_indentation_append (scanLine depth line).code remark
    rw [← whole] at cut
    simpa using slice?_of_eq_append cut []

/-! ### The clauses of one line -/

section Line

/-- The span of the clause is a piece of line number `n`, and the clause holds that piece. -/
structure OnLine (n : Nat) (line : Text) (clause : Clause) : Prop where
  start : clause.start.line = n
  stop : clause.stop = ⟨n, clause.start.column + size clause.content⟩
  stands : StandsAt clause.content clause.start.column line

/-- The order of clauses. Only placeholders share a line. -/
def EndsBefore (earlier later : Clause) : Prop :=
  earlier.stop.line < later.start.line ∨
    earlier.stop.line = later.start.line ∧ earlier.stop.column < later.start.column ∧
      earlier.category = .placeholder ∧ later.category = .placeholder

variable {n count : Nat} {line : Text}

theorem pairwise_placeholderClauses {columns : List Nat}
    (apart : columns.Pairwise fun earlier later => earlier + 5 < later) :
    (placeholderClauses count n columns).Pairwise EndsBefore := by
  unfold placeholderClauses
  rw [List.pairwise_map]
  have pairs := List.pairwise_map.1 ((List.zipIdx_map_fst 0 columns).symm ▸ apart)
  refine pairs.imp fun {first second} gap => .inr ⟨rfl, ?_, rfl, rfl⟩
  show first.1 + size sorryWord < second.1
  rw [Source.size_sorryWord]
  exact gap

/-- **What a line can hold**: nothing, some of its placeholders, or one trimmed piece. -/
inductive LineShape (n : Nat) (line : Text) (scan : LineScan) : List Clause → Prop
  | nothing : LineShape n line scan []
  | placeholders (count : Nat) {columns : List Nat} (found : columns.Sublist scan.sorries) :
      LineShape n line scan (placeholderClauses count n columns)
  | piece (id : Text) {category : Category} (other : category ≠ .placeholder)
      {column last : Nat} {piece : Text} (cut : slice? column last line = some piece) :
      LineShape n line scan
        [place id category n (trimmedAt column piece).1 (trimmedAt column piece).2]

variable {context : Context} {taken : List Text} {scan : LineScan}

theorem lineShape_headerClauses (fit : PiecesFit line scan) (count : Nat) :
    LineShape n line scan (headerClauses count n scan).2 := by
  unfold headerClauses
  split
  · next before rest found =>
    dsimp only
    split
    · dsimp only
      split
      · exact .nothing
      · exact .piece _ (by decide) (fit.mainProof before rest found)
    · exact .placeholders count List.filter_sublist
  · split
    · exact .placeholders count (List.Sublist.refl _)
    · exact .nothing

theorem lineShape_proofClauses (fit : PiecesFit line scan) (taken : List Text) :
    LineShape n line scan (proofClauses taken n line scan) := by
  unfold proofClauses
  dsimp only
  split
  · next fact found => exact .piece _ (by decide) (fit.haveProof fact found)
  · split
    · split
      · next rest found => exact .piece _ (by decide) (fit.tacticBlock rest found)
      · refine .piece _ ?_ fit.proofLine
        split <;> decide
    · exact .placeholders _ (List.Sublist.refl _)

/-- **One line of the scan**, whatever context it is read in. -/
theorem lineShape_lineClauses (fit : PiecesFit line scan) (context : Context)
    (taken : List Text) : LineShape n line scan (lineClauses context taken n line scan).2 := by
  unfold lineClauses
  split
  · split
    · exact .nothing
    · exact lineShape_headerClauses fit _
    · exact lineShape_proofClauses fit _
  · exact .nothing

namespace LineShape

variable {clauses : List Clause}

/-- **The clauses of a line lie on it.** -/
theorem onLine (shape : LineShape n line scan clauses) (fit : PiecesFit line scan) :
    ∀ clause ∈ clauses, OnLine n line clause := by
  cases shape with
  | nothing => exact fun _ member => nomatch member
  | placeholders count found =>
    intro clause member
    obtain ⟨⟨column, k⟩, inside, rfl⟩ := List.mem_map.1 member
    have reported := found.subset (List.fst_mem_of_mem_zipIdx inside)
    exact ⟨rfl, rfl, (Text.slice?_eq_some.1 (fit.sorries column reported)).1⟩
  | piece id other cut =>
    intro clause member
    obtain rfl := List.mem_singleton.1 member
    exact ⟨rfl, rfl, (Text.slice?_eq_some.1 cut).1.trimmed⟩

/-- **The clauses of a line come in order.** -/
theorem pairwise (shape : LineShape n line scan clauses)
    (apart : scan.sorries.Pairwise fun earlier later => earlier + 5 < later) :
    clauses.Pairwise EndsBefore := by
  cases shape with
  | nothing => exact .nil
  | placeholders count found => exact pairwise_placeholderClauses (apart.sublist found)
  | piece id other cut => exact List.pairwise_singleton _ _

end LineShape

end Line

/-! ### The clauses of a document -/

section Document

/-- What the scan of a line promises to the clauses found in it. -/
structure Scanned (line : Text) (scan : LineScan) : Prop where
  fit : PiecesFit line scan
  apart : scan.sorries.Pairwise fun earlier later => earlier + 5 < later

theorem scanned_of_mem_scanLines {depth : Nat} {all : List Text} {line : Text} {scan : LineScan}
    (member : (line, scan) ∈ scanLines depth all) : Scanned line scan := by
  obtain ⟨inside, rfl⟩ := Source.exists_depth_of_mem_scanLines member
  exact ⟨piecesFit_scanLine inside line, Source.pairwise_sorries inside line⟩

variable {n : Nat} {line : Text} {context : Context} {taken : List Text} {clause : Clause}
  {scanned : List (Text × LineScan)}

/-- Every clause lies on the line whose number it tells. -/
theorem exists_onLine_of_mem_scanFrom (sound : ∀ pair ∈ scanned, Scanned pair.1 pair.2)
    (member : clause ∈ scanFrom context taken n scanned) :
    ∃ k line, (scanned.map Prod.fst)[k]? = some line ∧ OnLine (n + k) line clause := by
  induction scanned generalizing context taken n with
  | nil => cases member
  | cons pair rest ih =>
    obtain ⟨line, scan⟩ := pair
    have here := sound (line, scan) List.mem_cons_self
    rcases List.mem_append.1 member with first | later
    · have shape := lineShape_lineClauses (n := n) here.fit context taken
      exact ⟨0, line, rfl, shape.onLine here.fit clause first⟩
    · obtain ⟨k, line', found, lies⟩ :=
        ih (fun pair inside => sound pair (List.mem_cons_of_mem _ inside)) later
      refine ⟨k + 1, line', found, ?_⟩
      rwa [show n + (k + 1) = n + 1 + k by omega]

theorem pairwise_scanFrom (sound : ∀ pair ∈ scanned, Scanned pair.1 pair.2) :
    (scanFrom context taken n scanned).Pairwise EndsBefore := by
  induction scanned generalizing context taken n with
  | nil => exact .nil
  | cons pair rest ih =>
    obtain ⟨line, scan⟩ := pair
    have here := sound (line, scan) List.mem_cons_self
    have others := fun pair inside => sound pair (List.mem_cons_of_mem _ inside)
    have shape := lineShape_lineClauses (n := n) here.fit context taken
    refine List.pairwise_append.2 ⟨shape.pairwise here.apart, ih others, ?_⟩
    intro earlier first later inside
    have lies := shape.onLine here.fit earlier first
    obtain ⟨k, line', -, below⟩ := exists_onLine_of_mem_scanFrom others inside
    left
    rw [lies.stop, below.start]
    show n < n + 1 + k
    omega

/-- **Every clause of a document is a piece of its line.** -/
theorem exists_onLine_of_mem_scan {document : Text} (member : clause ∈ scan document) :
    ∃ line, (Text.lines document)[clause.start.line]? = some line ∧
      OnLine clause.start.line line clause := by
  obtain ⟨k, line, found, lies⟩ := exists_onLine_of_mem_scanFrom
    (fun pair inside => scanned_of_mem_scanLines inside) member
  have number : clause.start.line = k := lies.start.trans (Nat.zero_add k)
  rw [Source.map_fst_scanLines] at found
  rw [number]
  exact ⟨line, found, Nat.zero_add k ▸ lies⟩

theorem pairwise_scan (document : Text) : (scan document).Pairwise EndsBefore :=
  pairwise_scanFrom fun _ inside => scanned_of_mem_scanLines inside

/-! ### The clause map fits its document -/

/-- A clause cuts its content out of its line. -/
theorem OnLine.within? {line : Text} (lies : OnLine n line clause) :
    ∃ before behind, line = before ++ clause.content ++ behind ∧
      size before = clause.start.column ∧
      clause.within? line = some (before, clause.content, behind) := by
  obtain ⟨before, behind, whole, sized⟩ := lies.stands
  refine ⟨before, behind, whole, sized, ?_⟩
  unfold Clause.within?
  rw [lies.stop]
  show (if clause.start.column ≤ clause.start.column + size clause.content then _ else _) = _
  rw [if_pos (Nat.le_add_right _ _), whole, List.append_assoc, ← sized]
  rw [Text.splitAtByte?_size_append]
  show (Text.splitAtByte? (size before + size clause.content - size before) _).bind _ = _
  rw [Nat.add_sub_cancel_left, Text.splitAtByte?_size_append]
  rfl

/-- The bytes of a clause that lies on a line of the document. -/
theorem OnLine.byteRange? {document line : Text}
    (found : (Text.lines document)[clause.start.line]? = some line)
    (lies : OnLine clause.start.line line clause) :
    clause.byteRange? document =
      some (lineOffset (Text.lines document) clause.start.line + clause.start.column,
        lineOffset (Text.lines document) clause.start.line + clause.start.column +
          size clause.content) := by
  obtain ⟨before, behind, -, -, cut⟩ := lies.within?
  have stop := lies.stop
  unfold Clause.byteRange?
  dsimp only
  rw [found, stop, Nat.add_assoc]
  show (clause.within? line).bind _ = _
  rw [cut]
  rfl

/-- Clauses in order have disjoint byte ranges in order. -/
theorem EndsBefore.byteRange?_lt {document : Text} {earlier later : Clause}
    (first : earlier ∈ scan document) (second : later ∈ scan document)
    (order : EndsBefore earlier later) {range range' : Nat × Nat}
    (found : earlier.byteRange? document = some range)
    (found' : later.byteRange? document = some range') : range.2 < range'.1 := by
  obtain ⟨line, here, lies⟩ := exists_onLine_of_mem_scan first
  obtain ⟨line', there, lies'⟩ := exists_onLine_of_mem_scan second
  rw [lies.byteRange? here] at found
  rw [lies'.byteRange? there] at found'
  cases found
  cases found'
  have within := lies.stands.add_size_le
  rcases order with above | ⟨same, before, -, -⟩
  · rw [lies.stop] at above
    have apart := Text.lineOffset_add_size_lt here above (List.getElem?_eq_some_iff.1 there).1
    show lineOffset _ _ + _ + _ < lineOffset _ _ + _
    omega
  · rw [lies.stop] at same before
    dsimp only at same before ⊢
    rw [same]
    omega

/-- **The clause map of a document is well formed.** Every clause lies on one line, its byte range
cuts its content out of the document and stays inside that line; the clauses come in order, each
ending before the next one begins, and only placeholders share a line; and no piece that the scan
cuts out of a line is out of range or begins or ends inside a character. -/
theorem clauseMap_wellFormed (document : Text) :
    (∀ clause ∈ scan document, clause.start.line = clause.stop.line ∧
      ∃ line first last, (Text.lines document)[clause.start.line]? = some line ∧
        clause.byteRange? document = some (first, last) ∧
        slice? first last document = some clause.content ∧
        lineOffset (Text.lines document) clause.start.line ≤ first ∧
        last ≤ lineOffset (Text.lines document) clause.start.line + size line) ∧
    ((scan document).Pairwise fun earlier later => EndsBefore earlier later ∧
      ∀ range range', earlier.byteRange? document = some range →
        later.byteRange? document = some range' → range.2 < range'.1) ∧
    ∀ line found, (line, found) ∈ scanLines 0 (Text.lines document) → PiecesFit line found := by
  refine ⟨fun clause member => ?_, ?_, fun line found member =>
    (scanned_of_mem_scanLines member).fit⟩
  · obtain ⟨line, found, lies⟩ := exists_onLine_of_mem_scan member
    have stands := lies.stands.trans (Text.standsAt_lineOffset found)
    have within := lies.stands.add_size_le
    refine ⟨by rw [lies.stop], line, _, _, found, lies.byteRange? found, stands.slice?, ?_, ?_⟩
    · omega
    · omega
  · refine (pairwise_scan document).imp_of_mem fun first second order => ⟨order, ?_⟩
    intro range range' found found'
    exact order.byteRange?_lt first second found found'

end Document

end Clause
end ProofDesk
