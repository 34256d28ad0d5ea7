import Mathlib.Data.List.Pairwise
import Mathlib.Data.Nat.Init
import ProofDesk.Proofs.Clause.Stage
import ProofDesk.Proofs.Source.Places

/-!
# The placeholders of tactic proofs

A declaration opens a header, and the first `:= by` of the header opens its proof. From there to the
next declaration or command the scan stays in the proof, so each placeholder is in a clause: it is a
clause of its own, or it lies in the proof of a `have` line. What such a line states is no clause.

The scan leaves a header too early when a line in front of the `:= by` has another `:=`, such as that of
a default value. Then the proof behind the `:= by` has no clauses at all.

The lines here are those of the scan, each up to its remark.

* `TacticProof` — where a declaration begins, and where its first `:= by` ends.
* `Inside` — a place behind the `:= by`, before the next declaration or command.
* `context_before_of_header` and `context_before_of_proof` — the context in which a line is read.
* `Covers` — the span of a clause contains the placeholder at a place; `eq_of_covers` says that at most
  one clause does.
* `exists_covers` — one clause does, behind a `PlainHeader` and unless the place is `InStatement` of a
  `have` line.
* `not_covers` and `not_covers_of_left` — otherwise no clause does.
-/

namespace ProofDesk
namespace Clause

open Source (LineScan placeholders proofSign scanLine scanLines sorryWord tacticSign)
open Text (size)

variable {document line : Text} {n k declared opened column : Nat} {place : Position}
  {scan : LineScan} {stage : Stage} {clause other : Clause}

/-! ### The lines of a document as the scan reads them -/

/-- The scan of line number `n`. -/
def scanOf? (document : Text) (n : Nat) : Option LineScan :=
  (scanLines 0 (Text.lines document))[n]?.map Prod.snd

/-- The line has code and begins a declaration. -/
def declares (scan : LineScan) : Bool := scan.hasCode && startsDeclaration (Text.trim scan.code)

/-- The line has code and begins with a command in the first column. -/
def commands (scan : LineScan) : Bool :=
  scan.hasCode && (Text.indentation scan.code).isEmpty && isTopLevelCommand (Text.trim scan.code)

theorem getElem?_scanLines (depth n : Nat) (all : List Text) : (scanLines depth all)[n]? =
    all[n]?.map fun line => (line, scanLine (Source.depthAfter depth (all.take n)) line) := by
  induction all generalizing depth n with
  | nil => rfl
  | cons line rest ih =>
    cases n with
    | zero => rfl
    | succ n =>
      rw [scanLines, List.getElem?_cons_succ, List.getElem?_cons_succ, ih]
      rfl

/-- Each line is scanned at its stage. -/
theorem scanOf?_eq_some : scanOf? document n = some scan ↔ ∃ line,
    (Text.lines document)[n]? = some line ∧ scan = scanLine (Stage.before document n).depth line := by
  rw [scanOf?, getElem?_scanLines, Stage.depth_before, Option.map_map, Option.map_eq_some_iff]
  exact exists_congr fun line => and_congr_right fun _ => eq_comm

/-- The lines before a line of a document are there. -/
theorem exists_line (found : (Text.lines document)[n]? = some line) (early : k ≤ n) :
    ∃ line', (Text.lines document)[k]? = some line' :=
  ⟨_, List.getElem?_eq_getElem (Nat.lt_of_le_of_lt early (List.getElem?_eq_some_iff.1 found).1)⟩

/-! ### Tactic proofs -/

/-- **A tactic proof**: line `declared` begins a declaration, and the first `:= by` from there on ends at
a column of line `opened`. -/
structure TacticProof (document : Text) (declared opened column : Nat) : Prop where
  declares : ∃ scan ∈ scanOf? document declared, declares scan = true
  ordered : declared ≤ opened
  opens : ∃ scan ∈ scanOf? document opened, scan.hasCode = true ∧
    (Text.breakOn? tacticSign scan.code).map (fun cut => size cut.1 + size tacticSign) = some column
  first : ∀ n < opened, declared ≤ n → ∀ scan ∈ scanOf? document n,
    scan.hasCode = true → Text.contains tacticSign scan.code = false

/-- **A place inside the proof**: it is behind the `:= by`, and no other declaration and no command
begins on a line up to its own. -/
structure Inside (document : Text) (declared opened column : Nat) (place : Position) : Prop where
  behind : opened < place.line ∨ place.line = opened ∧ column ≤ place.column
  same : ∀ n ≤ place.line, declared < n → ∀ scan ∈ scanOf? document n,
    declares scan = false ∧ commands scan = false

/-- **The header has no other `:=`** on its lines before line `n`. -/
def PlainHeader (document : Text) (declared n : Nat) : Prop :=
  ∀ k < n, declared ≤ k → ∀ scan ∈ scanOf? document k,
    scan.hasCode = true → Text.contains proofSign scan.code = false

/-- The place is in front of the proof of a `have` line, in what the line states. -/
def InStatement (document : Text) (opened : Nat) (place : Position) : Prop :=
  opened < place.line ∧ ∃ scan ∈ scanOf? document place.line,
    ∃ fact ∈ HaveLine.ofCode? scan.code, place.column < size scan.code - size fact.proof

/-! ### The context of a line -/

theorem context_next_of_blank (blank : (scanLine stage.depth line).hasCode = false) :
    (stage.next n line).context = stage.context := by
  show (lineClauses _ _ _ _ _).1 = _
  rw [lineClauses, blank]
  rfl

theorem enter_of_declares (begins : declares scan = true) (context : Context) :
    context.enter scan.code = .header := by
  rw [declares, Bool.and_eq_true] at begins
  exact if_pos begins.2

/-- A line that begins neither a declaration nor a command is read in the context before it. -/
theorem enter_of_plain (code : scan.hasCode = true) (plain : declares scan = false)
    (plain' : commands scan = false) (context : Context) : context.enter scan.code = context := by
  rw [declares, code, Bool.true_and] at plain
  rw [commands, code, Bool.true_and] at plain'
  unfold Context.enter
  dsimp only
  rw [if_neg (by simp [plain])]
  refine if_neg ?_
  rintro ⟨-, column, command⟩
  rw [column, command] at plain'
  cases plain'

/-- A header goes on behind a line that has no `:=`. -/
theorem context_next_of_header (code : (scanLine stage.depth line).hasCode = true)
    (entered : stage.context.enter (scanLine stage.depth line).code = .header)
    (unopened : Text.contains tacticSign (scanLine stage.depth line).code = false)
    (plain : Text.contains proofSign (scanLine stage.depth line).code = false) :
    (stage.next n line).context = .header := by
  have none : Text.breakOn? tacticSign (scanLine stage.depth line).code = none := by
    simpa [Text.contains] using unopened
  show (lineClauses _ _ _ _ _).1 = _
  rw [lineClauses, if_pos code, entered]
  dsimp only
  rw [headerClauses, none, plain]
  rfl

/-- A `:=` without the word `by` behind it ends a header. -/
theorem context_next_of_sign (code : (scanLine stage.depth line).hasCode = true)
    (entered : stage.context.enter (scanLine stage.depth line).code = .header)
    (unopened : Text.contains tacticSign (scanLine stage.depth line).code = false)
    (sign : Text.contains proofSign (scanLine stage.depth line).code = true) :
    (stage.next n line).context = .outside := by
  have none : Text.breakOn? tacticSign (scanLine stage.depth line).code = none := by
    simpa [Text.contains] using unopened
  show (lineClauses _ _ _ _ _).1 = _
  rw [lineClauses, if_pos code, entered]
  dsimp only
  rw [headerClauses, none, sign]
  rfl

/-- The `:= by` of a header opens a proof. -/
theorem context_next_of_opens {before rest : Text} (code : (scanLine stage.depth line).hasCode = true)
    (entered : stage.context.enter (scanLine stage.depth line).code = .header)
    (opens : Text.breakOn? tacticSign (scanLine stage.depth line).code = some (before, rest)) :
    (stage.next n line).context = .proof := by
  show (lineClauses _ _ _ _ _).1 = _
  rw [lineClauses, if_pos code, entered]
  dsimp only
  rw [headerClauses, opens]
  dsimp only
  split <;> rfl

/-- Only a header ends by itself: a line that begins nothing new leaves any other context as it is. -/
theorem context_next_of_entered (other : stage.context ≠ .header)
    (entered : (scanLine stage.depth line).hasCode = true →
      stage.context.enter (scanLine stage.depth line).code = stage.context) :
    (stage.next n line).context = stage.context := by
  cases code : (scanLine stage.depth line).hasCode with
  | false => exact context_next_of_blank code
  | true =>
    show (lineClauses _ _ _ _ _).1 = _
    rw [lineClauses, if_pos code, entered code]
    cases context : stage.context with
    | header => exact absurd context other
    | outside | proof => rfl

theorem Inside.opened_le (inside : Inside document declared opened column place) :
    opened ≤ place.line := by
  rcases inside.behind with later | ⟨same, -⟩ <;> omega

/-- A context other than a header goes on to the line of the place. -/
theorem context_before_of_start {start : Nat} (inside : Inside document declared opened column place)
    (listed : place ∈ placeholders document) (later : declared < start)
    (other : (Stage.before document start).context ≠ .header) (behind : start ≤ n)
    (early : n ≤ place.line) :
    (Stage.before document n).context = (Stage.before document start).context := by
  obtain ⟨last, ends, -⟩ := Source.mem_placeholders.1 listed
  induction n, behind using Nat.le_induction with
  | base => rfl
  | succ n behind ih =>
    obtain ⟨line, here⟩ := exists_line ends (Nat.le_of_lt early)
    have context := ih (Nat.le_of_lt early)
    obtain ⟨same, same'⟩ := inside.same n (Nat.le_of_lt early) (Nat.lt_of_lt_of_le later behind) _
      (scanOf?_eq_some.2 ⟨line, here, rfl⟩)
    rw [Stage.before_succ here, ← context]
    exact context_next_of_entered (context ▸ other) fun code => enter_of_plain code same same' _

section Region

variable (proof : TacticProof document declared opened column)
  (inside : Inside document declared opened column place)
include proof inside

/-- The header goes on from the declaration, as long as no line has a `:=`. -/
theorem context_before_of_header (plain : PlainHeader document declared n)
    (later : declared < n) (early : n ≤ opened) : (Stage.before document n).context = .header := by
  have bound := inside.opened_le
  obtain ⟨opening, found, -⟩ := proof.opens
  obtain ⟨last, ends, -⟩ := scanOf?_eq_some.1 found
  induction n, later using Nat.le_induction with
  | base =>
    obtain ⟨scan, found, begins⟩ := proof.declares
    obtain ⟨line, here, rfl⟩ := scanOf?_eq_some.1 found
    have code := ((Bool.and_eq_true ..).mp begins).1
    rw [Stage.before_succ here]
    exact context_next_of_header code (enter_of_declares begins _)
      (proof.first declared early (Nat.le_refl _) _ found code)
      (plain declared (Nat.lt_succ_self _) (Nat.le_refl _) _ found code)
  | succ n later ih =>
    obtain ⟨line, here⟩ := exists_line ends (Nat.le_of_lt early)
    have found := scanOf?_eq_some.2 ⟨line, here, rfl⟩
    have header := ih (fun k before => plain k (Nat.lt_succ_of_lt before)) (Nat.le_of_lt early)
    rw [Stage.before_succ here]
    cases code : (scanLine (Stage.before document n).depth line).hasCode with
    | false => rw [context_next_of_blank code, header]
    | true =>
      obtain ⟨same, same'⟩ := inside.same n (by omega) later _ found
      have entered := enter_of_plain code same same' (Stage.before document n).context
      exact context_next_of_header code (entered.trans header)
        (proof.first n early (Nat.le_of_lt later) _ found code)
        (plain n (Nat.lt_succ_self _) (Nat.le_of_lt later) _ found code)

/-- A line is read in the header when no line in front of it has a `:=`. -/
theorem enter_header (plain : PlainHeader document declared n) (later : declared ≤ n)
    (early : n ≤ opened) (found : scanOf? document n = some scan) (code : scan.hasCode = true) :
    (Stage.before document n).context.enter scan.code = .header := by
  have bound := inside.opened_le
  rcases Nat.eq_or_lt_of_le later with rfl | later
  · obtain ⟨scan', found', begins⟩ := proof.declares
    rw [found] at found'
    cases found'
    exact enter_of_declares begins _
  · obtain ⟨same, same'⟩ := inside.same n (Nat.le_trans early bound) later scan found
    rw [enter_of_plain code same same', context_before_of_header proof inside plain later early]

/-- The line of the `:= by` is read in the header. -/
theorem enter_opened (plain : PlainHeader document declared opened)
    (found : scanOf? document opened = some scan) (code : scan.hasCode = true) :
    (Stage.before document opened).context.enter scan.code = .header :=
  enter_header proof inside plain proof.ordered (Nat.le_refl _) found code

/-- **The scan leaves a header** behind the first line with a `:=` that is not the `:= by`. -/
theorem exists_outside (left : ¬ PlainHeader document declared n) (early : n ≤ opened) :
    ∃ k ≤ n, declared < k ∧ (Stage.before document k).context = .outside := by
  induction n with
  | zero => exact absurd (fun k above => absurd above (Nat.not_lt_zero k)) left
  | succ n ih =>
    by_cases plain : PlainHeader document declared n
    · obtain ⟨later, scan, found, code, sign⟩ : declared ≤ n ∧ ∃ scan ∈ scanOf? document n,
          scan.hasCode = true ∧ Text.contains proofSign scan.code = true := by
        by_contra unsigned
        refine left fun k above later scan found code => Bool.eq_false_iff.2 fun sign => ?_
        rcases Nat.lt_or_eq_of_le (Nat.le_of_lt_succ above) with above | rfl
        · rw [plain k above later scan found code] at sign
          cases sign
        · exact unsigned ⟨later, scan, found, code, sign⟩
      have entered := enter_header proof inside plain later (Nat.le_of_lt early) found code
      obtain ⟨line, here, rfl⟩ := scanOf?_eq_some.1 found
      refine ⟨n + 1, Nat.le_refl _, Nat.lt_succ_of_le later, ?_⟩
      rw [Stage.before_succ here]
      exact context_next_of_sign code entered (proof.first n early later _ found code) sign
    · obtain ⟨k, bound, rest⟩ := ih plain (Nat.le_of_lt early)
      exact ⟨k, Nat.le_succ_of_le bound, rest⟩

/-- Then no line up to that of the place is read in a proof. -/
theorem context_before_of_left (left : ¬ PlainHeader document declared opened)
    (listed : place ∈ placeholders document) :
    (Stage.before document place.line).context = .outside := by
  obtain ⟨start, bound, later, outside⟩ := exists_outside proof inside left (Nat.le_refl _)
  rw [context_before_of_start inside listed later (by rw [outside]; nofun)
    (Nat.le_trans bound inside.opened_le) (Nat.le_refl _), outside]

/-- **The proof goes on** from the `:= by` to the line of the place. -/
theorem context_before_of_proof (plain : PlainHeader document declared opened)
    (listed : place ∈ placeholders document) (later : opened < n) (early : n ≤ place.line) :
    (Stage.before document n).context = .proof := by
  have opening : (Stage.before document (opened + 1)).context = .proof := by
    obtain ⟨scan, found, code, opens⟩ := proof.opens
    obtain ⟨⟨before, rest⟩, opens, -⟩ := Option.map_eq_some_iff.1 opens
    have entered := enter_opened proof inside plain found code
    obtain ⟨line, here, rfl⟩ := scanOf?_eq_some.1 found
    rw [Stage.before_succ here]
    exact context_next_of_opens code entered opens
  rw [context_before_of_start inside listed (Nat.lt_succ_of_le proof.ordered)
    (by rw [opening]; nofun) later early, opening]

end Region

/-! ### The clauses of a line -/

theorem clausesOf_of_header (code : (scanLine stage.depth line).hasCode = true)
    (entered : stage.context.enter (scanLine stage.depth line).code = .header) :
    stage.clausesOf n line = (headerClauses stage.taken.length n (scanLine stage.depth line)).2 := by
  unfold Stage.clausesOf lineClauses
  rw [if_pos code, entered]

theorem clausesOf_of_proof (code : (scanLine stage.depth line).hasCode = true)
    (entered : stage.context.enter (scanLine stage.depth line).code = .proof) :
    stage.clausesOf n line = proofClauses stage.taken n line (scanLine stage.depth line) := by
  unfold Stage.clausesOf lineClauses
  rw [if_pos code, entered]

theorem clausesOf_of_outside
    (entered : stage.context.enter (scanLine stage.depth line).code = .outside) :
    stage.clausesOf n line = [] := by
  unfold Stage.clausesOf lineClauses
  rw [entered]
  split <;> rfl

/-- **The span of the clause contains the placeholder at the place.** -/
structure Covers (clause : Clause) (place : Position) : Prop where
  first : clause.start.line = place.line
  last : clause.stop.line = place.line
  begins : clause.start.column ≤ place.column
  ends : place.column + size sorryWord ≤ clause.stop.column

instance : Decidable (Covers clause place) :=
  decidable_of_iff (clause.start.line = place.line ∧ clause.stop.line = place.line ∧
      clause.start.column ≤ place.column ∧ place.column + size sorryWord ≤ clause.stop.column)
    ⟨fun ⟨first, last, begins, ends⟩ => ⟨first, last, begins, ends⟩,
      fun ⟨first, last, begins, ends⟩ => ⟨first, last, begins, ends⟩⟩

theorem EndsBefore.not_covers (order : EndsBefore clause other) (covers : Covers clause place) :
    ¬ Covers other place := by
  intro covers'
  have stop := covers.last
  have start := covers'.first
  have ends := covers.ends
  have begins := covers'.begins
  rcases order with above | ⟨-, before, -, -⟩ <;> omega

/-- **At most one clause contains a placeholder.** -/
theorem eq_of_covers (member : clause ∈ Clause.scan document) (member' : other ∈ Clause.scan document)
    (covers : Covers clause place) (covers' : Covers other place) : clause = other := by
  by_contra apart
  have either : Std.Symm fun x y => EndsBefore x y ∨ EndsBefore y x := ⟨fun _ _ => Or.symm⟩
  have ordered := (pairwise_scan document).imp (S := fun x y => EndsBefore x y ∨ EndsBefore y x) .inl
  rcases ordered.forall member member' apart with before | before
  · exact before.not_covers covers covers'
  · exact before.not_covers covers' covers

/-- Each placeholder column has a clause. -/
theorem exists_mem_placeholderClauses {columns : List Nat} (listed : column ∈ columns)
    (count n : Nat) : ∃ id, Clause.place id .placeholder n column sorryWord ∈
      placeholderClauses count n columns := by
  obtain ⟨k, found⟩ := List.mem_iff_getElem?.1 listed
  have member : (column, k) ∈ columns.zipIdx := List.mk_mem_zipIdx_iff_getElem?.2 found
  exact ⟨_, List.mem_map_of_mem member⟩

theorem exists_covers_placeholderClauses {columns : List Nat} (listed : place.column ∈ columns)
    (count : Nat) : ∃ clause ∈ placeholderClauses count place.line columns, Covers clause place := by
  obtain ⟨id, member⟩ := exists_mem_placeholderClauses listed count place.line
  exact ⟨_, member, rfl, rfl, Nat.le_refl _, Nat.le_refl _⟩

/-- Behind the `:= by` of a header, each placeholder is a clause. -/
theorem exists_covers_headerClauses {before rest : Text}
    (opens : Text.breakOn? tacticSign scan.code = some (before, rest))
    (listed : place.column ∈ scan.sorries)
    (behind : size before + size tacticSign ≤ place.column) (count : Nat) :
    ∃ clause ∈ (headerClauses count place.line scan).2, Covers clause place := by
  have kept : place.column ∈ scan.sorries.filter (size before + size tacticSign ≤ ·) :=
    List.mem_filter.2 ⟨listed, decide_eq_true behind⟩
  unfold headerClauses
  rw [opens]
  dsimp only
  rw [if_neg (List.ne_nil_of_mem kept)]
  exact exists_covers_placeholderClauses kept count

section HaveLine

variable {fact : HaveLine} {taken : List Text}

/-- On a `have` line, a placeholder in the proof is in the clause of the proof. -/
theorem exists_covers_haveProof {depth : Nat}
    (found : HaveLine.ofCode? (scanLine depth line).code = some fact)
    (listed : place.column ∈ (scanLine depth line).sorries)
    (behind : size (scanLine depth line).code - size fact.proof ≤ place.column) :
    ∃ clause ∈ proofClauses taken place.line line (scanLine depth line), Covers clause place := by
  obtain ⟨intro, code⟩ := HaveLine.suffix_of_ofCode? found
  obtain ⟨front, rest, cut, start⟩ := Source.exists_code_of_mem_sorries listed
  have stands : Text.StandsAt sorryWord place.column (intro ++ fact.proof) :=
    ⟨front, rest, code.trans cut, start.symm⟩
  have column : size (scanLine depth line).code - size fact.proof = size intro := by
    rw [← code, Text.size_append, Nat.add_sub_cancel]
  obtain ⟨offset, sum, stands⟩ := stands.of_append (column ▸ behind)
  obtain ⟨begins, ends⟩ :=
    Text.trimmedAt_covers stands (by decide) Source.visible_sorryWord (size intro)
  unfold proofClauses
  dsimp only
  rw [found]
  dsimp only
  rw [column]
  exact ⟨_, List.mem_singleton_self _, rfl, rfl, sum ▸ begins, sum ▸ ends⟩

/-- The clause of a `have` line does not reach into what the line states. -/
theorem not_covers_haveProof (found : HaveLine.ofCode? scan.code = some fact)
    (early : place.column < size scan.code - size fact.proof) :
    ∀ clause ∈ proofClauses taken n line scan, ¬ Covers clause place := by
  intro clause member covers
  unfold proofClauses at member
  dsimp only at member
  rw [found] at member
  obtain rfl := List.mem_singleton.1 member
  obtain ⟨gap, tail, -, start, -⟩ := Text.exists_around_trimmedAt fact.proof
    (size scan.code - size fact.proof)
  have begins : (trimmedAt (size scan.code - size fact.proof) fact.proof).1 ≤ place.column :=
    covers.begins
  rw [start] at begins
  omega

/-- On any other line of a proof, each placeholder is a clause. -/
theorem exists_covers_proofClauses (plain : HaveLine.ofCode? scan.code = none)
    (listed : place.column ∈ scan.sorries) :
    ∃ clause ∈ proofClauses taken place.line line scan, Covers clause place := by
  unfold proofClauses
  dsimp only
  rw [plain]
  dsimp only
  rw [if_neg (List.ne_nil_of_mem listed)]
  exact exists_covers_placeholderClauses listed _

end HaveLine

/-! ### Which placeholders are editable -/

theorem hasCode_of_listed (listed : place ∈ placeholders document)
    (found : (Text.lines document)[place.line]? = some line) :
    (scanLine (Stage.before document place.line).depth line).hasCode = true := by
  have reported := Source.mem_sorries_of_mem_placeholders listed found
  rw [← Stage.depth_before] at reported
  exact Source.hasCode_of_mem_sorries reported

section Editable

variable (proof : TacticProof document declared opened column)
  (plain : PlainHeader document declared opened) (listed : place ∈ placeholders document)
  (inside : Inside document declared opened column place)
include proof plain listed inside

/-- A line behind the `:= by` is read as a line of the proof. -/
theorem enter_inside (later : opened < place.line)
    (found : (Text.lines document)[place.line]? = some line) :
    (Stage.before document place.line).context.enter
      (scanLine (Stage.before document place.line).depth line).code = .proof := by
  obtain ⟨same, same'⟩ := inside.same place.line (Nat.le_refl _)
    (Nat.lt_of_le_of_lt proof.ordered later) _ (scanOf?_eq_some.2 ⟨line, found, rfl⟩)
  rw [enter_of_plain (hasCode_of_listed listed found) same same',
    context_before_of_proof proof inside plain listed later (Nat.le_refl _)]

theorem clausesOf_inside (later : opened < place.line)
    (found : (Text.lines document)[place.line]? = some line) :
    (Stage.before document place.line).clausesOf place.line line =
      proofClauses (Stage.before document place.line).taken place.line line
        (scanLine (Stage.before document place.line).depth line) :=
  clausesOf_of_proof (hasCode_of_listed listed found)
    (enter_inside proof plain listed inside later found)

/-- **A placeholder of a tactic proof is in a clause**, unless a `have` line states it. -/
theorem exists_covers (proved : ¬ InStatement document opened place) :
    ∃ clause ∈ Clause.scan document, Covers clause place := by
  obtain ⟨line, here, reported⟩ := Source.mem_placeholders.1 listed
  rw [← Stage.depth_before] at reported
  have code := Source.hasCode_of_mem_sorries reported
  suffices ∃ clause ∈ (Stage.before document place.line).clausesOf place.line line,
      Covers clause place by
    obtain ⟨clause, member, covers⟩ := this
    refine ⟨clause, mem_scan_iff.2 ⟨line, ?_, ?_⟩, covers⟩
    · rw [covers.first, here]
    · rw [covers.first]
      exact member
  rcases inside.behind with later | ⟨same, behind⟩
  · rw [clausesOf_inside proof plain listed inside later here]
    cases found : HaveLine.ofCode? (scanLine (Stage.before document place.line).depth line).code with
    | none => exact exists_covers_proofClauses found reported
    | some fact =>
      refine exists_covers_haveProof found reported (Nat.le_of_not_lt fun early => proved ?_)
      exact ⟨later, _, scanOf?_eq_some.2 ⟨line, here, rfl⟩, fact, found, early⟩
  · subst same
    obtain ⟨scan, found, -, opens⟩ := proof.opens
    obtain ⟨⟨before, rest⟩, cut, rfl⟩ := Option.map_eq_some_iff.1 opens
    obtain ⟨line', here', rfl⟩ := scanOf?_eq_some.1 found
    obtain rfl : line = line' := Option.some.inj (here.symm.trans here')
    rw [clausesOf_of_header code (enter_opened proof inside plain found code)]
    exact exists_covers_headerClauses cut reported behind _

/-- **What a `have` line states is in no clause.** -/
theorem not_covers (stated : InStatement document opened place) :
    ∀ clause ∈ Clause.scan document, ¬ Covers clause place := by
  intro clause member covers
  obtain ⟨later, scan, found, fact, reads, early⟩ := stated
  obtain ⟨line, here, rfl⟩ := scanOf?_eq_some.1 found
  obtain ⟨line', here', member⟩ := mem_scan_iff.1 member
  rw [covers.first] at here' member
  obtain rfl : line = line' := Option.some.inj (here.symm.trans here')
  rw [clausesOf_inside proof plain listed inside later here] at member
  exact not_covers_haveProof reads early clause member covers

end Editable

/-- **Behind a header that the scan has left** the placeholder is in no clause. -/
theorem not_covers_of_left (proof : TacticProof document declared opened column)
    (left : ¬ PlainHeader document declared opened) (listed : place ∈ placeholders document)
    (inside : Inside document declared opened column place) :
    ∀ clause ∈ Clause.scan document, ¬ Covers clause place := by
  intro clause member covers
  obtain ⟨start, bound, later, -⟩ := exists_outside proof inside left (Nat.le_refl _)
  obtain ⟨line, here, member⟩ := mem_scan_iff.1 member
  rw [covers.first] at here member
  obtain ⟨same, same'⟩ := inside.same place.line (Nat.le_refl _)
    (Nat.lt_of_lt_of_le later (Nat.le_trans bound inside.opened_le)) _
    (scanOf?_eq_some.2 ⟨line, here, rfl⟩)
  rw [clausesOf_of_outside] at member
  · cases member
  · rw [enter_of_plain (hasCode_of_listed listed here) same same',
      context_before_of_left proof inside left listed]

end Clause
end ProofDesk
