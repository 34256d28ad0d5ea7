import ProofDesk.Proofs.Session.Goals

/-!
# Advice

The advice of a session looks at the clauses, and the goals come from the placeholders. A
placeholder that is no clause of its own is a goal that the advice passes over.

* `Offered` — a placeholder is a clause of its own: behind the `:= by` of a header, on the line of
  its `:=` when no `:= by` is there, or on a line of a proof that is no `have` line.
* `offers_iff` — these are the clauses of placeholders that a scan finds; `offers_inside_iff` says
  which placeholders of a tactic proof they are.
* `announces_iff` and `points_iff` — when completeness is announced, and when the advice points to
  placeholders.
* `candid_iff` — the advice is candid unless there are placeholders and none of them is offered.
-/

namespace ProofDesk

open Source (placeholders proofSign scanLine tacticSign)
open Text (size)

namespace Clause

variable {document line : Text} {stage : Stage} {n column : Nat} {place : Position}
  {clause : Clause}

/-! ### Placeholders with a clause of their own -/

/-- **A placeholder of the line is offered** as a clause of its own. -/
inductive Offered (stage : Stage) (line : Text) (column : Nat) : Prop
  /-- It is behind the `:= by` of a header. -/
  | tactic {before rest : Text}
    (entered : stage.context.enter (scanLine stage.depth line).code = .header)
    (opens : Text.breakOn? tacticSign (scanLine stage.depth line).code = some (before, rest))
    (behind : size before + size tacticSign ≤ column)
  /-- It is on the line with the `:=` of a header, and no `:= by` is there. -/
  | term (entered : stage.context.enter (scanLine stage.depth line).code = .header)
    (unopened : Text.breakOn? tacticSign (scanLine stage.depth line).code = none)
    (signed : Text.contains proofSign (scanLine stage.depth line).code = true)
  /-- It is on a line of a proof that is no `have` line. -/
  | line (entered : stage.context.enter (scanLine stage.depth line).code = .proof)
    (plain : HaveLine.ofCode? (scanLine stage.depth line).code = none)

/-- A placeholder of the document that is offered. -/
def Offers (document : Text) (place : Position) : Prop :=
  ∃ line, (Text.lines document)[place.line]? = some line ∧
    place.column ∈ (scanLine (Stage.before document place.line).depth line).sorries ∧
    Offered (Stage.before document place.line) line place.column

theorem Offers.mem_placeholders (offers : Offers document place) :
    place ∈ placeholders document := by
  obtain ⟨line, found, reported, -⟩ := offers
  rw [Stage.depth_before] at reported
  exact Source.mem_placeholders.2 ⟨line, found, reported⟩

theorem column_of_mem_placeholderClauses {columns : List Nat} {count : Nat}
    (member : clause ∈ placeholderClauses count n columns) : clause.start.column ∈ columns := by
  obtain ⟨⟨column, k⟩, inside, rfl⟩ := List.mem_map.1 member
  exact List.fst_mem_of_mem_zipIdx inside

/-- The clause of a placeholder is where one is offered. -/
theorem offered_of_mem (member : clause ∈ stage.clausesOf n line)
    (kind : clause.category = .placeholder) : Offered stage line clause.start.column := by
  have code := Source.hasCode_of_mem_sorries (mem_sorries_of_placeholder member kind).1
  cases entered : stage.context.enter (scanLine stage.depth line).code with
  | outside =>
    unfold Stage.clausesOf lineClauses at member
    rw [if_pos code, entered] at member
    cases member
  | header =>
    rw [clausesOf_of_header code entered] at member
    unfold headerClauses at member
    cases opens : Text.breakOn? tacticSign (scanLine stage.depth line).code with
    | some cut =>
      rw [opens] at member
      dsimp only at member
      split at member
      · -- The clause of the proof is no placeholder.
        split at member
        · cases member
        · obtain rfl := List.mem_singleton.1 member
          cases kind
      · have later := column_of_mem_placeholderClauses member
        exact .tactic entered opens (of_decide_eq_true (List.mem_filter.1 later).2)
    | none =>
      rw [opens] at member
      dsimp only at member
      split at member
      · next signed => exact .term entered opens signed
      · cases member
  | proof =>
    rw [clausesOf_of_proof code entered] at member
    unfold proofClauses at member
    dsimp only at member
    cases plain : HaveLine.ofCode? (scanLine stage.depth line).code with
    | none => exact .line entered plain
    | some fact =>
      rw [plain] at member
      obtain rfl := List.mem_singleton.1 member
      cases kind

/-- A placeholder that is offered has a clause. -/
theorem Offered.exists_mem (offered : Offered stage line column)
    (reported : column ∈ (scanLine stage.depth line).sorries) :
    ∃ clause ∈ stage.clausesOf n line,
      clause.category = .placeholder ∧ clause.start = ⟨n, column⟩ := by
  have code := Source.hasCode_of_mem_sorries reported
  have alone (columns : List Nat) (listed : column ∈ columns) (count : Nat) :
      ∃ clause ∈ placeholderClauses count n columns,
        clause.category = .placeholder ∧ clause.start = ⟨n, column⟩ := by
    obtain ⟨id, member⟩ := exists_mem_placeholderClauses listed count n
    exact ⟨_, member, rfl, rfl⟩
  cases offered with
  | @tactic before rest entered opens behind =>
    have kept : column ∈ (scanLine stage.depth line).sorries.filter
        (size before + size tacticSign ≤ ·) :=
      List.mem_filter.2 ⟨reported, decide_eq_true behind⟩
    rw [clausesOf_of_header code entered, headerClauses, opens]
    dsimp only
    rw [if_neg (List.ne_nil_of_mem kept)]
    exact alone _ kept _
  | term entered unopened signed =>
    rw [clausesOf_of_header code entered, headerClauses, unopened]
    dsimp only
    rw [if_pos signed]
    exact alone _ reported _
  | line entered plain =>
    rw [clausesOf_of_proof code entered, proofClauses]
    dsimp only
    rw [plain]
    dsimp only
    rw [if_neg (List.ne_nil_of_mem reported)]
    exact alone _ reported _

/-- **The clauses of placeholders** stand where placeholders are offered. -/
theorem offers_iff : Offers document place ↔
    ∃ clause ∈ scan document, clause.category = .placeholder ∧ clause.start = place := by
  constructor
  · rintro ⟨line, found, reported, offered⟩
    obtain ⟨clause, inside, kind, start⟩ := offered.exists_mem (n := place.line) reported
    refine ⟨clause, mem_scan_iff.2 ⟨line, ?_, ?_⟩, kind, start⟩
    · rw [start]
      exact found
    · rw [start]
      exact inside
  · rintro ⟨clause, member, kind, rfl⟩
    obtain ⟨line, found, inside⟩ := mem_scan_iff.1 member
    exact ⟨line, found, (mem_sorries_of_placeholder inside kind).1, offered_of_mem inside kind⟩

/-- **Behind the `:= by` of a tactic proof** a placeholder is offered unless it is on a `have`
line. -/
theorem offers_inside_iff {declared opened column : Nat}
    (proof : TacticProof document declared opened column)
    (plain : PlainHeader document declared opened) (listed : place ∈ placeholders document)
    (inside : Inside document declared opened column place) (later : opened < place.line) :
    Offers document place ↔
      ∀ scan ∈ scanOf? document place.line, HaveLine.ofCode? scan.code = none := by
  obtain ⟨line, found, reported⟩ := Source.mem_placeholders.1 listed
  rw [← Stage.depth_before] at reported
  have entered := enter_inside proof plain listed inside later found
  constructor
  · rintro ⟨line', found', -, offered⟩ scan scanned
    obtain ⟨line'', found'', rfl⟩ := scanOf?_eq_some.1 scanned
    obtain rfl := Option.some.inj (found.symm.trans found')
    obtain rfl := Option.some.inj (found.symm.trans found'')
    cases offered with
    | tactic header => rw [entered] at header; cases header
    | term header => rw [entered] at header; cases header
    | line _ unfactual => exact unfactual
  · intro unfactual
    exact ⟨line, found, reported,
      .line entered (unfactual _ (scanOf?_eq_some.2 ⟨line, found, rfl⟩))⟩

end Clause

namespace Session

open Clause (Offers)
open Dialogue (Respondent Exchange)

variable {verifier : Respondent Text fun _ => Verification}
  {said : List (Exchange Text fun _ => Verification)} {session : Session}

/-! ### What the advice says -/

/-- The clauses of placeholders. -/
def sorries (session : Session) : List Clause :=
  session.clauses.filter fun clause => clause.category = .placeholder

theorem sorries_eq_nil : session.sorries = [] ↔
    ∀ clause ∈ session.clauses, clause.category ≠ .placeholder := by
  simp [sorries, List.filter_eq_nil_iff]

/-- **The four kinds of advice.** -/
theorem mem_suggestions {advice : Text} : advice ∈ session.suggestions ↔
    (Message.anyOf .error session.messages = true ∧
      advice = "Fix compilation errors first".toList) ∨
    (session.sorries ≠ [] ∧ advice = "Work on sorry clauses: ".toList ++
      List.intercalate ", ".toList (session.sorries.map Clause.id)) ∨
    (Message.anyOf .warning session.messages = true ∧
      advice = "Address compiler warnings".toList) ∨
    (Message.anyOf .error session.messages = false ∧ session.sorries = [] ∧
      Message.anyOf .warning session.messages = false ∧
      advice = "Proof looks complete!".toList) := by
  unfold suggestions
  dsimp only
  rw [← sorries]
  cases Message.anyOf .error session.messages <;> cases Message.anyOf .warning session.messages <;>
    by_cases none : session.sorries = [] <;> simp [none]

/-- The session announces that the proof is complete. -/
def Announces (session : Session) : Prop := "Proof looks complete!".toList ∈ session.suggestions

/-- Some advice points to placeholders. -/
def Points (session : Session) : Prop :=
  ∃ advice ∈ session.suggestions, "Work on sorry clauses: ".toList <+: advice

theorem announces_iff : session.Announces ↔
    Message.anyOf .error session.messages = false ∧ session.sorries = [] ∧
      Message.anyOf .warning session.messages = false := by
  unfold Announces
  rw [mem_suggestions]
  constructor
  · rintro (⟨-, same⟩ | ⟨-, same⟩ | ⟨-, same⟩ | ⟨error, none, warning, -⟩)
    · exact absurd same (by decide)
    · cases same
    · exact absurd same (by decide)
    · exact ⟨error, none, warning⟩
  · rintro ⟨error, none, warning⟩
    exact .inr (.inr (.inr ⟨error, none, warning, rfl⟩))

theorem points_iff : session.Points ↔ session.sorries ≠ [] := by
  unfold Points
  constructor
  · rintro ⟨advice, member, begins⟩
    rcases mem_suggestions.1 member with ⟨-, rfl⟩ | ⟨some, -⟩ | ⟨-, rfl⟩ | ⟨-, -, -, rfl⟩
    · exact absurd begins (by decide)
    · exact some
    · exact absurd begins (by decide)
    · exact absurd begins (by decide)
  · intro some
    exact ⟨_, mem_suggestions.2 (.inr (.inl ⟨some, rfl⟩)), List.prefix_append ..⟩

/-! ### Advice and goals -/

/-- **Candid advice**: completeness is announced only when nothing is open, and while the goal of a
placeholder is listed, some advice points to placeholders. -/
structure Candid (session : Session) : Prop where
  announced : session.Announces → session.goals = [] ∧
    Message.anyOf .error session.messages = false ∧ Message.anyOf .warning session.messages = false
  pointed : (∃ place ∈ placeholders session.document,
    placeholderGoal session.proofState place ∈ session.goals) → session.Points

/-- The placeholders that are offered are those that the advice looks at. -/
theorem Current.sorries_ne_nil (current : Current said session) :
    session.sorries ≠ [] ↔ ∃ place, Offers session.document place := by
  rw [Ne, sorries_eq_nil, current.clauses]
  constructor
  · intro some
    push Not at some
    obtain ⟨clause, member, kind⟩ := some
    exact ⟨clause.start, Clause.offers_iff.2 ⟨clause, member, kind, rfl⟩⟩
  · rintro ⟨place, offers⟩ none
    obtain ⟨clause, member, kind, -⟩ := Clause.offers_iff.1 offers
    exact none clause member kind

/-- Only errors list goals, so without errors the goals are those of the placeholders. -/
theorem Current.goals_of_no_error (current : Current said session)
    (error : Message.anyOf .error session.messages = false) : session.goals =
      (placeholders session.document).map (placeholderGoal session.proofState) := by
  have listless : ∀ message ∈ session.messages, message.unsolvedGoal? = none := by
    intro message member
    have other := List.any_eq_false.1 error message member
    unfold Message.unsolvedGoal?
    cases severity : message.severity with
    | error => exact absurd (decide_eq_true severity) other
    | warning => rfl
    | info => rfl
  rw [current.goals, deriveGoals, List.filterMap_eq_nil_iff.2, List.append_nil]
  intro message member
  rw [listless message member]
  rfl

/-- **When the advice is candid.** In every session that a run leads to, whatever the verifier
reports: completeness is announced when there is no error and no warning and no placeholder is
offered, and some advice points to placeholders when one is offered. So the advice is candid unless
there are placeholders and none of them is offered. -/
theorem candid_iff (reached : Reached verifier said session) :
    (session.Announces ↔ Message.anyOf .error session.messages = false ∧
      Message.anyOf .warning session.messages = false ∧
      ¬ ∃ place, Offers session.document place) ∧
    (session.Points ↔ ∃ place, Offers session.document place) ∧
    (session.Candid ↔ placeholders session.document = [] ∨
      ∃ place, Offers session.document place) := by
  have current := reached.current
  have announces : session.Announces ↔ Message.anyOf .error session.messages = false ∧
      Message.anyOf .warning session.messages = false ∧
      ¬ ∃ place, Offers session.document place := by
    rw [announces_iff, ← current.sorries_ne_nil, not_not, and_comm (a := session.sorries = [])]
  have points := points_iff.trans current.sorries_ne_nil
  refine ⟨announces, points, ?_, ?_⟩
  · intro candid
    refine or_iff_not_imp_left.2 fun some => points.1 (candid.pointed ?_)
    obtain ⟨place, listed⟩ := List.exists_mem_of_ne_nil _ some
    refine ⟨place, listed, ?_⟩
    rw [current.goals]
    exact List.mem_append_left _ (List.mem_map_of_mem listed)
  · intro either
    refine ⟨fun announced => ?_, ?_⟩
    · obtain ⟨error, warning, unoffered⟩ := announces.1 announced
      refine ⟨?_, error, warning⟩
      rw [current.goals_of_no_error error, either.resolve_right unoffered]
      rfl
    · rintro ⟨place, listed, -⟩
      refine points.2 (either.resolve_left fun none => ?_)
      rw [none] at listed
      cases listed

/-- A placeholder on a line of its own is pointed to. -/
theorem candid_iff_own_line :
    let document := "theorem t : True := by\n  sorry".toList
    let verifier : Respondent Text fun _ => Verification := fun _ _ => .ofResponse "Success"
    let session :=
      { fresh ⟨"5e551d01", "1257a9ce"⟩ false with document }.absorb (.ofResponse "Success")
    Reached verifier [⟨document, .ofResponse "Success"⟩] session ∧
      Offers document ⟨1, 2⟩ ∧ session.Points ∧ ¬ session.Announces ∧ session.Candid := by
  intro document verifier session
  have reached : Reached verifier [⟨document, .ofResponse "Success"⟩] session :=
    reached_load verifier ⟨"5e551d01", "1257a9ce"⟩ false document
  have offers : Offers document ⟨1, 2⟩ := by
    rw [Clause.offers_iff]
    decide +kernel
  obtain ⟨announces, points, candid⟩ := candid_iff reached
  have silent : ¬ session.Announces := fun announced => (announces.1 announced).2.2 ⟨_, offers⟩
  exact ⟨reached, offers, points.2 ⟨_, offers⟩, silent, candid.2 (.inr ⟨_, offers⟩)⟩

/-- The placeholder in the proof of a `have` line is an open goal when completeness is announced. -/
theorem not_candid_have :
    let document := "theorem t : True := by\n  have h : True := by sorry\n  exact h".toList
    let verifier : Respondent Text fun _ => Verification := fun _ _ => .ofResponse "Success"
    let session :=
      { fresh ⟨"5e551d01", "1257a9ce"⟩ false with document }.absorb (.ofResponse "Success")
    Reached verifier [⟨document, .ofResponse "Success"⟩] session ∧ session.Announces ∧
      session.goals = [placeholderGoal none ⟨1, 22⟩] ∧ ¬ session.Points ∧ ¬ session.Candid := by
  intro document verifier session
  have reached : Reached verifier [⟨document, .ofResponse "Success"⟩] session :=
    reached_load verifier ⟨"5e551d01", "1257a9ce"⟩ false document
  have proof : Clause.TacticProof document 0 0 22 :=
    ⟨by decide +kernel, by decide, by decide +kernel, by decide +kernel⟩
  have plain : Clause.PlainHeader document 0 0 := fun n before => absurd before (Nat.not_lt_zero n)
  have inside : Clause.Inside document 0 0 22 ⟨1, 22⟩ := ⟨by decide, by decide +kernel⟩
  have listed : placeholders document = [⟨1, 22⟩] := by decide +kernel
  have unoffered : ¬ ∃ place, Offers document place := by
    rintro ⟨place, offers⟩
    obtain rfl : place = ⟨1, 22⟩ := by simpa [listed] using offers.mem_placeholders
    rw [Clause.offers_inside_iff proof plain offers.mem_placeholders inside (by decide)] at offers
    revert offers
    decide +kernel
  have unlisted : session.sorries = [] := by
    by_contra some
    exact unoffered (reached.current.sorries_ne_nil.1 some)
  have announces : session.Announces :=
    announces_iff.2 ⟨by decide +kernel, unlisted, by decide +kernel⟩
  have goals : session.goals = [placeholderGoal none ⟨1, 22⟩] := by
    rw [reached.current.goals_of_no_error (by decide +kernel)]
    exact congrArg _ listed
  refine ⟨reached, announces, goals, fun points => points_iff.1 points unlisted, fun candid => ?_⟩
  have closed := (candid.announced announces).1
  rw [goals] at closed
  cases closed

end Session
end ProofDesk
