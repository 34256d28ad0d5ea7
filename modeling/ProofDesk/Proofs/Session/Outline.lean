import Mathlib.Data.List.Find
import ProofDesk.Proofs.Clause.Origin
import ProofDesk.Proofs.Session.Goals
import ProofDesk.Proofs.Text.Lines

/-!
# Outlines in a document

An outline takes the place of the first clause that is a placeholder or the proof on the line of its
theorem. It is an edit of that clause: the text that the edit writes is made so that the line of the
clause and the lines of the outline come out with one indentation, whatever stands in front of the
clause.

* `Opens` and `FirstOpen` — the clause that an outline replaces.
* `opensById_iff` and `Current.outlineTarget?_eq` — the ids alone tell which clause that is.
* `outlinedLine` — the line of the clause with the outline in it.
* `spliceLine_outlineText` — the edit writes this line.
* `addOutline_expands` — what an outline makes of a document.
-/

namespace ProofDesk

open Source (byWord proofSign)
open Text (allBlank indentation isBlank joinLines size trimEnd)

/-! ### The clause that an outline replaces -/

namespace Clause

variable {document line : Text} {clause : Clause} {stage : Stage} {n : Nat}

/-- The clause can be replaced by an outline. -/
def Opens (clause : Clause) : Prop := clause.category = .mainProof ∨ clause.category = .placeholder

/-- **The first clause that opens**: all others that do stand behind it. -/
structure FirstOpen (clauses : List Clause) (clause : Clause) : Prop where
  member : clause ∈ clauses
  opens : Opens clause
  first : ∀ other ∈ clauses, Opens other → other = clause ∨ EndsBefore clause other

/-- The proof on the line of its theorem is a clause only when there is one. -/
theorem content_ne_nil_of_mainProof (member : clause ∈ stage.clausesOf n line)
    (kind : clause.category = .mainProof) : clause.content ≠ [] := by
  cases origin_of_mem member with
  | mainProof entered opens solid => exact solid
  | placeholder k reported => cases kind
  | haveProof entered found => cases kind
  | tacticBlock entered found => cases kind
  | line whole entered => rcases whole with rfl | rfl <;> cases kind

theorem visible_of_head?_trimmedAt {column : Nat} {segment : Text} {c : Char}
    (first : (trimmedAt column segment).2.head? = some c) : isBlank c = false := by
  unfold trimmedAt at first
  split at first
  · cases first
  · exact Text.head?_trim first

/-- **The content of a clause that opens** begins with a character that is not blank. -/
theorem Opens.exists_content (opens : Opens clause) (member : clause ∈ scan document) :
    ∃ c rest, clause.content = c :: rest ∧ isBlank c = false := by
  obtain ⟨line, -, inside⟩ := mem_scan_iff.1 member
  rcases opens with kind | kind
  · obtain ⟨c, rest, content⟩ := List.exists_cons_of_ne_nil (content_ne_nil_of_mainProof inside kind)
    obtain ⟨intro, behind, -, placed, -, -⟩ := exists_introduction inside (by simp [IsIntroduced, kind])
    have trimmed : clause.content = (trimmedAt (size intro) behind).2 := congrArg Clause.content placed
    have first : (trimmedAt (size intro) behind).2.head? = some c := by
      rw [← trimmed, content]
      rfl
    exact ⟨c, rest, content, visible_of_head?_trimmedAt first⟩
  · exact ⟨'s', _, (mem_sorries_of_placeholder inside kind).2, by decide⟩

/-- The id begins with the name of a category whose clauses open. -/
def opensById (id : Text) : Bool :=
  Category.mainProof.name.isPrefixOf id || Category.placeholder.name.isPrefixOf id

theorem opensById_numberedId {category : Category} (kind : category = .mainProof ∨ category = .placeholder)
    (k : Nat) : opensById (numberedId category k) = true := by
  rw [opensById, Bool.or_eq_true, List.isPrefixOf_iff_prefix, List.isPrefixOf_iff_prefix]
  rcases kind with rfl | rfl
  · exact .inl (List.prefix_append ..)
  · exact .inr (List.prefix_append ..)

/-- Both names are told from any other one by their first letters. -/
theorem not_opensById {id : Text} {c : Char} (first : id.head? = some c) (letter : c ≠ 'm' ∧ c ≠ 's') :
    ¬ opensById id = true := by
  rw [opensById, Bool.or_eq_true, List.isPrefixOf_iff_prefix, List.isPrefixOf_iff_prefix]
  rintro (⟨rest, rfl⟩ | ⟨rest, rfl⟩)
  · exact letter.1 (Option.some.inj first).symm
  · exact letter.2 (Option.some.inj first).symm

/-- **The id of a clause tells whether it opens.** -/
theorem opensById_iff (member : clause ∈ stage.clausesOf n line) :
    opensById clause.id = true ↔ Opens clause := by
  cases origin_of_mem member with
  | placeholder k reported => exact iff_of_true (opensById_numberedId (.inr rfl) k) (.inr rfl)
  | mainProof entered opens solid => exact iff_of_true (opensById_numberedId (.inl rfl) _) (.inl rfl)
  | haveProof entered found =>
    obtain ⟨more, whole⟩ := exists_freshId_eq_append ("have_" ++ _) stage.taken
    refine iff_of_false (not_opensById (c := 'h') ?_ (by decide)) ?_
    · rw [place, whole]
      rfl
    · rintro (same | same) <;> cases same
  | tacticBlock entered found =>
    refine iff_of_false (not_opensById rfl (by decide)) ?_
    rintro (same | same) <;> cases same
  | line whole entered =>
    rcases whole with rfl | rfl
    all_goals
      refine iff_of_false (not_opensById rfl (by decide)) ?_
      rintro (same | same) <;> cases same

end Clause

namespace Session

open Clause (Cut FirstOpen Opens glue spliceLine)
open Dialogue (Respondent Exchange)

variable {session : Session} {target : Clause} {before behind first : Text} {lines : List Text}
  {said : List (Exchange Text fun _ => Verification)}

theorem outlineTarget?_eq_some (found : session.outlineTarget? = some target) :
    ∃ earlier later, session.clauses = earlier ++ target :: later ∧ Opens target ∧
      ∀ other ∈ earlier, ¬ Opens other := by
  obtain ⟨opens, earlier, later, split, others⟩ := List.find?_eq_some_iff_append.1 found
  refine ⟨earlier, later, split, by simpa [Opens] using opens, fun other member => ?_⟩
  simpa [Opens] using others other member

/-- The clause that an outline replaces can be told by the ids alone. -/
theorem Current.outlineTarget?_eq (current : Current said session) :
    session.outlineTarget? = session.clauses.find? fun clause => Clause.opensById clause.id := by
  refine List.find?_congr fun clause member => ?_
  rw [current.clauses] at member
  obtain ⟨line, -, inside⟩ := Clause.mem_scan_iff.1 member
  rw [Bool.eq_iff_iff, Clause.opensById_iff inside, decide_eq_true_iff]
  rfl

/-- **The clause that an outline replaces** is the first one in the document that opens. -/
theorem Current.exists_firstOpen (current : Current said session)
    (opening : ∃ clause ∈ session.clauses, Opens clause) :
    ∃ target, session.outlineTarget? = some target ∧ FirstOpen session.clauses target := by
  obtain ⟨clause, member, opens⟩ := opening
  cases found : session.outlineTarget? with
  | none =>
    have closed := List.find?_eq_none.1 found clause member
    exact absurd opens (by simpa [Opens] using closed)
  | some target =>
    obtain ⟨earlier, later, split, opens, others⟩ := outlineTarget?_eq_some found
    have ordered := Clause.pairwise_scan session.document
    rw [← current.clauses, split] at ordered
    have behind := (List.pairwise_cons.1 (List.pairwise_append.1 ordered).2.1).1
    refine ⟨target, rfl, by simp [split], opens, fun other member opens' => ?_⟩
    rw [split] at member
    rcases List.mem_append.1 member with early | late
    · exact absurd opens' (others other early)
    · exact (List.mem_cons.1 late).imp_right (behind other)

/-! ### The line with the outline -/

/-- What stands in front of the lines of an outline: the text before the clause without the blanks at
its end, or with `by` behind it when it ends in a proof sign. -/
def outlineHead (before : Text) : Text :=
  if Text.endsWith proofSign (trimEnd before) then before ++ byWord else trimEnd before

/-- **A line with an outline in it.** The line has the indentation `indent` and is cut around a clause.
The lines that are not blank are kept without the blanks at their ends. Behind other text they begin on
a line of their own, two columns further in than the line; else they stand where the clause stood. -/
def outlinedLine (indent before behind : Text) (lines : List Text) : Text :=
  let shown := lines.filter fun line => !allBlank line
  if allBlank before then joinLines (shown.map fun line => indent ++ trimEnd line) ++ behind
  else
    outlineHead before ++
      '\n' :: joinLines (shown.map fun line => indent ++ [' ', ' '] ++ trimEnd line) ++ behind

theorem joinLines_append_cons (base first : Text) (rest : List Text) :
    joinLines ((base ++ first) :: rest) = base ++ joinLines (first :: rest) := by
  cases rest with
  | nil => rw [Text.joinLines_singleton, Text.joinLines_singleton]
  | cons second rest =>
    rw [Text.joinLines_cons_cons, Text.joinLines_cons_cons, List.append_assoc]

theorem head?_joinLines_cons (solid : first ≠ []) (rest : List Text) :
    (joinLines (first :: rest)).head? = first.head? := by
  obtain ⟨c, others, rfl⟩ := List.exists_cons_of_ne_nil solid
  cases rest with
  | nil => rw [Text.joinLines_singleton]
  | cons second rest => rw [Text.joinLines_cons_cons]; rfl

theorem head?_trimEnd_ne_newline {line : Text} (single : '\n' ∉ line) :
    (trimEnd line).head? ≠ some '\n' := by
  intro feed
  obtain ⟨tail, -, whole⟩ := Text.exists_trimEnd_append line
  rw [← whole] at single
  exact single (List.mem_append_left _ (List.mem_of_head? feed))

theorem trimEnd_ne_nil {line : Text} (solid : allBlank line = false) : trimEnd line ≠ [] := by
  intro nothing
  obtain ⟨tail, blank, whole⟩ := Text.exists_trimEnd_append line
  rw [nothing, List.nil_append] at whole
  rw [← whole, blank] at solid
  cases solid

/-- The rendered lines begin with a line that is neither empty nor blank. -/
theorem exists_render_eq_cons (single : ∀ line ∈ lines, '\n' ∉ line)
    (solid : ∃ line ∈ lines, allBlank line = false) (base : Text) : ∃ first rest,
      Outline.render base lines = (base ++ first) :: rest ∧ first ≠ [] ∧ first.head? ≠ some '\n' := by
  unfold Outline.render
  cases shown : lines.filter fun line => !allBlank line with
  | nil =>
    obtain ⟨line, member, visible⟩ := solid
    have hidden := List.filter_eq_nil_iff.1 shown line member
    rw [visible] at hidden
    exact absurd rfl hidden
  | cons line others =>
    have member : line ∈ lines.filter fun line => !allBlank line := by simp [shown]
    obtain ⟨inside, visible⟩ := List.mem_filter.1 member
    exact ⟨trimEnd line, _, rfl, trimEnd_ne_nil (by simpa using visible),
      head?_trimEnd_ne_newline (single line inside)⟩

/-- What stands in front of the clause, as it is found again. -/
theorem outlineText_eq (cut : Cut session.document target before behind) (lines : List Text) :
    session.outlineText target lines =
      if allBlank before then
        (joinLines (Outline.render (indentation (before ++ target.content ++ behind)) lines)).drop
          (indentation (before ++ target.content ++ behind)).length
      else
        (if Text.endsWith proofSign (trimEnd before) then byWord else []) ++ '\n' :: joinLines
          (Outline.render (indentation (before ++ target.content ++ behind) ++ [' ', ' ']) lines) := by
  unfold outlineText
  dsimp only
  rw [cut.line, Option.getD_some, ← cut.column, List.append_assoc before, Text.splitAtByte?_size_append]
  rfl

/-- **The edit writes the line with the outline in it.** -/
theorem spliceLine_outlineText (cut : Cut session.document target before behind)
    (visible : ∃ c rest, target.content = c :: rest ∧ isBlank c = false)
    (single : ∀ line ∈ lines, '\n' ∉ line) (solid : ∃ line ∈ lines, allBlank line = false) :
    spliceLine before target.content behind (session.outlineText target lines) =
      outlinedLine (indentation (before ++ target.content ++ behind)) before behind lines := by
  obtain ⟨c, rest, content, shows⟩ := visible
  -- The span is not empty, so no space is put in front of the text.
  have noGlue : ∀ kept new, glue kept target.content new = [] := by
    intro kept new
    refine if_neg fun joins => ?_
    rw [content] at joins
    cases joins.1
  rw [outlineText_eq cut]
  unfold outlinedLine spliceLine
  dsimp only
  by_cases blank : allBlank before = true
  · -- The indentation is what stands in front of the clause, and the edit keeps it.
    have indent : indentation (before ++ target.content ++ behind) = before := by
      rw [List.append_assoc, content]
      refine Source.takeWhile_append (List.all_eq_true.1 blank) fun d first => ?_
      cases first
      exact shows
    obtain ⟨first, others, rendered, full, other⟩ := exists_render_eq_cons single solid before
    have text : (joinLines (Outline.render before lines)).drop before.length =
        joinLines (first :: others) := by
      rw [rendered, joinLines_append_cons, List.drop_left]
    rw [indent, if_pos blank, if_pos blank, text, head?_joinLines_cons full, if_neg other, noGlue,
      List.append_nil, ← joinLines_append_cons, ← rendered]
    rfl
  · rw [if_neg blank, if_neg blank]
    unfold outlineHead
    by_cases sign : Text.endsWith proofSign (trimEnd before) = true
    · have letter : (byWord ++ '\n' :: joinLines (Outline.render
          (indentation (before ++ target.content ++ behind) ++ [' ', ' ']) lines)).head? ≠
          some '\n' := by
        intro feed
        cases feed
      rw [if_pos sign, if_pos sign, if_neg letter, noGlue, List.append_nil, ← List.append_assoc before]
      rfl
    · rw [if_neg sign, if_neg sign, List.nil_append, List.head?_cons, if_pos rfl, noGlue, List.append_nil]
      rfl

/-- **An outline takes the place of the first clause that opens**, and changes no other line. In every
session that a run leads to, when some clause opens and some line of the outline is not blank, the step
is the edit of the first such clause; it succeeds, and the line of the clause becomes the line with the
outline in it. -/
theorem addOutline_expands (verifier : Respondent Text fun _ => Verification)
    (said : List (Exchange Text fun _ => Verification)) (session : Session)
    (reached : Reached verifier said session) (opening : ∃ clause ∈ session.clauses, Opens clause)
    (lines : List Text) (single : ∀ line ∈ lines, '\n' ∉ line)
    (solid : ∃ line ∈ lines, allBlank line = false) :
    ∃ target before behind new, FirstOpen session.clauses target ∧
      Cut session.document target before behind ∧
      session.addOutline lines = session.edit target.id new ∧
      ∃ result after exchange,
        (session.addOutline lines).heldWith verifier said = ((.ok result, after), said ++ [exchange]) ∧
        let owned := outlinedLine (indentation (before ++ target.content ++ behind)) before behind lines
        after.document = joinLines ((Text.lines session.document).set target.start.line owned) ∧
        Text.lines after.document = (Text.lines session.document).take target.start.line ++
          (Text.lines owned ++ (Text.lines session.document).drop (target.start.line + 1)) := by
  have current := reached.current
  obtain ⟨target, found, first⟩ := current.exists_firstOpen opening
  have scanned : target ∈ Clause.scan session.document := current.clauses ▸ first.member
  obtain ⟨before, behind, cut⟩ := Clause.exists_cut_of_mem_scan scanned
  have isEdit : session.addOutline lines =
      session.edit target.id (session.outlineText target lines) := by
    unfold addOutline
    rw [found]
  have spliced := cut.splice_eq scanned (session.outlineText target lines)
  rw [spliceLine_outlineText cut (first.opens.exists_content scanned) single solid] at spliced
  obtain ⟨result, report, held⟩ :=
    (current.replaces first.member spliced).heldWith verifier said
  refine ⟨target, before, behind, _, first, cut, isEdit, result, _, _, isEdit ▸ held, rfl, ?_⟩
  exact Text.lines_set (List.getElem?_eq_some_iff.1 cut.line).1 _

/-- The proof of a theorem without `by`, behind a no-break space and in front of a remark. -/
theorem addOutline_expands_term :
    let document := Text.joinLines ["-- two lines", "\u00a0theorem t : True := sorry -- later"]
    let target := Clause.place "sorry_0" .placeholder 1 22 Source.sorryWord
    let lines : List Text := ["have h : True := by sorry  ", " ", "  exact h"]
    let verifier : Respondent Text fun _ => Verification := fun _ _ => .ofResponse "Success"
    let session := { fresh ⟨"5e551d01", "1257a9ce"⟩ false with document }.absorb (.ofResponse "Success")
    Reached verifier [⟨document, .ofResponse "Success"⟩] session ∧
      target ∈ session.clauses ∧ Opens target ∧
      (∀ line ∈ lines, '\n' ∉ line) ∧ (∃ line ∈ lines, allBlank line = false) ∧
      (∃ new, session.addOutline lines = session.edit target.id new) ∧
      ∃ result after exchange,
        (session.addOutline lines).heldWith verifier [⟨document, .ofResponse "Success"⟩] =
          ((.ok result, after), [⟨document, .ofResponse "Success"⟩, exchange]) ∧
        after.document = Text.joinLines ["-- two lines", "\u00a0theorem t : True := by",
          "\u00a0  have h : True := by sorry", "\u00a0    exact h -- later"] := by
  intro document target lines verifier session
  have reached : Reached verifier [⟨document, .ofResponse "Success"⟩] session :=
    reached_load verifier ⟨"5e551d01", "1257a9ce"⟩ false document
  have clauses : session.clauses = [target] := by
    show Clause.scan document = [target]
    decide +kernel
  have member : target ∈ session.clauses := by simp [clauses]
  have single : ∀ line ∈ lines, '\n' ∉ line := by decide
  have solid : ∃ line ∈ lines, allBlank line = false := by decide
  obtain ⟨target', before, behind, new, first, cut, isEdit, result, after, exchange, held, written, -⟩ :=
    addOutline_expands verifier _ session reached ⟨target, member, .inr rfl⟩ lines single solid
  obtain rfl : target' = target := by
    have only := first.member
    rw [clauses] at only
    exact List.mem_singleton.1 only
  have owner : (Text.lines document)[1]? =
      some ("\u00a0theorem t : True := ".toList ++ (Source.sorryWord ++ " -- later".toList)) := by
    decide +kernel
  have same := Option.some.inj (cut.line.symm.trans owner)
  rw [List.append_assoc] at same
  obtain ⟨rfl, rest⟩ := Text.append_inj_of_size same (cut.column.trans (by decide))
  obtain rfl : behind = " -- later".toList := List.append_cancel_left rest
  refine ⟨reached, member, .inr rfl, single, solid, ⟨new, isEdit⟩, result, after, exchange, held, written.trans ?_⟩
  show joinLines ((Text.lines document).set 1 _) = _
  decide +kernel

end Session
end ProofDesk
