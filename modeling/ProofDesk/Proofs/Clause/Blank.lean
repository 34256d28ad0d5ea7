import ProofDesk.Proofs.Clause.Coverage
import ProofDesk.Proofs.Clause.Origin
import ProofDesk.Proofs.Clause.ReadBack
import ProofDesk.Proofs.Source.Depth
import ProofDesk.Proofs.Source.Layout

/-!
# Blank lines

A line that holds nothing but blanks outside its comments has nothing to edit. Whether a line is passed
over is decided by the narrow notion of blanks, while clauses are trimmed by the wide one, so a line with
a blank of the wide notion only is read like any other.

* `BlankOutside` — nothing but blanks of the wide notion stands outside the comments of a line.
* `hasCode_iff_of_blank` — such a line has code exactly when one of its blanks is none of the narrow
  notion.
* `Misread` and `clausesOf_ne_nil_iff` — when such a line has a clause.
* `blank_of_content_eq_nil` — only the proof of a `have` line and such a line make an empty clause.
* `skipsBlank_iff` — when blank lines have no clauses and clauses are not empty.
-/

namespace ProofDesk
namespace Clause

open Source (Mode marks scanLine sorryWord tacticSign)
open Text (allBlank isAsciiBlank isBlank size)

variable {document line : Text} {stage : Stage} {clause : Clause} {n depth : Nat}

/-! ### Lines that are blank outside comments -/

/-- **Outside its comments the line holds nothing but blanks**, of the notion by which clauses are
trimmed. The line begins inside `depth` block comments. -/
def BlankOutside (depth : Nat) (line : Text) : Prop :=
  ∀ mark ∈ marks (.atDepth depth) line, mark.2.silent = false → isBlank mark.1 = true

theorem blankOutside_iff : BlankOutside depth line ↔
    ((marks (.atDepth depth) line).all fun mark => mark.2.silent || isBlank mark.1) = true := by
  rw [List.all_eq_true]
  refine forall₂_congr fun mark _ => ?_
  cases mark.2.silent <;> simp

instance (depth : Nat) (line : Text) : Decidable (BlankOutside depth line) :=
  decidable_of_iff _ blankOutside_iff.symm

theorem blankOutside_of_allBlank (blank : allBlank line = true) (depth : Nat) :
    BlankOutside depth line := by
  intro mark member _
  refine List.all_eq_true.1 blank mark.1 ?_
  rw [← Source.map_fst_marks (.atDepth depth) line]
  exact List.mem_map_of_mem member

/-- A literal begins with a quote, which is no blank. -/
theorem ne_literal_of_blank {mode : Mode} (unquoted : mode.isQuoted = false)
    (blank : ∀ mark ∈ marks mode line, mark.2.silent = false → isBlank mark.1 = true) :
    ∀ mark ∈ marks mode line, mark.2 ≠ .literal := by
  induction line generalizing mode with
  | nil => nofun
  | cons c rest ih =>
    have here : (mode.step c rest.head?).1 ≠ .literal := by
      intro literal
      have visible : isBlank c = true :=
        blank (c, _) (List.mem_cons_self ..) (by rw [literal]; rfl)
      have quote : c ≠ '"' := by
        rintro rfl
        cases visible
      rcases Source.mode_of_literal quote literal with rfl | rfl <;> cases unquoted
    have next : (mode.step c rest.head?).2.isQuoted = false := by
      cases quoted : (mode.step c rest.head?).2.isQuoted with
      | false => rfl
      | true =>
        obtain ⟨rfl, rfl⟩ := Source.quote_of_isQuoted unquoted quoted
        exact absurd rfl here
    intro mark member
    rcases List.mem_cons.1 member with rfl | later
    · exact here
    · exact ih next (fun mark member => blank mark (List.mem_cons_of_mem _ member)) mark later

/-- **The line has code** exactly when one of its blanks is blank by the wide notion only. -/
theorem hasCode_iff_of_blank (blank : BlankOutside depth line) :
    (scanLine depth line).hasCode = true ↔
      ∃ mark ∈ marks (.atDepth depth) line, mark.2 = .code ∧ isAsciiBlank mark.1 = false := by
  have unquoted : (Mode.atDepth depth).isQuoted = false := by cases depth <;> rfl
  have unquoted := ne_literal_of_blank unquoted blank
  show (marks _ line).any Source.isSolid = true ↔ _
  rw [List.any_eq_true]
  refine exists_congr fun ⟨c, region⟩ => and_congr_right fun member => ?_
  cases region with
  | code => simp [Source.isSolid]
  | literal => exact absurd rfl (unquoted _ member)
  | comment => simp [Source.isSolid]
  | remark => simp [Source.isSolid]

/-- Such a line has no placeholder. -/
theorem sorries_eq_nil_of_blank (blank : BlankOutside depth line) :
    (scanLine depth line).sorries = [] := by
  refine List.eq_nil_iff_forall_not_mem.2 fun column reported => ?_
  obtain ⟨front, behind, rfl, -, -, -, coded⟩ := Source.exists_split_of_mem_sorries reported
  have letter : ('s', Source.Region.code) ∈ marks (.atDepth depth) (front ++ (sorryWord ++ behind)) := by
    rw [Source.marks_plain Source.plain_sorryWord coded]
    refine List.mem_append_right _ (List.mem_append_left _ (List.mem_map_of_mem ?_))
    decide
  cases blank _ letter rfl

/-! ### When such a line has a clause -/

/-- **A line that is blank outside comments is read as code**: one of its blanks is blank by the wide
notion only, and it stands in a proof, or in a header and a comment of it has a `:= by` with more than
blanks behind it. -/
structure Misread (stage : Stage) (line : Text) : Prop where
  wide : ∃ mark ∈ marks (.atDepth stage.depth) line, mark.2 = .code ∧ isAsciiBlank mark.1 = false
  entered : stage.context.enter (scanLine stage.depth line).code = .proof ∨
    stage.context.enter (scanLine stage.depth line).code = .header ∧ ∃ before rest,
      Text.breakOn? tacticSign (scanLine stage.depth line).code = some (before, rest) ∧
        allBlank rest = false

theorem hasCode_of_ne_nil (some : stage.clausesOf n line ≠ []) :
    (scanLine stage.depth line).hasCode = true := by
  by_contra code
  refine some ?_
  unfold Stage.clausesOf lineClauses
  rw [if_neg code]

theorem proofClauses_ne_nil {scan : Source.LineScan} (unmarked : scan.sorries = []) (taken : List Text)
    (n : Nat) (line : Text) : proofClauses taken n line scan ≠ [] := by
  unfold proofClauses
  dsimp only
  rw [if_pos unmarked]
  repeat' split
  all_goals exact List.cons_ne_nil _ _

/-- **When a line that is blank outside comments has a clause.** -/
theorem clausesOf_ne_nil_iff (blank : BlankOutside stage.depth line) (n : Nat) :
    stage.clausesOf n line ≠ [] ↔ Misread stage line := by
  have unmarked := sorries_eq_nil_of_blank blank
  constructor
  · intro some
    refine ⟨(hasCode_iff_of_blank blank).1 (hasCode_of_ne_nil some), ?_⟩
    obtain ⟨clause, member⟩ := List.exists_mem_of_ne_nil _ some
    cases origin_of_mem member with
    | placeholder k reported =>
      rw [unmarked] at reported
      cases reported
    | mainProof entered opens solid =>
      rw [Ne, trimmedAt_eq_nil, Bool.not_eq_true] at solid
      exact .inr ⟨entered, _, _, opens, solid⟩
    | haveProof entered found => exact .inl entered
    | tacticBlock entered found => exact .inl entered
    | line whole entered => exact .inl entered
  · rintro ⟨wide, entered⟩
    have code := (hasCode_iff_of_blank blank).2 wide
    rcases entered with entered | ⟨entered, before, rest, opens, solid⟩
    · rw [clausesOf_of_proof code entered]
      exact proofClauses_ne_nil unmarked _ _ _
    · have solid : (trimmedAt (size before + size tacticSign) rest).2 ≠ [] := by
        rw [Ne, trimmedAt_eq_nil, solid]
        exact Bool.false_ne_true
      rw [clausesOf_of_header code entered, headerClauses, opens]
      dsimp only
      rw [unmarked, List.filter_nil, if_pos rfl]
      dsimp only
      rw [if_neg solid]
      exact List.cons_ne_nil _ _

/-! ### Empty clauses -/

/-- Behind `by` and a blank, trimmed code goes on. -/
theorem solid_of_afterBy {code inside : Text}
    (found : Text.after? (Source.byWord ++ [' ']) (Text.trim code) = some inside) :
    allBlank ((Text.trimStart code).drop 3) = false := by
  obtain ⟨tail, -, whole⟩ := Text.exists_trim_append code
  have cut := Text.after?_eq_some.1 found
  have behind : (Text.trimStart code).drop 3 = inside ++ tail := by
    rw [whole, cut]
    rfl
  have solid : inside ≠ [] := by
    rintro rfl
    have space : isBlank ' ' = false := Text.blank_ends_trim (t := code) (.inr (by rw [cut]; rfl))
    cases space
  have visible : isBlank (inside.getLast solid) = false := by
    refine Text.blank_ends_trim (t := code) (.inr ?_)
    rw [cut, List.getLast?_append, List.getLast?_eq_some_getLast solid]
    rfl
  rw [behind]
  exact Text.allBlank_eq_false.2
    ⟨_, List.mem_append_left _ (List.getLast_mem solid), visible⟩

/-- **An empty clause** is the proof of a `have` line, or a line of a proof that holds nothing but
blanks. -/
theorem blank_of_content_eq_nil (member : clause ∈ stage.clausesOf n line)
    (empty : clause.content = []) : clause.category = .haveProof ∨ allBlank line = true := by
  cases origin_of_mem member with
  | placeholder k reported => cases empty
  | mainProof entered opens solid => exact absurd empty solid
  | haveProof entered found => exact .inl rfl
  | tacticBlock entered found =>
    have blank := trimmedAt_eq_nil.1 empty
    rw [solid_of_afterBy found] at blank
    cases blank
  | line whole entered =>
    have blank := trimmedAt_eq_nil.1 empty
    obtain ⟨remark, split⟩ := Source.exists_code_append stage.depth line
    have cut := append_eq_indentation_append (scanLine stage.depth line).code remark
    rw [← split] at cut
    have indented : allBlank (Text.indentation (scanLine stage.depth line).code) = true :=
      List.all_takeWhile
    rw [cut]
    exact .inr (allBlank_append indented blank)

/-! ### Documents -/

/-- **Blank lines have no clauses, and clauses are not empty**, but for the proof of a `have` line. -/
structure SkipsBlank (document : Text) : Prop where
  skipped : ∀ n line, (Text.lines document)[n]? = some line →
    BlankOutside (Stage.before document n).depth line →
      ∀ clause ∈ scan document, clause.start.line ≠ n
  solid : ∀ clause ∈ scan document, clause.content = [] → clause.category = .haveProof

theorem exists_mem_scan_iff (found : (Text.lines document)[n]? = some line) :
    (∃ clause ∈ scan document, clause.start.line = n) ↔
      (Stage.before document n).clausesOf n line ≠ [] := by
  constructor
  · rintro ⟨clause, member, rfl⟩
    obtain ⟨line', found', inside⟩ := mem_scan_iff.1 member
    obtain rfl := Option.some.inj (found.symm.trans found')
    exact List.ne_nil_of_mem inside
  · intro some
    obtain ⟨clause, inside⟩ := List.exists_mem_of_ne_nil _ some
    have number := (Stage.onLine_of_mem_clausesOf inside).start
    exact ⟨clause, mem_scan_iff.2 ⟨line, by rwa [number], by rwa [number]⟩, number⟩

/-- **When blank lines are passed over.** What a clause holds is trimmed. A line that is blank outside
comments has a clause exactly when it is misread, so blank lines have no clauses and clauses are not empty
exactly when no such line is misread. -/
theorem skipsBlank_iff (document : Text) :
    (∀ clause ∈ scan document, Text.trim clause.content = clause.content) ∧
    (∀ n line, (Text.lines document)[n]? = some line →
      BlankOutside (Stage.before document n).depth line →
        ((∃ clause ∈ scan document, clause.start.line = n) ↔
          Misread (Stage.before document n) line)) ∧
    (SkipsBlank document ↔ ∀ n line, (Text.lines document)[n]? = some line →
      BlankOutside (Stage.before document n).depth line → ¬ Misread (Stage.before document n) line) := by
  have reads : ∀ n line, (Text.lines document)[n]? = some line →
      BlankOutside (Stage.before document n).depth line →
        ((∃ clause ∈ scan document, clause.start.line = n) ↔
          Misread (Stage.before document n) line) := fun n line found blank =>
    (exists_mem_scan_iff found).trans (clausesOf_ne_nil_iff blank n)
  refine ⟨fun clause member => ?_, reads, fun skips n line found blank misread => ?_, fun well => ?_⟩
  · obtain ⟨line, -, inside⟩ := mem_scan_iff.1 member
    exact (origin_of_mem inside).trim_content
  · obtain ⟨clause, member, number⟩ := (reads n line found blank).2 misread
    exact skips.skipped n line found blank clause member number
  · refine ⟨fun n line found blank clause member number => ?_, fun clause member empty => ?_⟩
    · exact well n line found blank ((reads n line found blank).1 ⟨clause, member, number⟩)
    · obtain ⟨line, found, inside⟩ := mem_scan_iff.1 member
      refine (blank_of_content_eq_nil inside empty).resolve_right fun blank => ?_
      have outside := blankOutside_of_allBlank blank (Stage.before document clause.start.line).depth
      exact well _ line found outside ((reads _ line found outside).1 ⟨clause, member, rfl⟩)

/-- A no-break space in front of a declaration, and a remark in its proof. -/
theorem skipsBlank_iff_remark :
    let document := Text.joinLines ["\u00a0", "theorem t : True := by", "  -- talk", "  sorry"]
    BlankOutside (Stage.before document 0).depth "\u00a0" ∧
      BlankOutside (Stage.before document 2).depth "  -- talk" ∧
      ¬ (∃ clause ∈ scan document, clause.start.line = 0) ∧
      ¬ (∃ clause ∈ scan document, clause.start.line = 2) ∧ SkipsBlank document := by
  intro document
  obtain ⟨-, reads, skips⟩ := skipsBlank_iff document
  have split : Text.lines document =
      ["\u00a0".toList, "theorem t : True := by".toList, "  -- talk".toList, "  sorry".toList] := by
    decide +kernel
  have blank : BlankOutside (Stage.before document 0).depth "\u00a0" := by decide +kernel
  have blank' : BlankOutside (Stage.before document 2).depth "  -- talk" := by decide +kernel
  have outside : ¬ Misread (Stage.before document 0) "\u00a0" := by
    rintro ⟨-, entered | ⟨entered, -⟩⟩ <;> cases entered
  have bare : (scanLine (Stage.before document 2).depth "  -- talk").hasCode = false := by
    decide +kernel
  have talk : ¬ Misread (Stage.before document 2) "  -- talk" := by
    intro misread
    rw [(hasCode_iff_of_blank blank').2 misread.wide] at bare
    cases bare
  have found : (Text.lines document)[0]? = some "\u00a0".toList := by rw [split]; rfl
  have found' : (Text.lines document)[2]? = some "  -- talk".toList := by rw [split]; rfl
  refine ⟨blank, blank', fun some => outside ((reads 0 _ found blank).1 some),
    fun some => talk ((reads 2 _ found' blank').1 some), skips.2 fun n line here visible => ?_⟩
  rw [split] at here
  rcases n with _ | _ | _ | _ | n
  · cases here
    exact outside
  · cases here
    exact absurd visible (by decide +kernel)
  · cases here
    exact talk
  · cases here
    exact absurd visible (by decide +kernel)
  · cases here

/-- A no-break space on a line of a proof is a clause, and an empty one. -/
theorem not_skipsBlank :
    let document := Text.joinLines ["theorem t : True := by", "\u00a0", "  sorry"]
    allBlank "\u00a0" = true ∧ (∃ clause ∈ scan document, clause.start.line = 1) ∧
      ¬ SkipsBlank document := by
  intro document
  have found : (Text.lines document)[1]? = some "\u00a0".toList := by decide +kernel
  have blank : allBlank "\u00a0" = true := by decide
  have outside := blankOutside_of_allBlank blank (Stage.before document 1).depth
  have code : (scanLine (Stage.before document 1).depth "\u00a0").hasCode = true := by decide +kernel
  have misread : Misread (Stage.before document 1) "\u00a0" :=
    ⟨(hasCode_iff_of_blank outside).1 code, .inl (by decide +kernel)⟩
  have some := (exists_mem_scan_iff found).2 ((clausesOf_ne_nil_iff outside 1).2 misread)
  refine ⟨blank, some, fun skips => ?_⟩
  obtain ⟨clause, member, number⟩ := some
  exact skips.skipped 1 _ found outside clause member number

end Clause
end ProofDesk
