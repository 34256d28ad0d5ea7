import ProofDesk.Proofs.Clause.Introduction
import ProofDesk.Proofs.Clause.Splice

/-!
# Reading back what was written

An edit writes text into the span of a clause. The scan of the new document finds the text again, as
the content of a clause with the same id and category, and writing it once more changes nothing.

It does so unless the text runs into what stands next to the span. One space is put between the text
and the code in front of it only when the span was empty, and none is ever put behind it.

* `Cut` — the line of a clause, cut around its span.
* `Insertable` — text without a line feed, blanks at its ends, quotes, comments and placeholders.
* `JoinsWord` and `JoinsRemark` — how text runs into what stands next to the span.
* `splice_content` — writing what a clause holds changes nothing.
* `holds_of_around` — the introduction of a clause introduces the new text.
* `readsBack_of_apart` — new text that stays apart is read back.
-/

namespace ProofDesk
namespace Clause

open Source (Closed CodeSplit Mode Stops byWord marks marksBefore scanLine sorryWord)
open Text (allBlank isBlank isWordChar size)

variable {document line new before behind intro rest remark : Text} {clause : Clause}
  {category : Category} {stage : Stage} {c : Char}

/-! ### Around the span -/

/-- **The line of a clause, cut around its span.** -/
structure Cut (document : Text) (clause : Clause) (before behind : Text) : Prop where
  line : (Text.lines document)[clause.start.line]? = some (before ++ clause.content ++ behind)
  column : size before = clause.start.column

theorem exists_cut_of_mem_scan (member : clause ∈ scan document) :
    ∃ before behind, Cut document clause before behind := by
  obtain ⟨line, found, lies⟩ := exists_onLine_of_mem_scan member
  obtain ⟨before, behind, rfl, sized⟩ := lies.stands
  exact ⟨before, behind, found, sized⟩

/-- The line of a clause is cut in one way only. -/
theorem Cut.eq {before' behind' : Text} (cut : Cut document clause before behind)
    (cut' : Cut document clause before' behind') : before = before' ∧ behind = behind' := by
  have lines := Option.some.inj (cut.line.symm.trans cut'.line)
  rw [List.append_assoc, List.append_assoc] at lines
  obtain ⟨front, rest⟩ := Text.append_inj_of_size lines (cut.column.trans cut'.column.symm)
  exact ⟨front, List.append_cancel_left rest⟩

theorem Cut.splice_eq (cut : Cut document clause before behind) (member : clause ∈ scan document)
    (new : Text) : clause.splice document new = .ok (Text.joinLines ((Text.lines document).set
      clause.start.line (spliceLine before clause.content behind new))) := by
  obtain ⟨line, found, lies⟩ := exists_onLine_of_mem_scan member
  obtain ⟨before', behind', rfl, sized, spliced⟩ := splice_of_onLine found lies new
  obtain ⟨rfl, rfl⟩ := cut.eq ⟨found, sized⟩
  exact spliced

/-- **Writing what a clause holds** changes nothing. -/
theorem splice_content (member : clause ∈ scan document) :
    clause.splice document clause.content = .ok document := by
  obtain ⟨before, behind, cut⟩ := exists_cut_of_mem_scan member
  have single : clause.content.head? ≠ some '\n' := by
    intro first
    have inLine := Text.not_mem_of_mem_lines (List.mem_of_getElem? cut.line)
    obtain ⟨rest, content⟩ := List.head?_eq_some_iff.1 first
    simp [content] at inLine
  have noGlue : glue before clause.content clause.content = [] :=
    if_neg fun joins => joins.2.1 joins.1
  have same : spliceLine before clause.content behind clause.content =
      before ++ clause.content ++ behind := by
    unfold spliceLine
    dsimp only
    rw [if_neg single, noGlue, List.append_nil]
  obtain ⟨inside, here⟩ := List.getElem?_eq_some_iff.1 cut.line
  rw [cut.splice_eq member, same, ← here, List.set_getElem_self, Text.joinLines_lines]

/-! ### Text that can be written -/

/-- **Text for one line of a proof**: not empty, without blanks at its ends, and without anything that
would begin a literal, a remark, a comment or a placeholder. -/
structure Insertable (new : Text) : Prop where
  solid : new ≠ []
  single : '\n' ∉ new
  trimmed : Text.trim new = new
  unquoted : '"' ∉ new
  noRemark : ¬ ['-', '-'] <:+: new
  noComment : ¬ ['/', '-'] <:+: new
  complete : ¬ sorryWord <:+: new

instance (new : Text) : Decidable (Insertable new) :=
  decidable_of_iff (new ≠ [] ∧ '\n' ∉ new ∧ Text.trim new = new ∧ '"' ∉ new ∧
      Text.contains ['-', '-'] new = false ∧ Text.contains ['/', '-'] new = false ∧
      Text.contains sorryWord new = false) <| by
    simp only [Bool.eq_false_iff, Ne, Text.contains_iff]
    exact ⟨fun ⟨h₁, h₂, h₃, h₄, h₅, h₆, h₇⟩ => ⟨h₁, h₂, h₃, h₄, h₅, h₆, h₇⟩,
      fun ⟨h₁, h₂, h₃, h₄, h₅, h₆, h₇⟩ => ⟨h₁, h₂, h₃, h₄, h₅, h₆, h₇⟩⟩

/-- **The text runs into the word `by`** of a `have` line: it begins with a character of words, and
the content that it replaces stands directly behind the word. -/
structure JoinsWord (clause : Clause) (before new : Text) : Prop where
  fact : clause.category = .haveProof
  full : clause.content ≠ []
  touches : ∀ c, before.getLast? = some c → isBlank c = false
  word : ∃ c, new.head? = some c ∧ isWordChar c = true

/-- **The text runs into the remark** behind the span: its last character and the first hyphen would
begin a remark or a comment. -/
structure JoinsRemark (new behind : Text) : Prop where
  remark : ['-', '-'] <+: behind
  opens : new.getLast? = some '-' ∨ new.getLast? = some '/'

/-- **What is written is read back**: on the same line the new document has a clause with the same id
and category whose content is the new text, and writing the text there once more changes nothing. -/
def ReadsBack (document : Text) (clause : Clause) (new : Text) : Prop :=
  ∃ updated, clause.splice document new = .ok updated ∧
    ∃ written ∈ scan updated, written.start.line = clause.start.line ∧ written.id = clause.id ∧
      written.category = clause.category ∧ written.content = new ∧
      written.splice updated new = .ok updated

/-- The clause begins outside comments and literals. -/
def BeginsInCode (document : Text) (clause : Clause) (before behind : Text) : Prop :=
  Mode.through (.atDepth (Source.depthAfter 0 ((Text.lines document).take clause.start.line)))
    before (clause.content ++ behind) = .code

theorem Insertable.exists_cons (insertable : Insertable new) :
    ∃ c others, new = c :: others ∧ isBlank c = false := by
  obtain ⟨c, others, rfl⟩ := List.exists_cons_of_ne_nil insertable.solid
  exact ⟨c, others, rfl, Text.visible_of_trim_eq_self insertable.trimmed (.inl rfl)⟩

theorem allBlank_glue (before inside new : Text) : allBlank (glue before inside new) = true := by
  unfold glue
  split <;> rfl

theorem allBlank_append {t t' : Text} (blank : allBlank t = true) (blank' : allBlank t' = true) :
    allBlank (t ++ t') = true := by
  rw [allBlank, List.all_append, Bool.and_eq_true]
  exact ⟨blank, blank'⟩

/-- Text for one line takes nothing off the line in front of it. -/
theorem spliceLine_of_single (single : '\n' ∉ new) (before inside behind : Text) :
    spliceLine before inside behind new = before ++ (glue before inside new ++ (new ++ behind)) := by
  have start : new.head? ≠ some '\n' := fun first => single (List.mem_of_head? first)
  unfold spliceLine
  dsimp only
  rw [if_neg start, List.append_assoc, List.append_assoc]

/-- No space is put in front of text that takes the place of a placeholder. -/
theorem spliceLine_sorryWord (single : '\n' ∉ new) (before behind : Text) :
    spliceLine before sorryWord behind new = before ++ (new ++ behind) := by
  have noGlue : glue before sorryWord new = [] := if_neg fun joins => nomatch joins.1
  rw [spliceLine_of_single single, noGlue, List.nil_append]

theorem newline_not_mem_spliceLine {inside : Text} (single : '\n' ∉ new)
    (single' : '\n' ∉ before ++ inside ++ behind) : '\n' ∉ spliceLine before inside behind new := by
  rw [spliceLine_of_single single]
  simp only [List.mem_append, not_or] at single' ⊢
  refine ⟨single'.1.1, ?_, single, single'.2⟩
  unfold glue
  split <;> decide

/-! ### The new line -/

/-- **A line around an introduced clause**: blanks stand between the introduction and the content, and
between the content and the remark. -/
structure Around (stage : Stage) (intro gap content tail remark : Text) : Prop where
  split : CodeSplit stage.depth (intro ++ gap ++ content ++ (tail ++ remark))
    (intro ++ gap ++ content ++ tail) remark
  blank : allBlank gap = true
  blankTail : allBlank tail = true
  bare : content = [] → gap = []

variable {gap content tail : Text}

theorem exists_around (member : clause ∈ stage.clausesOf clause.start.line line)
    (kind : IsIntroduced clause.category) :
    ∃ intro gap tail remark, line = intro ++ gap ++ clause.content ++ (tail ++ remark) ∧
      size (intro ++ gap) = clause.start.column ∧
      Around stage intro gap clause.content tail remark ∧
      introOf? clause.category (intro ++ (gap ++ clause.content ++ tail)) = some intro ∧
      Introduces stage clause.start.line clause.id clause.category intro := by
  obtain ⟨intro, rest, code, placed, known, introduces⟩ := exists_introduction member kind
  obtain ⟨remark, split⟩ := Source.codeSplit_scanLine stage.depth line
  obtain ⟨gap, tail, whole, column, blank, blankTail, bare⟩ :=
    Text.exists_around_trimmedAt rest (size intro)
  have content : clause.content = (trimmedAt (size intro) rest).2 := congrArg Clause.content placed
  have start : clause.start.column = (trimmedAt (size intro) rest).1 :=
    congrArg (fun clause => clause.start.column) placed
  rw [← content] at whole bare
  have shape : (scanLine stage.depth line).code = intro ++ gap ++ clause.content ++ tail := by
    rw [code, whole]
    simp only [List.append_assoc]
  rw [shape] at split known
  have line' : line = intro ++ gap ++ clause.content ++ (tail ++ remark) := by
    rw [← List.append_assoc]
    exact split.whole
  refine ⟨intro, gap, tail, remark, line', ?_, ⟨?_, blank, blankTail, bare⟩, ?_, introduces⟩
  · rw [Text.size_append, start, column]
  · rwa [← line']
  · rwa [List.append_assoc intro, List.append_assoc intro, List.append_assoc gap,
      ← List.append_assoc gap] at known

/-- The line of an introduced clause is cut in the same way around its span. -/
theorem Cut.exists_around (cut : Cut document clause before behind) (member : clause ∈ scan document)
    (kind : IsIntroduced clause.category) : ∃ intro gap tail remark,
      before = intro ++ gap ∧ behind = tail ++ remark ∧
      Around (Stage.before document clause.start.line) intro gap clause.content tail remark ∧
      introOf? clause.category (intro ++ (gap ++ clause.content ++ tail)) = some intro ∧
      Introduces (Stage.before document clause.start.line) clause.start.line clause.id
        clause.category intro := by
  obtain ⟨line, found, inside⟩ := mem_scan_iff.1 member
  obtain ⟨intro, gap, tail, remark, rfl, sized, around⟩ := Clause.exists_around inside kind
  have cut' : Cut document clause (intro ++ gap) (tail ++ remark) := ⟨found, sized⟩
  obtain ⟨front, rest⟩ := cut.eq cut'
  exact ⟨intro, gap, tail, remark, front, rest, around⟩

/-- **Nothing in the new code opens a remark or a comment** when the text does not run into the
remark behind it. -/
theorem not_infix_pair {first : Char} (opens : first = '-' ∨ first = '/')
    (absent : ¬ [first, '-'] <:+: new) (blank : allBlank gap = true) (blankTail : allBlank tail = true)
    (remarked : remark = [] ∨ ∃ more, remark = '-' :: '-' :: more)
    (apart : ¬ JoinsRemark new (tail ++ remark)) :
    ¬ [first, '-'] <:+: gap ++ (new ++ tail) ++ remark.take 1 := by
  have visible : isBlank first = false := by rcases opens with rfl | rfl <;> decide
  have notIn : ∀ {t : Text}, allBlank t = true →
      ¬ [first, '-'] <:+: t ∧ t.getLast? ≠ some first := by
    intro t blank
    have none : first ∉ t := by
      intro member
      rw [List.all_eq_true.1 blank first member] at visible
      cases visible
    exact ⟨fun occurs => none (occurs.subset (List.mem_cons_self ..)),
      fun last => none (List.mem_of_getLast? last)⟩
  have behindText : ¬ [first, '-'] <:+: tail ++ remark.take 1 := by
    rw [Text.pair_infix_append_take]
    rintro (inside | ⟨last, -⟩)
    · exact (notIn blankTail).1 inside
    · exact (notIn blankTail).2 last
  rw [List.append_assoc, List.append_assoc, Text.pair_infix_append, Text.pair_infix_append]
  rintro (inside | (inside | inside | ⟨last, hyphen⟩) | ⟨last, -⟩)
  · exact (notIn blank).1 inside
  · exact absent inside
  · exact behindText inside
  · -- The text ends in the first character, and a hyphen follows, which only a remark begins with.
    cases tail with
    | cons b tail =>
      cases hyphen
      exact absurd (List.all_eq_true.1 blankTail '-' (List.mem_cons_self ..)) (by decide)
    | nil =>
      rcases remarked with rfl | ⟨more, rfl⟩
      · cases hyphen
      · refine apart ⟨⟨more, rfl⟩, ?_⟩
        rcases opens with rfl | rfl
        · exact .inl last
        · exact .inr last
  · exact (notIn blank).2 last

/-- The code in front of the span is read alike before other text, as it ends in a letter or a blank. -/
theorem closed_before {n : Nat} {id : Text} (introduces : Introduces stage n id category intro)
    (blank : allBlank gap = true) : ∀ c, (intro ++ gap).getLast? = some c → Closed c := by
  intro c last
  rw [List.getLast?_append] at last
  cases final : gap.getLast? with
  | some d =>
    rw [final] at last
    cases last
    exact Source.closed_of_allBlank blank c (List.mem_of_getLast? final)
  | none =>
    rw [final] at last
    rcases introduces.ends with letter | ⟨-, letter⟩
    · cases letter.symm.trans last
      exact ⟨by decide, by decide⟩
    · cases letter.symm.trans last
      exact ⟨by decide, by decide⟩

/-- The new text does not go on the word `by` of a `have` line, when it does not run into it. -/
theorem stops_of_not_joinsWord {n : Nat} {id : Text} {clause : Clause}
    (introduces : Introduces stage n id clause.category intro)
    (around : Around stage intro gap clause.content tail remark) (insertable : Insertable new)
    (apart : ¬ JoinsWord clause (intro ++ gap) new) (fact : clause.category = .haveProof) :
    Stops isWordChar (gap ++ glue (intro ++ gap) clause.content new ++ (new ++ tail)) := by
  have blankStops : ∀ {b : Char} {t : Text}, isBlank b = true → Stops isWordChar (b :: t) := by
    intro b t blank c first
    cases first
    exact (Source.apart_of_separates (Source.isNameChar_eq_false_of_isBlank blank)).2
  cases gap with
  | cons b gap => exact blankStops (List.all_eq_true.1 around.blank b (List.mem_cons_self ..))
  | nil =>
    have touches : intro.getLast? = some 'y' := introduces.ends.resolve_right fun block => by
      rw [fact] at block
      cases block.1
    obtain ⟨c, others, rfl, visible⟩ := insertable.exists_cons
    rw [List.append_nil] at apart ⊢
    by_cases full : clause.content = []
    · have joined : glue intro clause.content (c :: others) = [' '] := by
        refine if_pos ⟨full, List.cons_ne_nil _ _, by simp [visible], ?_⟩
        rw [touches]
        decide
      rw [joined]
      exact blankStops (by decide)
    · have apartHere : glue intro clause.content (c :: others) = [] := if_neg fun joins => full joins.1
      rw [apartHere]
      intro d first
      cases first
      cases word : isWordChar c with
      | false => rfl
      | true =>
        refine absurd ⟨fact, full, fun d last => ?_, c, rfl, word⟩ apart
        cases touches.symm.trans last
        decide

/-- The new code has placeholders in front of the text only. -/
theorem sorries_lt (complete : ¬ sorryWord <:+: new) (blank : allBlank gap = true)
    (blankTail : allBlank tail = true)
    (code : (scanLine stage.depth line).code = intro ++ (gap ++ (new ++ tail))) :
    ∀ column ∈ (scanLine stage.depth line).sorries, column < size intro := by
  intro column member
  obtain ⟨front, behind, whole, rfl⟩ := Source.exists_code_of_mem_sorries member
  have stands : Text.StandsAt sorryWord (size front) (intro ++ (gap ++ (new ++ tail))) :=
    ⟨front, behind, code.symm.trans whole, rfl⟩
  refine Nat.lt_of_not_le fun late => complete ?_
  obtain ⟨-, -, before, behind, inside, -⟩ := stands.of_append late
  have occurs : sorryWord <:+: gap ++ (new ++ tail) := ⟨before, behind, inside.symm⟩
  exact Text.infix_of_infix_blanks (by decide) Source.visible_sorryWord blank blankTail occurs

/-- What stands in front of the span is read alike before other text. -/
theorem front_of_around {n : Nat} {id : Text} (introduces : Introduces stage n id category intro)
    (around : Around stage intro gap content tail remark)
    (inCode : Mode.through (.atDepth stage.depth) (intro ++ gap) (content ++ (tail ++ remark)) = .code)
    (rest : Text) : Mode.through (.atDepth stage.depth) (intro ++ gap) rest = .code ∧
      ∀ mark ∈ marksBefore (.atDepth stage.depth) (intro ++ gap) rest, mark.2 ≠ .remark := by
  obtain ⟨marked, mode⟩ := Source.marksBefore_congr (closed_before introduces around.blank) rest
    (content ++ (tail ++ remark))
  rw [marked, mode]
  refine ⟨inCode, fun mark member => around.split.visible mark ?_⟩
  rw [List.append_assoc, Source.marksBefore_append, List.append_assoc content]
  exact List.mem_append_left _ member

theorem Insertable.unquoted_append {gap' : Text} (insertable : Insertable new)
    (blank : allBlank gap' = true) (blankTail : allBlank tail = true) :
    '"' ∉ gap' ++ (new ++ tail) := by
  simp only [List.mem_append, not_or]
  exact ⟨Source.unquoted_of_allBlank blank, insertable.unquoted, Source.unquoted_of_allBlank blankTail⟩

/-- **The new line is code up to the old remark**, when the text does not run into it. -/
theorem split_of_around {n : Nat} {id gap' : Text} (introduces : Introduces stage n id category intro)
    (around : Around stage intro gap content tail remark)
    (inCode : Mode.through (.atDepth stage.depth) (intro ++ gap) (content ++ (tail ++ remark)) = .code)
    (insertable : Insertable new) (blank' : allBlank gap' = true)
    (apart' : ¬ JoinsRemark new (tail ++ remark)) :
    CodeSplit stage.depth (intro ++ gap ++ (gap' ++ (new ++ (tail ++ remark))))
        (intro ++ gap ++ (gap' ++ (new ++ tail))) remark ∧
      (scanLine stage.depth (intro ++ gap ++ (gap' ++ (new ++ (tail ++ remark))))).hasCode = true := by
  have remarked : remark = [] ∨ ∃ more, remark = '-' :: '-' :: more :=
    around.split.begins.imp_right And.left
  obtain ⟨coded, ends⟩ := Source.marksBefore_code
    (insertable.unquoted_append blank' around.blankTail)
    (not_infix_pair (.inl rfl) insertable.noRemark blank' around.blankTail remarked apart')
    (not_infix_pair (.inr rfl) insertable.noComment blank' around.blankTail remarked apart')
  obtain ⟨mode, visible⟩ := front_of_around introduces around inCode
    (gap' ++ (new ++ tail) ++ remark)
  have split : CodeSplit stage.depth (intro ++ gap ++ (gap' ++ (new ++ (tail ++ remark))))
      (intro ++ gap ++ (gap' ++ (new ++ tail))) remark := by
    refine ⟨by simp only [List.append_assoc], ?_, ?_⟩
    · intro mark member
      rw [Source.marksBefore_append, mode, coded] at member
      rcases List.mem_append.1 member with old | new
      · exact visible mark old
      · obtain ⟨d, -, rfl⟩ := List.mem_map.1 new
        nofun
    · refine around.split.begins.imp_right fun begins => ⟨begins.1, ?_⟩
      rw [Source.through_append, mode, ends]
  refine ⟨split, ?_⟩
  -- The first character of the text is code.
  obtain ⟨c, others, rfl, white⟩ := insertable.exists_cons
  show (marks (.atDepth stage.depth) _).any Source.isSolid = true
  rw [split.whole, Source.marks_append, Source.marksBefore_append, mode, coded]
  have solid : Source.isSolid (c, .code) = true := by
    cases ascii : Text.isAsciiBlank c with
    | false => simp [Source.isSolid, ascii]
    | true =>
      rw [Text.isBlank_of_isAsciiBlank ascii] at white
      cases white
  simp [solid]

/-- **The introduction of a clause introduces the new text.** -/
theorem holds_of_around {n : Nat} {id gap' : Text} (introduces : Introduces stage n id category intro)
    (around : Around stage intro gap content tail remark)
    (inCode : Mode.through (.atDepth stage.depth) (intro ++ gap) (content ++ (tail ++ remark)) = .code)
    (insertable : Insertable new) (blank' : allBlank gap' = true)
    (apart : category = .haveProof → Stops isWordChar (gap ++ gap' ++ (new ++ tail)))
    (apart' : ¬ JoinsRemark new (tail ++ remark)) :
    Holds stage category intro (gap ++ gap' ++ (new ++ tail))
      (intro ++ gap ++ (gap' ++ (new ++ (tail ++ remark)))) := by
  obtain ⟨split, hasCode⟩ := split_of_around introduces around inCode insertable blank' apart'
  have code : (scanLine stage.depth (intro ++ gap ++ (gap' ++ (new ++ (tail ++ remark))))).code =
      intro ++ (gap ++ gap' ++ (new ++ tail)) := by
    rw [split.code_eq]
    simp only [List.append_assoc]
  refine ⟨code, hasCode, ?_, apart, ?_⟩
  · obtain ⟨c, others, rfl, visible⟩ := insertable.exists_cons
    simp [allBlank, visible]
  · exact sorries_lt insertable.complete (allBlank_append around.blank blank') around.blankTail code

/-- **Text for one line of a proof is read back** when it is written into a clause that is introduced in
code and does not run into what stands next to the span. -/
theorem readsBack_of_apart (member : clause ∈ scan document) (kind : IsIntroduced clause.category)
    (cut : Cut document clause before behind) (inCode : BeginsInCode document clause before behind)
    (insertable : Insertable new) (apart : ¬ JoinsWord clause before new)
    (apart' : ¬ JoinsRemark new behind) : ReadsBack document clause new := by
  obtain ⟨intro, gap, tail, remark, rfl, rfl, around, -, introduces⟩ := cut.exists_around member kind
  have blank := allBlank_append around.blank (allBlank_glue (intro ++ gap) clause.content new)
  have holds := holds_of_around introduces around (by rwa [Stage.depth_before]) insertable
    (allBlank_glue (intro ++ gap) clause.content new)
    (stops_of_not_joinsWord introduces around insertable apart) apart'
  rw [← spliceLine_of_single insertable.single] at holds
  have reads := introduces.reads _ _ holds
  rw [Text.trimmedAt_append insertable.solid insertable.trimmed blank around.blankTail] at reads
  have single := newline_not_mem_spliceLine insertable.single
    (Text.not_mem_of_mem_lines (List.mem_of_getElem? cut.line))
  -- The new clause stands on the new line, which is read at the stage of the old one.
  let written := place clause.id clause.category clause.start.line
    (size intro + size (gap ++ glue (intro ++ gap) clause.content new)) new
  have member' : written ∈ scan (Text.joinLines ((Text.lines document).set clause.start.line
      (spliceLine (intro ++ gap) clause.content (tail ++ remark) new))) := by
    refine mem_scan_iff.2 ⟨spliceLine (intro ++ gap) clause.content (tail ++ remark) new, ?_, ?_⟩
    · rw [lines_joinLines_set single]
      exact List.getElem?_set_self (List.getElem?_eq_some_iff.1 cut.line).1
    · show written ∈ (Stage.before _ clause.start.line).clausesOf clause.start.line _
      rw [before_joinLines_set single, reads]
      exact List.mem_singleton_self _
  exact ⟨_, cut.splice_eq member new, written, member', rfl, rfl, rfl, rfl, splice_content member'⟩

end Clause
end ProofDesk
