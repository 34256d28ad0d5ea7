import ProofDesk.Proofs.Clause.ReadBack

/-!
# When new text is read back

New text that runs into what stands next to the span is not read back: behind the word `by` of a `have`
line it makes another word, and in front of a remark its last character opens a remark or a comment. So
text is read back exactly when it does neither.

Text that does both is left out: it may be read back by accident, as the remark may hold another
`:= by` with the same text behind it.

* `ReadsBack.exists_introduction` — what is read back stands behind the introduction of the new line.
* `not_readsBack_of_joinsWord` and `not_readsBack_of_joinsRemark` — each of the two ways.
* `readsBack_iff` — new text is read back exactly when it stays apart; `not_readsBack_of_joined` shows
  text that does not.
-/

namespace ProofDesk
namespace Clause

open Source (CodeSplit Mode Stops marksBefore scanLine)
open Text (allBlank isBlank isWordChar)

variable {document new before behind intro gap gap' content tail remark text : Text} {clause : Clause}
  {category : Category} {stage : Stage} {n : Nat} {id : Text}

/-! ### What is read back -/

/-- **What is read back** stands behind the introduction of the new line, blanks around it. -/
theorem ReadsBack.exists_introduction (reads : ReadsBack document clause new)
    (member : clause ∈ scan document) (kind : IsIntroduced clause.category)
    (cut : Cut document clause before behind) (insertable : Insertable new) :
    ∃ intro gap tail, allBlank gap = true ∧ allBlank tail = true ∧
      (scanLine (Stage.before document clause.start.line).depth
        (spliceLine before clause.content behind new)).code = intro ++ (gap ++ (new ++ tail)) ∧
      introOf? clause.category (intro ++ (gap ++ (new ++ tail))) = some intro := by
  obtain ⟨updated, spliced, written, inside, line, -, category, content, -⟩ := reads
  rw [cut.splice_eq member] at spliced
  cases spliced
  have single := newline_not_mem_spliceLine insertable.single
    (Text.not_mem_of_mem_lines (List.mem_of_getElem? cut.line))
  obtain ⟨newLine, found, holds⟩ := mem_scan_iff.1 inside
  rw [line, lines_joinLines_set single,
    List.getElem?_set_self (List.getElem?_eq_some_iff.1 cut.line).1] at found
  obtain rfl := Option.some.inj found
  rw [line, before_joinLines_set single] at holds
  obtain ⟨intro, rest, code, placed, known, -⟩ :=
    Clause.exists_introduction holds (by rwa [category])
  obtain ⟨gap, tail, whole, -, blank, blankTail, -⟩ :=
    Text.exists_around_trimmedAt rest (Text.size intro)
  have same : new = (trimmedAt (Text.size intro) rest).2 :=
    content.symm.trans (congrArg Clause.content placed)
  rw [← same] at whole
  rw [code, category, whole] at known
  rw [whole] at code
  exact ⟨intro, gap, tail, blank, blankTail, code, known⟩

theorem Insertable.exists_concat (insertable : Insertable new) :
    ∃ init c, new = init ++ [c] ∧ isBlank c = false := by
  rcases List.eq_nil_or_concat new with empty | ⟨init, c, whole⟩
  · exact absurd empty insertable.solid
  · rw [List.concat_eq_append] at whole
    exact ⟨init, c, whole, Text.visible_of_trim_eq_self insertable.trimmed (.inr (by simp [whole]))⟩

/-! ### Text behind the word `by` -/

/-- Texts that end in the same one with blanks behind it are the same. -/
theorem append_right_cancel_of_trimmed {front front' tail' : Text} (insertable : Insertable new)
    (blank : allBlank tail = true) (blank' : allBlank tail' = true)
    (whole : front ++ (new ++ tail) = front' ++ (new ++ tail')) : front = front' := by
  obtain ⟨init, c, rfl, visible⟩ := insertable.exists_concat
  have ends : ∀ {front tail : Text}, allBlank tail = true →
      Text.trimEnd (front ++ (init ++ [c] ++ tail)) = front ++ (init ++ [c]) := by
    intro front tail blank
    rw [← List.append_assoc, Text.trimEnd_append blank, ← List.append_assoc,
      Text.trimEnd_append_cons visible]
    rfl
  have trimmed := congrArg Text.trimEnd whole
  rw [ends blank, ends blank'] at trimmed
  exact List.append_cancel_right trimmed

/-- No blanks stand behind a text whose last character is visible. -/
theorem eq_nil_of_touches (blank : allBlank gap = true)
    (touches : ∀ c, (intro ++ gap).getLast? = some c → isBlank c = false) : gap = [] := by
  rcases List.eq_nil_or_concat gap with rfl | ⟨front, b, rfl⟩
  · rfl
  · have white := List.all_eq_true.1 blank b (by simp)
    rw [touches b (by simp)] at white
    cases white

/-- **Text that runs into the word `by`** is not read back. -/
theorem not_readsBack_of_joinsWord (member : clause ∈ scan document)
    (kind : IsIntroduced clause.category) (cut : Cut document clause before behind)
    (inCode : BeginsInCode document clause before behind) (insertable : Insertable new)
    (joins : JoinsWord clause before new) (apart : ¬ JoinsRemark new behind) :
    ¬ ReadsBack document clause new := by
  intro reads
  obtain ⟨intro, gap, tail, remark, rfl, rfl, around, -, introduces⟩ := cut.exists_around member kind
  obtain ⟨intro', gap', tail', blank', blankTail', code', known⟩ :=
    reads.exists_introduction member kind cut insertable
  have letter : intro.getLast? = some 'y' := introduces.ends.resolve_right fun block => by
    rw [joins.fact] at block
    cases block.1
  obtain rfl : gap = [] := eq_nil_of_touches around.blank joins.touches
  have noGlue : glue (intro ++ []) clause.content new = [] := if_neg fun empty => joins.full empty.1
  have split : CodeSplit (Stage.before document clause.start.line).depth
      (intro ++ [] ++ ([] ++ (new ++ (tail ++ remark)))) (intro ++ [] ++ ([] ++ (new ++ tail)))
      remark :=
    (split_of_around introduces around (by rwa [Stage.depth_before]) insertable rfl apart).1
  rw [spliceLine_of_single insertable.single, noGlue, split.code_eq] at code'
  -- The introduction of the new line is the old one, and the word goes on behind it.
  have same : intro = intro' ++ gap' := by
    refine append_right_cancel_of_trimmed insertable around.blankTail blankTail' ?_
    rw [List.append_nil, List.nil_append] at code'
    rw [code', List.append_assoc]
  obtain rfl : gap' = [] := eq_nil_of_touches blank' fun c last => by
    rw [← same, letter] at last
    cases last
    decide
  rw [joins.fact] at known
  obtain ⟨-, -, -, -, -, -, stops⟩ := exists_assign_of_introOf? known
  obtain ⟨c, others, rfl, -⟩ := insertable.exists_cons
  obtain ⟨d, first, word⟩ := joins.word
  cases first
  rw [stops c rfl] at word
  cases word

/-! ### Text in front of a remark -/

/-- Nothing in the text itself opens a remark or a comment. -/
theorem coded_of_insertable {init : Text} {c : Char} (insertable : Insertable (init ++ [c]))
    (blank' : allBlank gap' = true) (rest : Text) :
    marksBefore .code (gap' ++ init) (c :: rest) = (gap' ++ init).map (·, .code) ∧
      Mode.through .code (gap' ++ init) (c :: rest) = .code := by
  have noRemark : ¬ JoinsRemark (init ++ [c]) ([] ++ []) := by
    rintro ⟨remarked, -⟩
    cases List.prefix_nil.1 remarked
  have none : ∀ {first : Char}, first = '-' ∨ first = '/' → ¬ [first, '-'] <:+: init ++ [c] →
      ¬ [first, '-'] <:+: gap' ++ init ++ (c :: rest).take 1 := by
    intro first opens absent occurs
    refine not_infix_pair opens absent blank' rfl (.inl rfl) noRemark ?_
    simpa using occurs
  have unquoted : '"' ∉ gap' ++ (init ++ [c] ++ []) := insertable.unquoted_append blank' rfl
  simp only [List.mem_append, not_or] at unquoted
  refine Source.marksBefore_code ?_ (none (.inl rfl) insertable.noRemark)
    (none (.inr rfl) insertable.noComment)
  simp only [List.mem_append, not_or]
  exact ⟨unquoted.1, unquoted.2.1.1⟩

/-- **The code of a line whose new text runs into the remark** lacks the last character of the text,
or goes on behind it. -/
theorem exists_code_of_joinsRemark (introduces : Introduces stage n id category intro)
    (around : Around stage intro gap content tail remark)
    (inCode : Mode.through (.atDepth stage.depth) (intro ++ gap) (content ++ (tail ++ remark)) = .code)
    (insertable : Insertable new) (blank' : allBlank gap' = true)
    (joins : JoinsRemark new (tail ++ remark)) : ∃ text,
      (scanLine stage.depth (intro ++ gap ++ (gap' ++ (new ++ (tail ++ remark))))).code =
        intro ++ (gap ++ gap' ++ text) ∧
      ((∃ c, new = text ++ [c]) ∨ ∃ more, text = new ++ '-' :: more) := by
  obtain ⟨init, c, rfl, -⟩ := insertable.exists_concat
  obtain ⟨⟨more, hyphens⟩, opens⟩ := joins
  rw [← hyphens]
  obtain ⟨coded, ends⟩ := coded_of_insertable insertable blank' ('-' :: '-' :: more)
  obtain ⟨mode, visible⟩ := front_of_around introduces around inCode
    (gap' ++ init ++ (c :: '-' :: '-' :: more))
  -- The regions in front of the last character of the text.
  have marked : ∀ mark ∈ marksBefore (.atDepth stage.depth) (intro ++ gap ++ (gap' ++ init))
      (c :: '-' :: '-' :: more), mark.2 ≠ .remark := by
    intro mark member
    rw [Source.marksBefore_append, mode, coded] at member
    rcases List.mem_append.1 member with old | new
    · exact visible mark old
    · obtain ⟨d, -, rfl⟩ := List.mem_map.1 new
      nofun
  have before : Mode.through (.atDepth stage.depth) (intro ++ gap ++ (gap' ++ init))
      (c :: '-' :: '-' :: more) = .code := by
    rw [Source.through_append, mode, ends]
  have line : intro ++ gap ++ (gap' ++ (init ++ [c] ++ ('-' :: '-' :: more))) =
      intro ++ gap ++ (gap' ++ init) ++ (c :: '-' :: '-' :: more) := by
    simp
  have lasts : c = '-' ∨ c = '/' := by simpa using opens
  rw [show ['-', '-'] ++ more = '-' :: '-' :: more from rfl, line]
  rcases lasts with rfl | rfl
  · -- The last character of the text begins the remark.
    refine ⟨init, ?_, .inl ⟨_, rfl⟩⟩
    have split : CodeSplit stage.depth (intro ++ gap ++ (gap' ++ init) ++ ('-' :: '-' :: '-' :: more))
        (intro ++ gap ++ (gap' ++ init)) ('-' :: '-' :: '-' :: more) :=
      ⟨rfl, marked, .inr ⟨⟨_, rfl⟩, before⟩⟩
    rw [split.code_eq]
    simp only [List.append_assoc]
  · -- The last character of the text begins a block comment.
    obtain ⟨extra, code⟩ := Source.exists_code_of_slash marked before
    refine ⟨init ++ ['/'] ++ '-' :: extra, ?_, .inr ⟨_, rfl⟩⟩
    rw [code]
    simp only [List.append_assoc, List.singleton_append]

/-- The new text has a first character that decides whether it goes on a word. -/
theorem stops_congr {front behind' : Text} (solid : new ≠ [])
    (stops : Stops isWordChar (front ++ (new ++ behind))) :
    Stops isWordChar (front ++ (new ++ behind')) := by
  intro c first
  refine stops c ?_
  obtain ⟨d, others, rfl⟩ := List.exists_cons_of_ne_nil solid
  cases front with
  | nil => exact first
  | cons b front => exact first

/-- **Text that runs into the remark** is not read back. -/
theorem not_readsBack_of_joinsRemark (member : clause ∈ scan document)
    (kind : IsIntroduced clause.category) (cut : Cut document clause before behind)
    (inCode : BeginsInCode document clause before behind) (insertable : Insertable new)
    (joins : JoinsRemark new behind) (apart : ¬ JoinsWord clause before new) :
    ¬ ReadsBack document clause new := by
  intro reads
  obtain ⟨intro, gap, tail, remark, rfl, rfl, around, opened, introduces⟩ :=
    cut.exists_around member kind
  obtain ⟨intro', gap', tail', blank', blankTail', code', known⟩ :=
    reads.exists_introduction member kind cut insertable
  have blankGlue := allBlank_glue (intro ++ gap) clause.content new
  obtain ⟨text, code, shape⟩ := exists_code_of_joinsRemark introduces around
    (by rwa [Stage.depth_before]) insertable blankGlue joins
  have stops := stops_of_not_joinsWord introduces around insertable apart
  have apartText : clause.category = .haveProof →
      Stops isWordChar (gap ++ glue (intro ++ gap) clause.content new ++ text) := by
    intro fact
    rcases shape with ⟨c, rfl⟩ | ⟨more, rfl⟩
    · intro d first
      refine stops fact d ?_
      rw [List.append_assoc text, ← List.append_assoc, List.head?_append, first]
      rfl
    · exact stops_congr insertable.solid (stops fact)
  have opened' := introOf?_append opened apartText
  rw [spliceLine_of_single insertable.single, code] at code'
  rw [code', known] at opened'
  obtain rfl := Option.some.inj opened'
  -- Without the blanks in front of it, the text of the code would be the new text and blanks.
  have rest := congrArg Text.trimStart (List.append_cancel_left code')
  have starts : ∀ more : Text, Text.trimStart (new ++ more) = new ++ more := by
    intro more
    obtain ⟨d, others, rfl, visible⟩ := insertable.exists_cons
    simp [Text.trimStart, visible]
  rw [Text.trimStart_append (allBlank_append around.blank blankGlue), Text.trimStart_append blank',
    starts] at rest
  rcases shape with ⟨c, rfl⟩ | ⟨more, rfl⟩
  · have shorter := (Text.trimStart_suffix text).length_le
    rw [rest] at shorter
    simp only [List.length_append, List.length_singleton] at shorter
    omega
  · rw [starts] at rest
    rw [← List.append_cancel_left rest] at blankTail'
    exact absurd (List.all_eq_true.1 blankTail' '-' (List.mem_cons_self ..)) (by decide)

/-- **New text is read back exactly when it stays apart** from the word `by` in front of the span and
from the remark behind it. -/
theorem readsBack_iff (member : clause ∈ scan document) (kind : IsIntroduced clause.category)
    (cut : Cut document clause before behind) (inCode : BeginsInCode document clause before behind)
    (insertable : Insertable new) (one : ¬ (JoinsWord clause before new ∧ JoinsRemark new behind)) :
    ReadsBack document clause new ↔ ¬ JoinsWord clause before new ∧ ¬ JoinsRemark new behind := by
  constructor
  · intro reads
    refine ⟨fun joins => ?_, fun joins => ?_⟩
    · exact not_readsBack_of_joinsWord member kind cut inCode insertable joins
        (fun joins' => one ⟨joins, joins'⟩) reads
    · exact not_readsBack_of_joinsRemark member kind cut inCode insertable joins
        (fun joins' => one ⟨joins', joins⟩) reads
  · rintro ⟨apart, apart'⟩
    exact readsBack_of_apart member kind cut inCode insertable apart apart'

/-- A remark stands directly behind the span, and the new text ends in a bracket. -/
theorem readsBack_iff_remark :
    let document := "theorem t : True := by trivial-- old".toList
    let clause : Clause := place "main_proof_0" .mainProof 0 23 "trivial"
    clause ∈ scan document ∧ ReadsBack document clause "exact (True.intro)".toList := by
  intro document clause
  have member : clause ∈ scan document := by decide +kernel
  have cut : Cut document clause "theorem t : True := by " "-- old" :=
    ⟨by decide +kernel, by decide +kernel⟩
  have inCode : BeginsInCode document clause "theorem t : True := by " "-- old" := by
    unfold BeginsInCode
    decide +kernel
  have insertable : Insertable "exact (True.intro)".toList := by decide +kernel
  have apart : ¬ JoinsWord clause "theorem t : True := by " "exact (True.intro)" := by
    rintro ⟨fact, -, -, -⟩
    cases fact
  have apart' : ¬ JoinsRemark "exact (True.intro)" "-- old" := by
    rintro ⟨-, opens⟩
    revert opens
    decide
  exact ⟨member, (readsBack_iff member (.inr (.inl rfl)) cut inCode insertable
    fun both => apart both.1).2 ⟨apart, apart'⟩⟩

/-- **Text that runs into the word `by` is not read back**: the line is no longer a `have` line. -/
theorem not_readsBack_of_joined : ¬ ∀ (document : Text) (clause : Clause) (before behind new : Text),
    clause ∈ scan document → IsIntroduced clause.category → Cut document clause before behind →
      BeginsInCode document clause before behind → Insertable new → ¬ ['-', '/'] <:+: new →
        ReadsBack document clause new := by
  intro law
  let document := "example : True := by\n  have h : True := by(trivial)\n  exact h".toList
  let clause : Clause := place "have_h" .haveProof 1 21 "(trivial)"
  let before : Text := "  have h : True := by"
  have member : clause ∈ scan document := by decide +kernel
  have cut : Cut document clause before [] := ⟨by decide +kernel, by decide +kernel⟩
  have inCode : BeginsInCode document clause before [] := by
    unfold BeginsInCode
    decide +kernel
  have insertable : Insertable "trivial".toList := by decide +kernel
  have unclosed : ¬ ['-', '/'] <:+: "trivial".toList := by
    rw [← Text.contains_iff]
    decide
  have joins : JoinsWord clause before "trivial" := by
    refine ⟨rfl, by decide, fun c last => ?_, 't', rfl, by decide⟩
    have letter : before.getLast? = some 'y' := by decide
    cases letter.symm.trans last
    decide
  have apart : ¬ JoinsRemark "trivial" [] := by
    rintro ⟨remarked, -⟩
    cases List.prefix_nil.1 remarked
  exact not_readsBack_of_joinsWord member (.inl rfl) cut inCode insertable joins apart
    (law document clause before [] _ member (.inl rfl) cut inCode insertable unclosed)

end Clause
end ProofDesk
