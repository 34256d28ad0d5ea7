import ProofDesk.Proofs.Clause.Origin
import ProofDesk.Proofs.Clause.ReadBack
import ProofDesk.Proofs.Session.Goals
import ProofDesk.Proofs.Source.Depth

/-!
# Open comments around an edited line

A span ends where its line ends, or the remark of the line begins. It does not look at block comments, so
it may hold the opening of one without its closing, and an edit that replaces the span then moves the
lines below into the comment or out of it. When as many comments are open behind the span as in front of
it, an edit moves no line, unless the new text forms a delimiter with what stands next to the span.

* `depthAt` and `KeepsDepths` — the number of comments that are open where a line begins.
* `keepsDepths_set_iff` — when a replaced line keeps these numbers.
* `Undelimited` and `Unjoined` — text that opens and closes nothing where it is written.
* `startMode`, `stopMode` and `Balanced` — what the reader of a line is inside of at the ends of a span.
* `Fenced` — a span that ends at blanks, with a remark behind them perhaps; `exists_fenced` says that
  those of all clauses but placeholders do.
* `splice_keepsDepths` — when an edit keeps the lines in and out of comments.
-/

namespace ProofDesk
namespace Clause

open Source (Closed Mode depthAfter marksBefore_congr scanLine sorryWord)
open Text (allBlank joinLines lines size)

variable {document line line' new before behind content tail remark updated : Text} {clause : Clause}
  {stage : Stage} {n depth : Nat}

/-! ### The depths of a document -/

/-- The number of block comments that are open where line number `n` begins. -/
def depthAt (document : Text) (n : Nat) : Nat := depthAfter 0 ((lines document).take n)

/-- **No line has moved into a comment or out of one.** -/
structure KeepsDepths (document updated : Text) : Prop where
  length : (lines updated).length = (lines document).length
  depths : ∀ n < (lines document).length, depthAt updated n = depthAt document n

/-- **A replaced line keeps the depths** exactly when it is the last one or leaves as many comments open
as the old one. -/
theorem keepsDepths_set_iff (found : (lines document)[n]? = some line) (single : '\n' ∉ line') :
    KeepsDepths document (joinLines ((lines document).set n line')) ↔
      n + 1 = (lines document).length ∨
        (scanLine (depthAt document n) line').depth = (scanLine (depthAt document n) line).depth := by
  obtain ⟨inside, here⟩ := List.getElem?_eq_some_iff.1 found
  have all : lines (joinLines ((lines document).set n line')) = (lines document).set n line' :=
    lines_joinLines_set single
  have whole : lines document = (lines document).take n ++ line :: (lines document).drop (n + 1) := by
    rw [← here, List.getElem_cons_drop, List.take_append_drop]
  have front : ((lines document).take n).length = n := List.length_take_of_le (Nat.le_of_lt inside)
  -- Up to the line the documents agree, and behind it only the depth that it leaves matters.
  have early : ∀ k ≤ n, depthAt (joinLines ((lines document).set n line')) k = depthAt document k := by
    intro k small
    have short : ((lines document).take k).length ≤ n := by
      rw [List.length_take]
      omega
    rw [depthAt, all, List.take_set, List.set_eq_of_length_le short, depthAt]
  have below : ∀ (other : Text) (k : Nat),
      depthAfter 0 (((lines document).take n ++ other :: (lines document).drop (n + 1)).take
        (n + 1 + k)) = depthAfter (scanLine (depthAt document n) other).depth
          (((lines document).drop (n + 1)).take k) := by
    intro other k
    have reach : n + 1 + k = ((lines document).take n).length + (k + 1) := by omega
    rw [reach, List.take_length_add_append, List.take_succ_cons, Source.depthAfter_append]
    rfl
  have late : ∀ k, depthAt document (n + 1 + k) = depthAfter
      (scanLine (depthAt document n) line).depth (((lines document).drop (n + 1)).take k) := by
    intro k
    rw [← below line k, ← whole]
    rfl
  have late' : ∀ k, depthAt (joinLines ((lines document).set n line')) (n + 1 + k) = depthAfter
      (scanLine (depthAt document n) line').depth (((lines document).drop (n + 1)).take k) := by
    intro k
    rw [← below line' k, depthAt, all, List.set_eq_take_append_cons_drop, if_pos inside]
  constructor
  · intro keeps
    by_cases last : n + 1 = (lines document).length
    · exact .inl last
    · right
      have next := keeps.depths (n + 1) (by omega)
      have here := late 0
      have here' := late' 0
      rw [Nat.add_zero] at here here'
      rw [here, here'] at next
      exact next
  · intro same
    refine ⟨by rw [all, List.length_set], fun k small => ?_⟩
    by_cases above : k ≤ n
    · exact early k above
    · obtain ⟨j, rfl⟩ : ∃ j, k = n + 1 + j := ⟨k - (n + 1), by omega⟩
      rw [late, late', same.resolve_left (by omega)]

/-! ### Text that opens and closes nothing -/

/-- **Text for one line without delimiters** of comments, remarks and literals. -/
structure Undelimited (new : Text) : Prop where
  single : '\n' ∉ new
  unquoted : '"' ∉ new
  noRemark : ¬ ['-', '-'] <:+: new
  noComment : ¬ ['/', '-'] <:+: new
  noClosing : ¬ ['-', '/'] <:+: new

instance (new : Text) : Decidable (Undelimited new) :=
  decidable_of_iff ('\n' ∉ new ∧ '"' ∉ new ∧ Text.contains ['-', '-'] new = false ∧
      Text.contains ['/', '-'] new = false ∧ Text.contains ['-', '/'] new = false) <| by
    simp only [Bool.eq_false_iff, Ne, Text.contains_iff]
    exact ⟨fun ⟨h₁, h₂, h₃, h₄, h₅⟩ => ⟨h₁, h₂, h₃, h₄, h₅⟩,
      fun ⟨h₁, h₂, h₃, h₄, h₅⟩ => ⟨h₁, h₂, h₃, h₄, h₅⟩⟩

/-- **The text forms no opening** of a comment or a remark with the characters next to the span. A hyphen
at its end may stand in front of a remark. -/
structure Unjoined (before new behind : Text) : Prop where
  comment : ¬ ['/', '-'] <:+: before.getLast?.toList ++ (new ++ behind.take 1)
  remark : ¬ ['-', '-'] <:+: before.getLast?.toList ++ (new ++ behind.take 1) ∨
    ['-', '-'] <+: behind ∧ ¬ ['-', '-'] <:+: before.getLast?.toList ++ new

instance (before new behind : Text) : Decidable (Unjoined before new behind) :=
  decidable_of_iff
    (Text.contains ['/', '-'] (before.getLast?.toList ++ (new ++ behind.take 1)) = false ∧
      (Text.contains ['-', '-'] (before.getLast?.toList ++ (new ++ behind.take 1)) = false ∨
        List.isPrefixOf ['-', '-'] behind = true ∧
          Text.contains ['-', '-'] (before.getLast?.toList ++ new) = false)) <| by
    simp only [Bool.eq_false_iff, Ne, Text.contains_iff, List.isPrefixOf_iff_prefix]
    exact ⟨fun ⟨h₁, h₂⟩ => ⟨h₁, h₂⟩, fun ⟨h₁, h₂⟩ => ⟨h₁, h₂⟩⟩

/-- So it forms none with what stands behind the span. -/
theorem Unjoined.apart (unjoined : Unjoined before new behind) :
    ¬ ['/', '-'] <:+: new ++ behind.take 1 ∧
      (¬ ['-', '-'] <:+: new ++ behind.take 1 ∨ ['-', '-'] <+: behind ∧ ¬ ['-', '-'] <:+: new) := by
  have reach : ∀ {pattern t : Text}, ¬ pattern <:+: before.getLast?.toList ++ t → ¬ pattern <:+: t :=
    fun absent occurs => absent (occurs.trans (List.suffix_append ..).isInfix)
  exact ⟨reach unjoined.comment, unjoined.remark.imp reach fun both => ⟨both.1, reach both.2⟩⟩

/-! ### The ends of a span -/

/-- What the reader of the line is inside of where the span begins. -/
def startMode (document : Text) (clause : Clause) (before behind : Text) : Mode :=
  (Mode.atDepth (depthAt document clause.start.line)).through before (clause.content ++ behind)

/-- What it is inside of where the span ends. -/
def stopMode (document : Text) (clause : Clause) (before behind : Text) : Mode :=
  (startMode document clause before behind).through clause.content behind

/-- **As many comments are open behind the span as in front of it**, and a literal that is open in front
of it is still open behind it. -/
structure Balanced (document : Text) (clause : Clause) (before behind : Text) : Prop where
  depth : (stopMode document clause before behind).depth = (startMode document clause before behind).depth
  literal : (startMode document clause before behind).isQuoted = true →
    (stopMode document clause before behind).isQuoted = true

/-- **A span that ends at blanks**, with the end of the line or a remark behind them. It begins in the
mode `start`, which is not in the middle of a delimiter. -/
structure Fenced (start : Mode) (content tail remark : Text) : Prop where
  whole : start.awaited? = none
  blank : allBlank tail = true
  begins : remark = [] ∨ (∃ more, remark = '-' :: '-' :: more) ∧
    (start.through content (tail ++ remark)).through tail remark = .code

/-- The clauses that hold a line of a proof whole. -/
def IsWhole (category : Category) : Prop := category = .tactic ∨ category = .proofLine

/-- A line that is replaced whole has blanks around its span. -/
theorem exists_blanks_around (member : clause ∈ stage.clausesOf n line)
    (whole : IsWhole clause.category) : ∃ before behind,
      line = before ++ clause.content ++ behind ∧ size before = clause.start.column ∧
        allBlank before = true ∧ allBlank behind = true := by
  have span : (clause.start.column, clause.content) =
      trimmedAt (size (Text.indentation (scanLine stage.depth line).code))
        (line.drop (Text.indentation (scanLine stage.depth line).code).length) := by
    cases origin_of_mem member with
    | line known entered => rfl
    | placeholder k reported => rcases whole with same | same <;> cases same
    | mainProof entered opens solid => rcases whole with same | same <;> cases same
    | haveProof entered found => rcases whole with same | same <;> cases same
    | tacticBlock entered found => rcases whole with same | same <;> cases same
  obtain ⟨rest, split⟩ := Source.exists_code_append stage.depth line
  have cut := append_eq_indentation_append (scanLine stage.depth line).code rest
  rw [← split] at cut
  have blankIndent : allBlank (Text.indentation (scanLine stage.depth line).code) = true :=
    List.all_takeWhile
  generalize Text.indentation (scanLine stage.depth line).code = indent at span cut blankIndent
  obtain ⟨gap, behind, piece, column, blank, blank', -⟩ :=
    Text.exists_around_trimmedAt (line.drop indent.length) (size indent)
  rw [← span] at piece column
  refine ⟨indent ++ gap, behind, ?_, ?_, allBlank_append blankIndent blank, blank'⟩
  · rw [List.append_assoc, List.append_assoc]
    exact cut.trans (congrArg _ piece)
  · rw [Text.size_append]
    exact column.symm

/-- **The span of every clause but a placeholder's** ends at blanks, and what stands in front of it is
read alike before any text. -/
theorem exists_fenced (member : clause ∈ scan document) (cut : Cut document clause before behind)
    (other : clause.category ≠ .placeholder) :
    (∀ c, before.getLast? = some c → Closed c) ∧ ∃ tail remark, behind = tail ++ remark ∧
      Fenced (startMode document clause before behind) clause.content tail remark := by
  have whole : ∀ rest, (∀ c, before.getLast? = some c → Closed c) →
      ((Mode.atDepth (depthAt document clause.start.line)).through before rest).awaited? = none :=
    fun rest closed => Source.awaited?_through (Source.awaited?_atDepth _) closed rest
  by_cases kind : IsIntroduced clause.category
  · obtain ⟨intro, gap, tail, remark, rfl, rfl, around, -, introduces⟩ := cut.exists_around member kind
    have closed := closed_before introduces around.blank
    have depth : (Stage.before document clause.start.line).depth = depthAt document clause.start.line :=
      Stage.depth_before ..
    refine ⟨closed, tail, remark, rfl, whole _ closed, around.blankTail,
      around.split.begins.imp_right fun begins => ⟨begins.1, ?_⟩⟩
    rw [← begins.2, depth, Source.through_append, Source.through_append]
    rfl
  · have kind' : IsWhole clause.category := by
      unfold IsIntroduced at kind
      unfold IsWhole
      revert kind other
      cases clause.category <;> decide
    obtain ⟨line, found, inside⟩ := mem_scan_iff.1 member
    obtain ⟨before', behind', rfl, sized, blank, blank'⟩ := exists_blanks_around inside kind'
    obtain ⟨rfl, rfl⟩ := cut.eq ⟨found, sized⟩
    have closed : ∀ c, before.getLast? = some c → Closed c := fun c last =>
      Source.closed_of_allBlank blank c (List.mem_of_getLast? last)
    exact ⟨closed, behind, [], (List.append_nil _).symm, whole _ closed, blank', .inl rfl⟩

namespace Fenced

variable {start : Mode}

/-- Behind the old line as many comments are open as behind the span. -/
theorem depth_after (fenced : Fenced start content tail remark) :
    (start.after (content ++ (tail ++ remark))).depth =
      (start.through content (tail ++ remark)).depth := by
  rw [Source.after_append, Source.depth_after_tail fenced.blank fenced.begins]

/-- **Behind the new line as many comments are open as in front of the span**, when the span begins in
code or no remark stands behind it. -/
theorem depth_after_new (fenced : Fenced start content tail remark) (undelimited : Undelimited new)
    (unjoined : Unjoined before new (tail ++ remark)) (here : start = .code ∨ remark = []) :
    (start.after (glue before content new ++ (new ++ (tail ++ remark)))).depth = start.depth := by
  have blank := allBlank_glue before content new
  -- The space in front of the text belongs to no delimiter.
  have inText : ∀ {p q : Char} {t : Text}, Text.isBlank p = false → Text.isBlank q = false →
      [p, q] <:+: glue before content new ++ t → [p, q] <:+: t := by
    intro p q t visible visible' occurs
    have bare : allBlank ([] : Text) = true := rfl
    refine Text.infix_of_infix_blanks (List.cons_ne_nil _ _) ?_ blank bare ?_
    · simp [visible, visible']
    · rwa [List.append_nil]
  obtain ⟨noComment, noRemark⟩ := unjoined.apart
  rw [← List.append_assoc (glue before content new)]
  refine Source.depth_after_idle fenced.whole ?_ ?_ ?_ ?_ fenced.blank
    (fenced.begins.imp_right And.left) here
  · simp only [List.mem_append, not_or]
    exact ⟨Source.unquoted_of_allBlank blank, undelimited.unquoted⟩
  · rw [List.append_assoc]
    exact fun occurs => noComment (inText (by decide) (by decide) occurs)
  · rw [List.append_assoc]
    exact noRemark.imp (fun absent occurs => absent (inText (by decide) (by decide) occurs))
      fun both => ⟨both.1, fun occurs => both.2 (inText (by decide) (by decide) occurs)⟩
  · exact fun occurs => undelimited.noClosing (inText (by decide) (by decide) occurs)

/-- **A balanced span in front of a remark** begins in code, where the remark begins. -/
theorem code_or_bare (fenced : Fenced start content tail remark)
    (same : (start.through content (tail ++ remark)).depth = start.depth)
    (literal : start.isQuoted = true → (start.through content (tail ++ remark)).isQuoted = true) :
    start = .code ∨ remark = [] := by
  obtain ⟨whole, blank, begins⟩ := fenced
  rcases begins with bare | ⟨-, coded⟩
  · exact .inr bare
  left
  have open' := Source.depth_through (Source.closed_of_allBlank blank)
    (start.through content (tail ++ remark)) remark
  rw [coded, same] at open'
  have unquoted : start.isQuoted = false := by
    cases inside : start.isQuoted with
    | false => rfl
    | true =>
      have stays := Source.isQuoted_through (Source.unquoted_of_allBlank blank) (literal inside) remark
      rw [coded] at stays
      cases stays
  cases start with
  | code => rfl
  | literal => cases unquoted
  | escape => cases unquoted
  | comment outer => cases open'
  | opening outer => cases whole
  | closing outer => cases whole
  | remark =>
    rw [Source.through_remark, Source.through_remark] at coded
    cases coded

end Fenced

/-! ### A filled placeholder -/

/-- **A placeholder is balanced**, as it is code. -/
theorem exists_code_of_placeholder (member : clause ∈ scan document)
    (cut : Cut document clause before behind) (kind : clause.category = .placeholder) :
    clause.content = sorryWord ∧ startMode document clause before behind = .code ∧
      stopMode document clause before behind = .code := by
  obtain ⟨line, found, inside⟩ := mem_scan_iff.1 member
  obtain ⟨reported, content⟩ := mem_sorries_of_placeholder inside kind
  rw [Stage.depth_before] at reported
  obtain ⟨front, behind', rfl, column, -, -, coded⟩ := Source.exists_split_of_mem_sorries reported
  have cut' : Cut document clause front behind' :=
    ⟨by rw [content, List.append_assoc, found], column.symm⟩
  obtain ⟨rfl, rfl⟩ := cut.eq cut'
  have start : startMode document clause before behind = .code := by
    rw [startMode, content]
    exact coded
  refine ⟨content, start, ?_⟩
  rw [stopMode, start, content]
  exact (Source.marksBefore_code_plain Source.plain_sorryWord behind).2

/-- **Text in the place of a placeholder** leaves open what the rest of the line leaves open. -/
theorem depth_after_filled (coded : (Mode.atDepth depth).through before (sorryWord ++ behind) = .code)
    (undelimited : Undelimited new) (unjoined : Unjoined before new behind) :
    ((Mode.atDepth depth).after (before ++ (new ++ behind))).depth = (Mode.code.after behind).depth := by
  rcases List.eq_nil_or_concat before with rfl | ⟨front, c, rfl⟩
  · have here : Mode.atDepth depth = .code := coded
    obtain ⟨noComment, noRemark⟩ := unjoined.apart
    rw [here]
    exact Source.depth_after_code undelimited.unquoted noComment noRemark
  · -- The character in front of the placeholder is read with the text behind it.
    rw [List.concat_eq_append] at coded unjoined ⊢
    have next : ([c] ++ (sorryWord ++ behind)).head? = ([c] ++ (new ++ behind)).head? := rfl
    rw [Source.through_append, Source.through_congr next] at coded
    rw [List.append_assoc, Source.after_append]
    generalize (Mode.atDepth depth).through front ([c] ++ (new ++ behind)) = mode at coded ⊢
    rcases Source.code_or_forall_step coded with ⟨rfl, quote⟩ | code
    · have last : (front ++ [c]).getLast?.toList = [c] := by rw [List.getLast?_concat]; rfl
      obtain ⟨noComment, noRemark⟩ := unjoined
      rw [last] at noComment noRemark
      refine Source.depth_after_code (t := c :: new) ?_ noComment noRemark
      rw [List.mem_cons, not_or]
      exact ⟨Ne.symm quote, undelimited.unquoted⟩
    · obtain ⟨noComment, noRemark⟩ := unjoined.apart
      rw [Source.after_append]
      show (Mode.after (mode.step c (new ++ behind).head?).2 (new ++ behind)).depth = _
      rw [code]
      exact Source.depth_after_code undelimited.unquoted noComment noRemark

/-! ### The edit -/

/-- **The comments behind the new line** are those behind the old one when the span is balanced. For a span
that begins in code or ends its line, they are so exactly when as many are open behind the span as in front
of it. -/
theorem depth_spliceLine (member : clause ∈ scan document) (cut : Cut document clause before behind)
    (undelimited : Undelimited new) (unjoined : Unjoined before new behind) :
    let depth := depthAt document clause.start.line
    let start := startMode document clause before behind
    let stop := stopMode document clause before behind
    let same := (scanLine depth (spliceLine before clause.content behind new)).depth =
      (scanLine depth (before ++ clause.content ++ behind)).depth
    (Balanced document clause before behind → same) ∧
      (start = .code ∨ allBlank behind = true → (same ↔ stop.depth = start.depth)) := by
  intro depth start stop same
  by_cases kind : clause.category = .placeholder
  · obtain ⟨content, coded, coded'⟩ := exists_code_of_placeholder member cut kind
    have coded'' : (Mode.atDepth depth).through before (sorryWord ++ behind) = .code := by
      rw [← content]
      exact coded
    have here : same := by
      show ((Mode.atDepth depth).after _).depth = ((Mode.atDepth depth).after _).depth
      rw [content, spliceLine_sorryWord undelimited.single, List.append_assoc,
        depth_after_filled coded'' undelimited unjoined,
        Source.after_plain Source.plain_sorryWord coded'']
    have stops : stop.depth = start.depth := congrArg Mode.depth (coded'.trans coded.symm)
    exact ⟨fun _ => here, fun _ => ⟨fun _ => stops, fun _ => here⟩⟩
  · obtain ⟨closed, tail, remark, rfl, fenced⟩ := exists_fenced member cut kind
    have old : (scanLine depth (before ++ clause.content ++ (tail ++ remark))).depth = stop.depth := by
      show ((Mode.atDepth depth).after _).depth = _
      rw [List.append_assoc, Source.after_append]
      exact fenced.depth_after
    have written : start = .code ∨ remark = [] →
        (scanLine depth (spliceLine before clause.content (tail ++ remark) new)).depth = start.depth := by
      intro here
      show ((Mode.atDepth depth).after _).depth = _
      rw [spliceLine_of_single undelimited.single, Source.after_append,
        (marksBefore_congr closed _ (clause.content ++ (tail ++ remark))).2]
      exact fenced.depth_after_new undelimited unjoined here
    constructor
    · intro balanced
      have here := fenced.code_or_bare balanced.depth balanced.literal
      exact (written here).trans (balanced.depth.symm.trans old.symm)
    · intro here
      have bare : start = .code ∨ remark = [] := by
        refine here.imp_right fun blank => ?_
        rcases fenced.begins with bare | ⟨⟨more, rfl⟩, -⟩
        · exact bare
        · exact absurd (List.all_eq_true.1 blank '-' (by simp)) (by decide)
      show _ = _ ↔ _
      rw [written bare, old]
      exact eq_comm

/-- **When an edit keeps the lines in and out of comments.** The new text has no delimiter and forms none
with what stands next to the span. When the span is balanced, every line begins inside as many comments
as before. For a span that begins in code, or that ends its line, it is so exactly when the clause stands
on the last line or as many comments are open behind the span as in front of it. -/
theorem splice_keepsDepths (member : clause ∈ scan document) (cut : Cut document clause before behind)
    (undelimited : Undelimited new) (unjoined : Unjoined before new behind) :
    ∃ updated, clause.splice document new = .ok updated ∧
      (Balanced document clause before behind → KeepsDepths document updated) ∧
      (BeginsInCode document clause before behind ∨ allBlank behind = true →
        (KeepsDepths document updated ↔ clause.start.line + 1 = (lines document).length ∨
          (stopMode document clause before behind).depth =
            (startMode document clause before behind).depth)) := by
  have single := newline_not_mem_spliceLine undelimited.single
    (Text.not_mem_of_mem_lines (List.mem_of_getElem? cut.line))
  have keeps := keepsDepths_set_iff cut.line single
  obtain ⟨kept, exactly⟩ := depth_spliceLine member cut undelimited unjoined
  refine ⟨_, cut.splice_eq member new, fun balanced => keeps.2 (.inr (kept balanced)), fun here => ?_⟩
  rw [keeps, exactly here]

/-- A comment that the replaced span opens and closes, above one that goes on to the next line. -/
theorem splice_keepsDepths_comment :
    let document := joinLines ["theorem t : True := by exact h /- old -/ -- by hand", "  /- more",
      "  text -/"]
    let clause := place "main_proof_0" .mainProof 0 23 "exact h /- old -/"
    let before : Text := "theorem t : True := by "
    let behind : Text := " -- by hand"
    clause ∈ scan document ∧ Cut document clause before behind ∧ Undelimited "trivial" ∧
      Unjoined before "trivial" behind ∧ Balanced document clause before behind ∧
      depthAt document 2 = 1 ∧
      ∃ updated, clause.splice document "trivial" = .ok updated ∧ KeepsDepths document updated := by
  intro document clause before behind
  have member : clause ∈ scan document := by decide +kernel
  have cut : Cut document clause before behind := ⟨by decide +kernel, by decide +kernel⟩
  have undelimited : Undelimited "trivial" := by decide +kernel
  have unjoined : Unjoined before "trivial" behind := by decide +kernel
  have balanced : Balanced document clause before behind := ⟨by decide +kernel, by decide +kernel⟩
  have inside : depthAt document 2 = 1 := by decide +kernel
  obtain ⟨updated, spliced, kept, -⟩ := splice_keepsDepths member cut undelimited unjoined
  exact ⟨member, cut, undelimited, unjoined, balanced, inside, updated, spliced, kept balanced⟩

/-- **An edit moves a line** into a comment or out of one, though the new text has no delimiter. -/
structure Moves (document : Text) (clause : Clause) (new updated : Text) (n : Nat) : Prop where
  member : clause ∈ scan document
  undelimited : Undelimited new
  spliced : clause.splice document new = .ok updated
  inside : n < (lines document).length
  moved : depthAt updated n ≠ depthAt document n

/-- **Edits that move the last line**: the opening of its comment stood in the span, the new text opens a
comment together with the slash in front of it, or a remark that hides one, and a literal that the span
closed is closed in a remark. -/
theorem moves_last_line :
    Moves (joinLines ["theorem t : True := by trivial /- a", "  b -/"])
        (place "main_proof_0" .mainProof 0 23 "trivial /- a") "rfl"
        (joinLines ["theorem t : True := by rfl", "  b -/"]) 1 ∧
      Moves (joinLines ["theorem t : Nat := by", "  exact 1/sorry", "  done"])
        (place "sorry_0" .placeholder 1 10 "sorry") "-1"
        (joinLines ["theorem t : Nat := by", "  exact 1/-1", "  done"]) 2 ∧
      Moves (joinLines ["theorem t : Nat := by", "  exact 1 -sorry /- a", "  b -/"])
        (place "sorry_0" .placeholder 1 11 "sorry") "-1"
        (joinLines ["theorem t : Nat := by", "  exact 1 --1 /- a", "  b -/"]) 2 ∧
      Moves (joinLines ["theorem t : f \"a := by b\" -- \" /-", "  c"])
        (place "main_proof_0" .mainProof 0 23 "b\"") "b"
        (joinLines ["theorem t : f \"a := by b -- \" /-", "  c"]) 1 := by
  refine ⟨?opened, ?joined, ?hidden, ?quoted⟩ <;> constructor <;> decide +kernel

end Clause
end ProofDesk
