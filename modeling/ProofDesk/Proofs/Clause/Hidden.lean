import ProofDesk.Proofs.Clause.Exchange
import ProofDesk.Proofs.Clause.Stage

/-!
# The map of clauses and hidden text

Comments and string literals hold no clauses, but the readings of a line do not leave them out: a
character inside a comment may be read as part of a word, of a name or of a sign, or as a blank. Where it
is read in none of these ways, another character in its place changes nothing in the map of clauses but
the texts of clauses that hold the comment.

* `PassedOver` — the readings of a line pass over a hidden character.
* `clausesOf_exchange` and `next_exchange` — one line with the character exchanged.
* `entries_joinLines_set` — a line that holds the same clauses and hands on the same leaves the map as
  it was.
* `entries_exchange` — the map of clauses of a document with a hidden character exchanged.
-/

namespace ProofDesk
namespace Clause

open Source (Hides depthAfter scanLine scanLines)

variable {document front rest line new : Text} {c c' : Char} {n : Nat} {stage : Stage}

/-! ### One line -/

/-- **The readings of a line pass over a hidden character**, and over the other one in its place: the line
has no code, or neither is read as part of a word, of a name or of a sign, or as a blank at the end. Only
on a line that begins inside a comment can a hidden character be read as part of the first words. -/
def PassedOver (depth : Nat) (front : Text) (c c' : Char) (rest : Text) : Prop :=
  (scanLine depth (front ++ c :: rest)).hasCode = true →
    (depth = 0 ∨ ∃ d ∈ front, Guards d) ∧ Unread front c c' rest

/-- A hidden character of a line that begins outside comments stands behind a slash or a quote. -/
theorem exists_guards {depth : Nat} (hides : Hides depth front c c' rest)
    (begun : depth = 0 ∨ ∃ d ∈ front, Guards d) : ∃ d ∈ front, Guards d := by
  rcases begun with rfl | guarded
  · rcases (Source.secret_of_hides hides).delimiter_mem with slash | quote
    · exact ⟨'/', slash, guards_slash⟩
    · exact ⟨'"', quote, guards_quote⟩
  · exact guarded

/-- **The clauses of a line with a hidden character exchanged**, and what the line hands on. -/
theorem lineClauses_exchange (hides : Hides stage.depth front c c' rest)
    (passed : PassedOver stage.depth front c c' rest) (n : Nat) :
    let line := lineClauses stage.context stage.taken n (front ++ c :: rest)
      (scanLine stage.depth (front ++ c :: rest))
    let line' := lineClauses stage.context stage.taken n (front ++ c' :: rest)
      (scanLine stage.depth (front ++ c' :: rest))
    line'.1 = line.1 ∧ line'.2.map entry = line.2.map entry := by
  obtain ⟨behind, exchanged, begins, reaches⟩ := Source.scanLine_exchange hides
  unfold lineClauses
  dsimp only
  rw [exchanged.hasCode]
  by_cases code : (scanLine stage.depth (front ++ c :: rest)).hasCode = true
  · obtain ⟨begun, unread⟩ := passed code
    obtain ⟨d, member, guards⟩ := exists_guards hides begun
    have inCode := unread.of_front begins reaches
    have entered : stage.context.enter (front ++ c' :: behind) =
        stage.context.enter (front ++ c :: behind) := guards.enter_eq member ..
    rw [if_pos code, if_pos code, exchanged.code, exchanged.code', entered]
    cases stage.context.enter (front ++ c :: behind) with
    | outside => exact ⟨rfl, rfl⟩
    | header => exact headerClauses_exchange exchanged inCode hides.utf8Size_eq ..
    | proof =>
      exact ⟨rfl, proofClauses_exchange exchanged inCode guards member hides.utf8Size_eq unread.ends ..⟩
  · rw [if_neg code, if_neg code]
    exact ⟨rfl, rfl⟩

theorem next_exchange (hides : Hides stage.depth front c c' rest)
    (passed : PassedOver stage.depth front c c' rest) (n : Nat) :
    stage.next n (front ++ c' :: rest) = stage.next n (front ++ c :: rest) := by
  obtain ⟨behind, exchanged, -, -⟩ := Source.scanLine_exchange hides
  obtain ⟨context, entries⟩ := lineClauses_exchange hides passed n
  have ids := congrArg (List.map Prod.fst) entries
  rw [List.map_map, List.map_map] at ids
  unfold Stage.next
  rw [context, exchanged.depth]
  exact congrArg (fun ids => Stage.mk _ (stage.taken ++ ids) _) ids

/-! ### Documents -/

/-- **A document is scanned around a line**: before it, on it and behind it. -/
theorem scan_around {all : List Text} {front rest : List Text} (split : all = front ++ line :: rest) :
    let stage := Stage.start.through 0 front
    let later := stage.next front.length line
    scanFrom .outside [] 0 (scanLines 0 all) = scanFrom .outside [] 0 (scanLines 0 front) ++
      (stage.clausesOf front.length line ++
        scanFrom later.context later.taken (front.length + 1) (scanLines later.depth rest)) := by
  subst split
  have whole := Stage.scanFrom_append Stage.start 0 front (line :: rest)
  rw [Stage.scanFrom_cons, Nat.zero_add] at whole
  exact whole

/-- **A line that holds the same clauses and hands on the same** leaves the map of clauses as it was. -/
theorem entries_joinLines_set (found : (Text.lines document)[n]? = some line) (single : '\n' ∉ new)
    (clauses : ((Stage.before document n).clausesOf n new).map entry =
      ((Stage.before document n).clausesOf n line).map entry)
    (next : (Stage.before document n).next n new = (Stage.before document n).next n line) :
    (scan (Text.joinLines ((Text.lines document).set n new))).map entry =
      (scan document).map entry := by
  obtain ⟨short, rfl⟩ := List.getElem?_eq_some_iff.1 found
  have length : ((Text.lines document).take n).length = n := by
    rw [List.length_take_of_le (Nat.le_of_lt short)]
  have old : Text.lines document = (Text.lines document).take n ++
      (Text.lines document)[n] :: (Text.lines document).drop (n + 1) := by
    rw [List.getElem_cons_drop, List.take_append_drop]
  have written : (Text.lines document).set n new =
      (Text.lines document).take n ++ new :: (Text.lines document).drop (n + 1) := by
    rw [List.set_eq_take_append_cons_drop, if_pos short]
  have before := scan_around old
  have after := scan_around written
  dsimp only at before after
  rw [length] at before after
  unfold scan
  unfold Stage.before at clauses next
  rw [lines_joinLines_set single, before, after, next, List.map_append, List.map_append, clauses,
    List.map_append, List.map_append]

/-- **Hidden text that is passed over leaves the map of clauses as it is.** When a character inside a
block comment or a string literal is exchanged for another one that may stand there, and the readings of
its line pass over both, every clause keeps its id, its category and its span. -/
theorem entries_exchange (document : Text) (n : Nat) (front : Text) (c c' : Char) (rest : Text)
    (found : (Text.lines document)[n]? = some (front ++ c :: rest))
    (hides : Hides (depthAfter 0 ((Text.lines document).take n)) front c c' rest)
    (passed : PassedOver (depthAfter 0 ((Text.lines document).take n)) front c c' rest) :
    (scan (Text.joinLines ((Text.lines document).set n (front ++ c' :: rest)))).map entry =
      (scan document).map entry := by
  have single : '\n' ∉ front ++ c' :: rest := by
    have old := Text.not_mem_of_mem_lines (List.mem_of_getElem? found)
    obtain ⟨region, -, -, -, other, -⟩ := hides
    simp only [List.mem_append, List.mem_cons, not_or] at old ⊢
    exact ⟨old.1, other.symm, old.2.2⟩
  rw [← Stage.depth_before] at hides passed
  exact entries_joinLines_set found single (lineClauses_exchange hides passed n).2
    (next_exchange hides passed n)

/-- A comment that reads like a proof, on the line of a fact. -/
theorem entries_exchange_comment :
    let document := Text.joinLines ["theorem t : True := by",
      "  have h : True := by trivial /- or by simp -/"]
    let front : Text := "  have h : True := by trivial /- or by s"
    (Text.lines document)[1]? = some (front ++ 'i' :: "mp -/".toList) ∧
      Hides 0 front 'i' 'o' "mp -/" ∧ PassedOver 0 front 'i' 'o' "mp -/" ∧
      (scan (Text.joinLines ((Text.lines document).set 1 (front ++ 'o' :: "mp -/".toList)))).map entry =
        [("have_h".toList, Category.haveProof, ⟨1, 22⟩, ⟨1, 46⟩)] := by
  intro document front
  have found : (Text.lines document)[1]? = some (front ++ 'i' :: "mp -/".toList) := by decide +kernel
  have depth : depthAfter 0 ((Text.lines document).take 1) = 0 := by decide +kernel
  have hides : Hides 0 front 'i' 'o' "mp -/" :=
    ⟨.comment, by decide +kernel, ⟨by decide, by decide, .inl (by decide)⟩, by decide, by decide,
      .inl (by decide)⟩
  have colon : ':' ∈ front := by decide
  have last : front.getLast? = some 's' := by decide
  have unread : Unread front 'i' 'o' "mp -/" :=
    { unnamed := fun names => names.not_mem colon
      unsigned := fun follows => by
        obtain ⟨x, same, known⟩ := follows.getLast?
        obtain rfl : 's' = x := Option.some.inj (last.symm.trans same)
        exact absurd known (by decide)
      misses := Text.misses_of_not_mem (by decide) _ _
      misses' := Text.misses_of_not_mem (by decide) _ _
      ends := .inl (by decide) }
  have passed : PassedOver 0 front 'i' 'o' "mp -/" := fun _ => ⟨.inl rfl, unread⟩
  refine ⟨found, hides, passed, ?_⟩
  have same := entries_exchange document 1 front 'i' 'o' "mp -/" found (depth.symm ▸ hides)
    (depth.symm ▸ passed)
  rw [same]
  decide +kernel

/-- A comment between the statement and the proof that holds the sign of a proof: the map of clauses
changes with one letter of it. -/
theorem not_entries_exchange : ¬ ∀ (document : Text) (n : Nat) (front : Text) (c c' : Char) (rest : Text),
    (Text.lines document)[n]? = some (front ++ c :: rest) →
      Hides (depthAfter 0 ((Text.lines document).take n)) front c c' rest →
        (scan (Text.joinLines ((Text.lines document).set n (front ++ c' :: rest)))).map entry =
          (scan document).map entry := by
  intro unchanged
  let front : Text := "theorem t : True /- := b"
  let rest : Text := " -/ := by trivial"
  let document : Text := front ++ 'y' :: rest
  have hides : Hides 0 front 'y' 'x' rest :=
    ⟨.comment, by decide +kernel, ⟨by decide, by decide, .inl (by decide)⟩, by decide, by decide,
      .inl (by decide)⟩
  have same := unchanged document 0 front 'y' 'x' rest (by decide +kernel) hides
  revert same
  decide +kernel

end Clause
end ProofDesk
