import ProofDesk.Proofs.Source.Places

/-!
# Filling a placeholder

A placeholder is bounded on both sides by characters that no name has. So text in its place makes no
other occurrence of the word, whatever stands around it, and plain text is read as code and hands on
the mode in which it was found: the rest of the line is read as before.

* `placeholderColumns_append` — the search for placeholders does not reach over a bound.
* `Plain` — text that is code where code is read; `marks_plain` and `marksBefore_plain` say how a line
  is read around it.
* `exists_split_of_mem_sorries` — a placeholder of a line, and what stands around it.
* `filled_scanLine` — the placeholders of a line one of whose placeholders is filled.
* `others` — the places of the other placeholders; `places_fill` finds them in a document one of
  whose placeholders is filled.
-/

namespace ProofDesk
namespace Source

open Text (size)

variable {mode : Mode} {front rest behind t w w' line : Text} {before : Option Char} {c : Char}
  {depth column : Nat}

/-! ### Bounds -/

theorem bounds_eq_false_of_mem_sorryWord (member : c ∈ sorryWord) : bounds (some c) = false := by
  have all : sorryWord.all (fun c => !bounds (some c)) = true := by decide
  simpa using List.all_eq_true.1 all c member

/-- A bound at the end of a text, or behind it, keeps a placeholder from reaching over the end. -/
theorem beginsPlaceholder_append (solid : t ≠ [])
    (apart : bounds t.getLast? = true ∨ bounds rest.head? = true) :
    beginsPlaceholder before (t ++ rest) = beginsPlaceholder before t := by
  rw [Bool.eq_iff_iff, beginsPlaceholder_iff, beginsPlaceholder_iff]
  constructor
  · rintro ⟨behind, whole, left, right⟩
    rcases List.append_eq_append_iff.1 whole with ⟨gap, word, whole⟩ | ⟨gap, rfl, rfl⟩
    · cases gap with
      | nil => exact ⟨[], by simpa using word.symm, left, rfl⟩
      | cons d gap =>
        -- The word would reach over the end, where neither side is a bound.
        exfalso
        have last : t.getLast solid ∈ sorryWord := by
          rw [word]
          exact List.mem_append_left _ (List.getLast_mem solid)
        have next : d ∈ sorryWord := by simp [word]
        rw [whole, List.getLast?_eq_some_getLast solid, bounds_eq_false_of_mem_sorryWord last,
          List.cons_append, List.head?_cons, bounds_eq_false_of_mem_sorryWord next] at apart
        rcases apart with bound | bound <;> cases bound
    · refine ⟨gap, rfl, left, ?_⟩
      cases gap with
      | nil => rfl
      | cons d gap => exact right
  · rintro ⟨behind, rfl, left, right⟩
    refine ⟨behind ++ rest, List.append_assoc .., left, ?_⟩
    cases behind with
    | nil =>
      refine apart.resolve_left fun bound => ?_
      rw [List.append_nil] at bound
      revert bound
      decide
    | cons d behind => exact right

/-- **The search for placeholders does not reach over a bound.** -/
theorem placeholderColumns_append {marked marked' : List (Char × Region)}
    (apart : bounds (marked.map Prod.fst).getLast? = true ∨
      bounds (marked'.map Prod.fst).head? = true) (before : Option Char) (start : Nat) :
    placeholderColumns before start (marked ++ marked') = placeholderColumns before start marked ++
      placeholderColumns ((marked.map Prod.fst).getLast?.or before)
        (start + size (marked.map Prod.fst)) marked' := by
  induction marked generalizing before start with
  | nil => rfl
  | cons mark marked ih =>
    obtain ⟨c, region⟩ := mark
    have begins : beginsPlaceholder before ((c :: marked.map Prod.fst) ++ marked'.map Prod.fst) =
        beginsPlaceholder before (c :: marked.map Prod.fst) :=
      beginsPlaceholder_append (List.cons_ne_nil c _) apart
    have apartRest : bounds (marked.map Prod.fst).getLast? = true ∨
        bounds (marked'.map Prod.fst).head? = true := by
      cases marked with
      | nil => exact .inl rfl
      | cons mark marked => exact apart
    have later := ih apartRest (some c) (start + c.utf8Size)
    rw [List.cons_append, placeholderColumns, placeholderColumns, later]
    simp only [List.map_take, List.map_cons, List.map_append, List.cons_append,
      beginsPlaceholder_take, Text.size_cons, getLast?_cons_or, Nat.add_assoc] at begins ⊢
    rw [begins]
    split <;> rfl

theorem placeholderColumns_start (before : Option Char) (start : Nat)
    (marked : List (Char × Region)) : placeholderColumns before start marked =
      (placeholderColumns before 0 marked).map (start + ·) := by
  induction marked generalizing before start with
  | nil => rfl
  | cons mark marked ih =>
    obtain ⟨c, region⟩ := mark
    rw [placeholderColumns, placeholderColumns, ih, ih (some c) (0 + c.utf8Size)]
    split <;> simp [Function.comp_def, Nat.add_assoc]

/-- A bound is all that the search sees of what stands in front of it. -/
theorem placeholderColumns_before {marked : List (Char × Region)}
    (bound : bounds (marked.map Prod.fst).head? = true) (before before' : Option Char)
    (start : Nat) :
    placeholderColumns before start marked = placeholderColumns before' start marked := by
  cases marked with
  | nil => rfl
  | cons mark marked =>
    obtain ⟨c, region⟩ := mark
    have letter : 's' ∈ sorryWord := by decide
    have none : ∀ before, ¬ (region = .code ∧
        beginsPlaceholder before (((c, region) :: marked).take 6 |>.map Prod.fst) = true) := by
      rintro before ⟨-, begins⟩
      rw [List.map_take, beginsPlaceholder_take] at begins
      obtain ⟨behind, whole, -, -⟩ := beginsPlaceholder_iff.1 begins
      obtain ⟨rfl, -⟩ := List.cons.inj whole
      rw [List.map_cons, List.head?_cons, bounds_eq_false_of_mem_sorryWord letter] at bound
      cases bound
    rw [placeholderColumns, placeholderColumns, if_neg (none _), if_neg (none _)]

theorem placeholderColumns_sorryWord (bound : bounds before = true) (start : Nat) :
    placeholderColumns before start (sorryWord.map (·, .code)) = [start] := by
  have begins : beginsPlaceholder before sorryWord = true :=
    beginsPlaceholder_iff.2 ⟨[], rfl, bound, rfl⟩
  have inside : ∀ start, placeholderColumns (some 's') start
      (['o', 'r', 'r', 'y'].map (·, Region.code)) = [] := fun _ => rfl
  show placeholderColumns before start (('s', .code) :: ['o', 'r', 'r', 'y'].map (·, .code)) = _
  rw [placeholderColumns, inside, if_pos ⟨rfl, begins⟩]

theorem placeholderColumns_of_absent {marked : List (Char × Region)}
    (absent : ¬ sorryWord <:+: marked.map Prod.fst) (before : Option Char) (start : Nat) :
    placeholderColumns before start marked = [] := by
  refine List.eq_nil_iff_forall_not_mem.2 fun column member => absent ?_
  obtain ⟨front, behind, whole, -, -, -⟩ := mem_placeholderColumns member
  exact ⟨front, behind, whole.symm⟩

/-! ### Plain text in a line -/

/-- **Text that is code where code is read**, and begins or completes no delimiter. -/
structure Plain (w : Text) : Prop where
  solid : w ≠ []
  unquoted : '"' ∉ w
  noHyphen : '-' ∉ w
  noSlash : '/' ∉ w

theorem plain_sorryWord : Plain sorryWord := ⟨by decide, by decide, by decide, by decide⟩

/-- No character looks further than at the first one of plain text. -/
theorem step_plain (plain : Plain w) (plain' : Plain w') (mode : Mode) (c : Char) (rest : Text) :
    mode.step c (w ++ rest).head? = mode.step c (w' ++ rest).head? := by
  have other : ∀ {w}, Plain w → ∃ d others, w = d :: others ∧ d ≠ '-' ∧ d ≠ '/' := by
    intro w plain
    obtain ⟨d, others, rfl⟩ := List.exists_cons_of_ne_nil plain.solid
    exact ⟨d, others, rfl, fun same => plain.noHyphen (by simp [same]),
      fun same => plain.noSlash (by simp [same])⟩
  obtain ⟨d, others, rfl, hyphen, slash⟩ := other plain
  obtain ⟨d', others', rfl, hyphen', slash'⟩ := other plain'
  cases mode <;> simp [Mode.step, hyphen, slash, hyphen', slash']

/-- **A front part is read alike before any plain text.** -/
theorem marksBefore_plain (plain : Plain w) (plain' : Plain w') (mode : Mode) (front rest : Text) :
    marksBefore mode front (w ++ rest) = marksBefore mode front (w' ++ rest) ∧
      mode.through front (w ++ rest) = mode.through front (w' ++ rest) := by
  induction front generalizing mode with
  | nil => exact ⟨rfl, rfl⟩
  | cons c front ih =>
    have step : mode.step c (front ++ (w ++ rest)).head? =
        mode.step c (front ++ (w' ++ rest)).head? := by
      cases front with
      | nil => exact step_plain plain plain' mode c rest
      | cons d front => rfl
    unfold marksBefore Mode.through
    rw [step]
    exact ⟨congrArg _ (ih _).1, (ih _).2⟩

/-- Plain text is read as code, and code is read behind it. -/
theorem marksBefore_code_plain (plain : Plain w) (rest : Text) :
    marksBefore .code w rest = w.map (·, .code) ∧ Mode.through .code w rest = .code := by
  have opens : ∀ {first}, first ∉ w → ¬ [first, '-'] <:+: w ++ rest.take 1 := by
    intro first absent
    rw [Text.pair_infix_append_take]
    rintro (inside | ⟨last, -⟩)
    · exact absent (inside.subset (List.mem_cons_self ..))
    · exact absent (List.mem_of_getLast? last)
  exact marksBefore_code plain.unquoted (opens plain.noHyphen) (opens plain.noSlash)

/-- **A line around plain text.** -/
theorem marks_plain (plain : Plain w) (coded : mode.through front (w ++ rest) = .code) :
    marks mode (front ++ (w ++ rest)) =
      marksBefore mode front (w ++ rest) ++ (w.map (·, .code) ++ marks .code rest) := by
  obtain ⟨marked, ends⟩ := marksBefore_code_plain plain rest
  rw [marks_append, coded, marks_append, marked, ends]

theorem after_append (mode : Mode) (front rest : Text) :
    mode.after (front ++ rest) = (mode.through front rest).after rest := by
  induction front generalizing mode with
  | nil => rfl
  | cons c front ih => exact ih _

theorem after_plain (plain : Plain w) (coded : mode.through front (w ++ rest) = .code) :
    mode.after (front ++ (w ++ rest)) = Mode.code.after rest := by
  rw [after_append, coded, after_append, (marksBefore_code_plain plain rest).2]

/-! ### A line with a placeholder -/

/-- Only code is read as code. -/
theorem eq_code_of_step {next : Option Char} (region : (mode.step c next).1 = .code) :
    mode = .code := by
  cases mode with
  | code => rfl
  | literal =>
    rw [Mode.step] at region
    repeat' split at region
    all_goals cases region
  | comment outer =>
    rw [Mode.step] at region
    repeat' split at region
    all_goals cases region
  | escape => cases region
  | opening outer => cases region
  | closing outer => cases region
  | remark => cases region

/-- The placeholders of marked characters begin among them. -/
theorem lt_size_of_mem_marked {marked : List (Char × Region)} {start : Nat}
    (member : column ∈ placeholderColumns before start marked) :
    column < start + size (marked.map Prod.fst) := by
  have none : ∀ mark ∈ ([] : List (Char × Region)), mark.2 ≠ .code := by simp
  exact lt_size_of_mem_placeholderColumns none (by rwa [List.append_nil])

/-- **A placeholder of a line** stands in code between two bounds. -/
theorem exists_split_of_mem_sorries (member : column ∈ (scanLine depth line).sorries) :
    ∃ front behind, line = front ++ (sorryWord ++ behind) ∧ column = size front ∧
      bounds front.getLast? = true ∧ bounds behind.head? = true ∧
      (Mode.atDepth depth).through front (sorryWord ++ behind) = .code := by
  obtain ⟨front, behind, whole, place, left, right⟩ := mem_placeholderColumns member
  rw [map_fst_marks, List.append_assoc] at whole
  rw [Option.or_none] at left
  rw [Nat.zero_add] at place
  refine ⟨front, behind, whole, place, left, right, ?_⟩
  have found : column ∈ placeholderColumns none 0 (marks (.atDepth depth) line) := member
  rw [whole, marks_append, placeholderColumns_append (.inl (by rwa [map_fst_marksBefore])),
    map_fst_marksBefore, Nat.zero_add] at found
  rcases List.mem_append.1 found with inFront | here
  · -- In front of the word there is no place for its first character.
    have early := lt_size_of_mem_marked inFront
    rw [map_fst_marksBefore] at early
    omega
  · -- Its first character is code, as the other places are behind it.
    show _ = Mode.code
    generalize (Mode.atDepth depth).through front (sorryWord ++ behind) = mode at here ⊢
    rw [sorryWord, List.cons_append, marks, placeholderColumns] at here
    split at here
    · next both => exact eq_code_of_step both.1
    · obtain ⟨front', behind', -, place', -, -⟩ := mem_placeholderColumns here
      have wide := 's'.utf8Size_pos
      omega

/-- Where the placeholders behind a filled one begin, counted from it. -/
def laterColumns (behind : Text) : List Nat :=
  placeholderColumns (some 'y') 0 (marks .code behind)

/-- **The placeholders of a line around plain text**, which is bounded on both sides: those in front of
it, its own, and those behind it. -/
theorem sorries_plain (plain : Plain w) (left : bounds front.getLast? = true)
    (right : bounds behind.head? = true)
    (coded : (Mode.atDepth depth).through front (w ++ behind) = .code) :
    (scanLine depth (front ++ (w ++ behind))).sorries =
      placeholderColumns none 0 (marksBefore (.atDepth depth) front (w ++ behind)) ++
        (placeholderColumns front.getLast? (size front) (w.map (·, .code)) ++
          (laterColumns behind).map (size front + size w + ·)) := by
  have own : (w.map (·, Region.code)).map Prod.fst = w := by simp [Function.comp_def]
  have right' : bounds ((marks .code behind).map Prod.fst).head? = true := by rwa [map_fst_marks]
  show placeholderColumns none 0 (marks (.atDepth depth) (front ++ (w ++ behind))) = _
  rw [marks_plain plain coded, placeholderColumns_append (.inl (by rwa [map_fst_marksBefore])),
    map_fst_marksBefore, Option.or_none, Nat.zero_add, placeholderColumns_append (.inr right'), own,
    placeholderColumns_start _ (size front + size w), laterColumns,
    placeholderColumns_before right' _ (some 'y')]

/-- **Text that can fill a placeholder**: plain text for one line, without the word. -/
structure Fills (t : Text) : Prop extends Plain t where
  single : '\n' ∉ t
  complete : ¬ sorryWord <:+: t

/-- **A placeholder of a line is filled**: the others are where they were, those behind it moved by the
difference of the sizes, and the next line is read as before. -/
theorem filled_scanLine (fills : Fills t) (left : bounds front.getLast? = true)
    (right : bounds behind.head? = true)
    (coded : (Mode.atDepth depth).through front (sorryWord ++ behind) = .code) :
    ∃ earlier, (∀ column ∈ earlier, column < size front) ∧
      (scanLine depth (front ++ (sorryWord ++ behind))).sorries = earlier ++
        size front :: (laterColumns behind).map (size front + size sorryWord + ·) ∧
      (scanLine depth (front ++ (t ++ behind))).sorries = earlier ++
        (laterColumns behind).map (size front + size t + ·) ∧
      (scanLine depth (front ++ (t ++ behind))).depth =
        (scanLine depth (front ++ (sorryWord ++ behind))).depth := by
  obtain ⟨same, modes⟩ := marksBefore_plain fills.toPlain plain_sorryWord (.atDepth depth) front behind
  have codedText : (Mode.atDepth depth).through front (t ++ behind) = .code := modes.trans coded
  refine ⟨placeholderColumns none 0 (marksBefore (.atDepth depth) front (sorryWord ++ behind)),
    ?_, ?_, ?_, ?_⟩
  · intro column member
    have early := lt_size_of_mem_marked member
    rwa [map_fst_marksBefore, Nat.zero_add] at early
  · rw [sorries_plain plain_sorryWord left right coded, placeholderColumns_sorryWord left]
    rfl
  · have absent : ¬ sorryWord <:+: (t.map (·, Region.code)).map Prod.fst := by
      simpa [Function.comp_def] using fills.complete
    rw [sorries_plain fills.toPlain left right codedText, same, placeholderColumns_of_absent absent]
    rfl
  · show (Mode.after _ _).depth = (Mode.after _ _).depth
    rw [after_plain fills.toPlain codedText, after_plain plain_sorryWord coded]

/-! ### A document with a placeholder -/

section Places

variable {place : Position} {places : List Position} {all : List Text} {n k : Nat}

/-- **Where a place comes to be** when text of so many bytes fills the placeholder at `place`: what
stands behind that on the same line moves by the difference of the sizes. -/
def moved (place : Position) (width : Nat) (other : Position) : Position :=
  if other.line = place.line ∧ place.column < other.column then
    ⟨other.line, other.column + width - size sorryWord⟩
  else other

/-- **The places of the other placeholders**, when text of so many bytes fills the one at `place`. -/
def others (place : Position) (width : Nat) (places : List Position) : List Position :=
  (places.erase place).map (moved place width)

theorem moved_behind (width : Nat) : moved ⟨n, column⟩ width ⟨n, column + size sorryWord + k⟩ =
    ⟨n, column + width + k⟩ := by
  have behind : column < column + size sorryWord + k := by
    rw [size_sorryWord]
    omega
  rw [moved, if_pos ⟨rfl, behind⟩, Position.mk.injEq]
  refine ⟨rfl, ?_⟩
  show column + size sorryWord + k + width - size sorryWord = _
  omega

theorem map_moved_of_apart (width : Nat)
    (apart : ∀ other ∈ places, other.line ≠ place.line ∨ other.column ≤ place.column) :
    places.map (moved place width) = places := by
  refine (List.map_congr_left fun other member => ?_).trans (List.map_id places)
  refine if_neg fun ⟨same, behind⟩ => ?_
  rcases apart other member with line | column
  · exact line same
  · omega

/-- **The others, part by part**: what stands in front stays, what stands behind on the line moves, and
the lines below stay. -/
theorem others_append {front below : List Position} (later : List Nat) (width : Nat)
    (inFront : ∀ other ∈ front, other.line < n ∨ other.line = n ∧ other.column < column)
    (onLater : ∀ other ∈ below, n < other.line) :
    others ⟨n, column⟩ width (front ++
        (⟨n, column⟩ :: later.map (fun k => ⟨n, column + size sorryWord + k⟩) ++ below)) =
      front ++ (later.map (fun k => ⟨n, column + width + k⟩) ++ below) := by
  have absent : (⟨n, column⟩ : Position) ∉ front := by
    intro member
    rcases inFront _ member with above | ⟨-, before⟩
    · exact Nat.lt_irrefl n above
    · exact Nat.lt_irrefl column before
  have stay : front.map (moved ⟨n, column⟩ width) = front :=
    map_moved_of_apart width fun other member =>
      (inFront other member).imp Nat.ne_of_lt fun before => Nat.le_of_lt before.2
  have stay' : below.map (moved ⟨n, column⟩ width) = below :=
    map_moved_of_apart width fun other member => .inl (Nat.ne_of_gt (onLater other member))
  have move : (later.map (fun k => ⟨n, column + size sorryWord + k⟩)).map (moved ⟨n, column⟩ width) =
      later.map (fun k => ⟨n, column + width + k⟩) := by
    rw [List.map_map]
    exact List.map_congr_left fun k _ => moved_behind width
  rw [others, List.erase_append_right _ absent, List.cons_append, List.erase_cons_head,
    List.map_append, List.map_append, stay, move, stay']

/-- **A placeholder of a document is filled**: its place is gone, the later ones on its line moved, and
all others stayed. -/
theorem places_fill (fills : Fills t) (found : all[n]? = some (front ++ (sorryWord ++ behind)))
    (left : bounds front.getLast? = true) (right : bounds behind.head? = true)
    (coded : (Mode.atDepth (depthAfter 0 (all.take n))).through front (sorryWord ++ behind) = .code) :
    placesFrom 0 0 (all.set n (front ++ (t ++ behind))) =
      others ⟨n, size front⟩ (size t) (placesFrom 0 0 all) := by
  obtain ⟨earlier, early, old, new, depths⟩ := filled_scanLine fills left right coded
  have short := (List.getElem?_eq_some_iff.1 found).1
  have whole := placesFrom_of_getElem? found
  have whole' := placesFrom_of_getElem? (List.getElem?_set_self (a := front ++ (t ++ behind)) short)
  rw [List.take_set_of_le (Nat.le_refl n), List.drop_set_of_lt (Nat.lt_succ_self n)] at whole'
  dsimp only at whole whole'
  rw [old] at whole
  rw [new, depths] at whole'
  generalize (scanLine _ (front ++ (sorryWord ++ behind))).depth = deeper at whole whole'
  have inFront : ∀ other ∈ placesFrom 0 0 (all.take n) ++ earlier.map (⟨n, ·⟩),
      other.line < n ∨ other.line = n ∧ other.column < size front := by
    intro other member
    rcases List.mem_append.1 member with above | before
    · obtain ⟨k, line, inside, number, -⟩ := mem_placesFrom.1 above
      have := (List.getElem?_eq_some_iff.1 inside).1
      rw [List.length_take] at this
      omega
    · obtain ⟨column, inside, rfl⟩ := List.mem_map.1 before
      exact .inr ⟨rfl, early column inside⟩
  have onLater : ∀ other ∈ placesFrom deeper (n + 1) (all.drop (n + 1)), n < other.line := by
    intro other member
    obtain ⟨k, line, -, number, -⟩ := mem_placesFrom.1 member
    omega
  have split := others_append (laterColumns behind) (size t) inFront onLater
  rw [whole, whole']
  simp only [List.map_append, List.map_cons, List.map_map, List.append_assoc] at split ⊢
  exact split.symm

end Places

end Source
end ProofDesk
