import ProofDesk.Proofs.Source.Mode

/-!
# The placeholders of a document line by line

* `placesFrom` — the places of the placeholders of lines; `placeholders_eq_placesFrom` says that they
  are the placeholders of a document.
* `placesFrom_append` — lines one after the other, the depth handed on.
* `mem_placeholders` — a place is one of a placeholder exactly when the scan of its line reports it.
* `pairwise_placeholders` — the places come in order.
-/

namespace ProofDesk

/-- One place stands before another one. -/
def Position.Before (place later : Position) : Prop :=
  place.line < later.line ∨ place.line = later.line ∧ place.column < later.column

theorem Position.Before.ne {place later : Position} (before : place.Before later) : place ≠ later := by
  rintro rfl
  rcases before with line | ⟨-, column⟩
  · exact Nat.lt_irrefl _ line
  · exact Nat.lt_irrefl _ column

namespace Source

variable {depth n : Nat} {line document : Text} {front rest all : List Text} {place : Position}

/-- The places of the placeholders of lines, the first of them having number `n`. -/
def placesFrom : (depth n : Nat) → List Text → List Position
  | _, _, [] => []
  | depth, n, line :: rest =>
    (scanLine depth line).sorries.map (⟨n, ·⟩) ++ placesFrom (scanLine depth line).depth (n + 1) rest

theorem flatMap_scanLines (depth n : Nat) (all : List Text) :
    ((scanLines depth all).zipIdx n).flatMap (fun ((_, scan), line) =>
      scan.sorries.map fun column => ⟨line, column⟩) = placesFrom depth n all := by
  induction all generalizing depth n with
  | nil => rfl
  | cons line rest ih =>
    rw [scanLines, List.zipIdx_cons, List.flatMap_cons, placesFrom, ← ih]

theorem placeholders_eq_placesFrom (document : Text) :
    placeholders document = placesFrom 0 0 (Text.lines document) :=
  flatMap_scanLines 0 0 _

/-- **Lines one after the other**, the depth handed on. -/
theorem placesFrom_append (depth n : Nat) (front rest : List Text) :
    placesFrom depth n (front ++ rest) =
      placesFrom depth n front ++ placesFrom (depthAfter depth front) (n + front.length) rest := by
  induction front generalizing depth n with
  | nil => rfl
  | cons line front ih =>
    rw [List.cons_append, placesFrom, ih, placesFrom, List.append_assoc, List.length_cons,
      Nat.add_assoc n, Nat.add_comm 1]
    rfl

theorem mem_placesFrom : place ∈ placesFrom depth n all ↔ ∃ k line, all[k]? = some line ∧
    place.line = n + k ∧ place.column ∈ (scanLine (depthAfter depth (all.take k)) line).sorries := by
  induction all generalizing depth n with
  | nil => simp [placesFrom]
  | cons line rest ih =>
    rw [placesFrom, List.mem_append, ih]
    constructor
    · rintro (here | ⟨k, line', found, number, inside⟩)
      · obtain ⟨column, inside, rfl⟩ := List.mem_map.1 here
        exact ⟨0, line, rfl, rfl, inside⟩
      · exact ⟨k + 1, line', found, by omega, inside⟩
    · rintro ⟨k, line', found, number, inside⟩
      cases k with
      | zero =>
        obtain rfl : line = line' := by simpa using found
        have same : n = place.line := number.symm
        exact .inl (List.mem_map.2 ⟨place.column, inside, by rw [same]⟩)
      | succ k => exact .inr ⟨k, line', found, by omega, inside⟩

/-- **The places of placeholders** are those that the scans of their lines report. -/
theorem mem_placeholders : place ∈ placeholders document ↔
    ∃ line, (Text.lines document)[place.line]? = some line ∧ place.column ∈
      (scanLine (depthAfter 0 ((Text.lines document).take place.line)) line).sorries := by
  rw [placeholders_eq_placesFrom, mem_placesFrom]
  constructor
  · rintro ⟨k, line, found, number, inside⟩
    rw [Nat.zero_add] at number
    rw [number]
    exact ⟨line, found, inside⟩
  · rintro ⟨line, found, inside⟩
    exact ⟨place.line, line, found, (Nat.zero_add _).symm, inside⟩

theorem mem_sorries_of_mem_placeholders (listed : place ∈ placeholders document)
    (found : (Text.lines document)[place.line]? = some line) : place.column ∈
      (scanLine (depthAfter 0 ((Text.lines document).take place.line)) line).sorries := by
  obtain ⟨line', found', reported⟩ := mem_placeholders.1 listed
  rwa [Option.some.inj (found.symm.trans found')]

/-- A line with a placeholder has code. -/
theorem hasCode_of_mem_sorries {column : Nat} (member : column ∈ (scanLine depth line).sorries) :
    (scanLine depth line).hasCode = true := by
  have solid : ∀ {before start} {marked : List (Char × Region)},
      column ∈ placeholderColumns before start marked → marked.any isSolid = true := by
    intro before start marked member
    induction marked generalizing before start with
    | nil => cases member
    | cons mark rest ih =>
      obtain ⟨c, region⟩ := mark
      rw [List.any_cons, Bool.or_eq_true]
      simp only [placeholderColumns] at member
      split at member
      · next here =>
        left
        have begins := here.2
        rw [List.map_take, beginsPlaceholder_take] at begins
        obtain ⟨behind, text, -, -⟩ := beginsPlaceholder_iff.1 begins
        obtain ⟨rfl, -⟩ := List.cons.inj text
        rw [here.1]
        decide
      · exact .inr (ih member)
  exact solid member

/-- **The places around a line**: those of the lines before, its own, and those of the lines behind. -/
theorem placesFrom_of_getElem? (found : all[n]? = some line) :
    let depth := depthAfter 0 (all.take n)
    placesFrom 0 0 all = placesFrom 0 0 (all.take n) ++
      ((scanLine depth line).sorries.map (⟨n, ·⟩) ++
        placesFrom (scanLine depth line).depth (n + 1) (all.drop (n + 1))) := by
  obtain ⟨short, rfl⟩ := List.getElem?_eq_some_iff.1 found
  have split : all = all.take n ++ all[n] :: all.drop (n + 1) := by
    rw [List.getElem_cons_drop, List.take_append_drop]
  have whole := placesFrom_append 0 0 (all.take n) (all[n] :: all.drop (n + 1))
  rw [← split, List.length_take, Nat.min_eq_left (Nat.le_of_lt short), Nat.zero_add] at whole
  exact whole

theorem pairwise_placesFrom (depth n : Nat) (all : List Text) :
    (placesFrom depth n all).Pairwise Position.Before := by
  induction all generalizing depth n with
  | nil => exact List.Pairwise.nil
  | cons line rest ih =>
    refine List.pairwise_append.2 ⟨?_, ih _ _, ?_⟩
    · exact List.pairwise_map.2 ((pairwise_sorries depth line).imp fun apart => .inr ⟨rfl, by grind⟩)
    · intro place here other later
      obtain ⟨column, -, rfl⟩ := List.mem_map.1 here
      obtain ⟨k, -, -, number, -⟩ := mem_placesFrom.1 later
      exact .inl (by dsimp only; omega)

/-- **Placeholders are reported in order.** -/
theorem pairwise_placeholders (document : Text) :
    (placeholders document).Pairwise Position.Before :=
  placeholders_eq_placesFrom document ▸ pairwise_placesFrom 0 0 _

/-- **No place is reported twice.** -/
theorem nodup_placeholders (document : Text) : (placeholders document).Nodup :=
  (pairwise_placeholders document).imp Position.Before.ne

end Source
end ProofDesk
