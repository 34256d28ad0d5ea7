import ProofDesk.Rehearsal.Tree

/-!
# Files of a tree

A file that is written is read back, and what is written elsewhere does not change it. A path is told
apart from another one by its destination, which depends on its names alone and not on what is there.

* `Tree.destination` — where the names of a path lead; `follow_eq_destination` says that a walk along
  them ends there.
* `Grows` — directories stay directories; `follow_of_grows` carries walks over.
* `exists_put_of_fill` — what writing a file does to a tree.
* `read_write` — a written file is read back.
* `read_put` — a file stays what it is when something is put elsewhere.
* `remove_put` — an entry that is put at a free place and removed again leaves no trace.
-/

namespace ProofDesk
namespace Rehearsal
namespace Tree

variable {tree later : Tree} {start place other : List Text} {names : List Text}
  {path content text name : Text} {entry : Entry}

/-! ### Entries -/

theorem ne_nil_of_known (known : tree.entry? place ≠ some .directory) : place ≠ [] := by
  rintro rfl
  exact known rfl

theorem entry?_put (solid : place ≠ []) (entry : Entry) (other : List Text) :
    Tree.entry? (tree.put place entry) other = if other = place then some entry else tree.entry? other := by
  unfold entry? put
  dsimp only
  by_cases same : other = place
  · rw [same, if_neg solid, if_pos rfl, List.find?_cons_of_pos (by simp)]
    rfl
  · have misses : ∀ found : List Text × Entry,
        (decide (found.1 ≠ place) = true ∧ decide (found.1 = other) = true) ↔ found.1 = other := by
      intro found
      simp only [decide_eq_true_eq]
      exact ⟨And.right, fun here => ⟨here ▸ same, here⟩⟩
    rw [if_neg same, List.find?_cons_of_neg (by simpa using Ne.symm same), List.find?_filter]
    simp only [misses]

/-- **An entry put at a free place and removed again** leaves no trace. -/
theorem remove_put (free : tree.entry? place = none) (entry : Entry) :
    (tree.put place entry).remove place = tree := by
  have solid : place ≠ [] := ne_nil_of_known (by rw [free]; nofun)
  have unused : ∀ found ∈ tree.entries, found.1 ≠ place := by
    intro found member same
    have missing := free
    unfold entry? at missing
    rw [if_neg solid, Option.map_eq_none_iff, List.find?_eq_none] at missing
    exact missing found member (by simpa using same)
  have kept : tree.entries.filter (fun found => decide (found.1 ≠ place)) = tree.entries :=
    List.filter_eq_self.2 fun found member => decide_eq_true (unused found member)
  unfold remove put
  rw [List.filter_cons_of_neg (by simp), kept, kept]

/-! ### Walks -/

/-- The name is none of those that stand for a directory itself or for the one above it. -/
def Plain (name : Text) : Prop := ¬ (name = [] ∨ name = ['.']) ∧ name ≠ ['.', '.']

/-- The place to which a name leads from a place, by the name alone. -/
def stepTo (start : List Text) (name : Text) : List Text :=
  if name = [] ∨ name = ['.'] then start
  else if name = ['.', '.'] then start.dropLast
  else start ++ [name]

theorem stepTo_of_plain (plain : Plain name) (start : List Text) : stepTo start name = start ++ [name] := by
  rw [stepTo, if_neg plain.1, if_neg plain.2]

/-- The place to which names lead from a place, by the names alone. -/
def destinationFrom (start names : List Text) : List Text := names.foldl stepTo start

theorem destinationFrom_append (start first rest : List Text) :
    destinationFrom start (first ++ rest) = destinationFrom (destinationFrom start first) rest :=
  List.foldl_append

/-- **The destination of a path**, by its names alone. -/
def destination (tree : Tree) (path : Text) : List Text :=
  destinationFrom (tree.origin path) (Text.splitOn '/' path)

/-- Directories stay directories. -/
structure Grows (tree later : Tree) : Prop where
  workplace : later.workplace = tree.workplace
  directories : ∀ {place}, tree.entry? place = some .directory → later.entry? place = some .directory

theorem origin_congr (same : later.workplace = tree.workplace) (path : Text) :
    later.origin path = tree.origin path := by
  unfold origin
  rw [same]

theorem destination_congr (same : later.workplace = tree.workplace) (path : Text) :
    later.destination path = tree.destination path := by
  unfold destination
  rw [origin_congr same]

theorem grows_put (known : tree.entry? place ≠ some .directory) (entry : Entry) :
    Grows tree (tree.put place entry) where
  workplace := rfl
  directories := by
    intro other directory
    rw [entry?_put (ne_nil_of_known known), if_neg]
    · exact directory
    · rintro rfl
      exact known directory

theorem follow_append (tree : Tree) (start first rest : List Text) :
    tree.follow start (first ++ rest) = (tree.follow start first).bind fun place => tree.follow place rest := by
  induction first generalizing start with
  | nil => rfl
  | cons name first ih =>
    rw [List.cons_append]
    simp only [follow]
    split
    · split
      · exact ih start
      · split
        · exact ih _
        · split
          · exact ih _
          · rfl
    · rfl

/-- **One name of a walk**: it is looked for in a directory, and a plain one is found there. -/
theorem follow_cons : tree.follow start (name :: names) = .ok place ↔
    tree.entry? start = some .directory ∧ (Plain name → tree.entry? (start ++ [name]) ≠ none) ∧
      tree.follow (stepTo start name) names = .ok place := by
  simp only [follow]
  split
  · next lies =>
    unfold stepTo
    split
    · next idle => simp [lies, Plain, idle]
    · next moves =>
      split
      · next up => simp [lies, Plain, up]
      · next down =>
        split
        · next found => simp [lies, found]
        · next missing => simp [missing, Plain, moves, down]
  · next other => simpa using fun lies => absurd lies other

/-- **A walk ends at its destination.** -/
theorem follow_eq_destination (reached : tree.follow start names = .ok place) :
    place = destinationFrom start names := by
  induction names generalizing start with
  | nil =>
    cases reached
    rfl
  | cons name names ih => exact ih (follow_cons.1 reached).2.2

theorem walk_eq_destination (reached : tree.walk path = .ok place) : place = tree.destination path := by
  unfold walk at reached
  split at reached
  · cases reached
  · exact follow_eq_destination reached

/-- **A walk goes the same way** where directories stay directories and something is at its end. -/
theorem follow_of_grows (grows : Grows tree later) (reached : tree.follow start names = .ok place)
    (there : later.entry? place ≠ none) : later.follow start names = .ok place := by
  induction names generalizing start with
  | nil => exact reached
  | cons name names ih =>
    obtain ⟨lies, -, rest⟩ := follow_cons.1 reached
    refine follow_cons.2 ⟨grows.directories lies, fun plain => ?_, ih rest⟩
    rw [stepTo_of_plain plain] at rest
    -- The name is the last one, or it names a directory.
    cases names with
    | nil =>
      cases rest
      exact there
    | cons next names => simp [grows.directories (follow_cons.1 rest).1]

theorem walk_of_grows (grows : Grows tree later) (reached : tree.walk path = .ok place)
    (there : later.entry? place ≠ none) : later.walk path = .ok place := by
  unfold walk at reached ⊢
  split at reached
  · cases reached
  · next solid =>
    rw [if_neg solid, origin_congr grows.workplace]
    exact follow_of_grows grows reached there

/-! ### New entries -/

theorem newPlace_eq_ok (found : tree.newPlace path = .ok place) :
    ∃ front last directory, Text.splitOn '/' path = front ++ [last] ∧ last ≠ [] ∧
      tree.follow (tree.origin path) front = .ok directory ∧
      tree.entry? directory = some .directory ∧ place = directory ++ [last] := by
  obtain ⟨front, last, shape⟩ : ∃ front last, Text.splitOn '/' path = front ++ [last] :=
    ⟨_, _, (List.dropLast_concat_getLast (Text.splitOn_ne_nil '/' path)).symm⟩
  unfold newPlace at found
  simp only [shape, List.dropLast_concat, List.getLast?_concat, Option.getD_some] at found
  cases way : tree.follow (tree.origin path) front with
  | error error =>
    rw [way] at found
    cases found
  | ok directory =>
    rw [way] at found
    simp only [bind, Except.bind] at found
    split at found
    · cases found
    · next lies solid =>
      cases found
      exact ⟨front, _, directory, shape, solid, way, lies, rfl⟩
    · cases found

/-- A name that is not found in a directory is plain, and nothing is there. -/
theorem free_of_follow (lies : tree.entry? start = some .directory)
    (missing : tree.follow start [name] = .error .notFound) :
    tree.entry? (start ++ [name]) = none ∧ Plain name := by
  simp only [follow, lies] at missing
  split at missing
  · cases missing
  · next moves =>
    split at missing
    · cases missing
    · next down =>
      split at missing
      · cases missing
      · next free => exact ⟨free, moves, down⟩

/-- **A new place is free**, it is the destination of its path, and the path leads there once it is
taken. -/
theorem newPlace_cases (missing : tree.walk path = .error .notFound)
    (found : tree.newPlace path = .ok place) :
    tree.entry? place = none ∧ place = tree.destination path ∧
      ∀ entry, (tree.put place entry).walk path = .ok place := by
  obtain ⟨front, last, directory, shape, solid, way, lies, rfl⟩ := newPlace_eq_ok found
  have nonempty : path ≠ [] := by
    rintro rfl
    have ends := congrArg List.getLast? shape
    rw [List.getLast?_concat] at ends
    exact solid (Option.some.inj ends).symm
  unfold walk at missing
  rw [if_neg nonempty, shape, follow_append, way] at missing
  obtain ⟨free, plain⟩ := free_of_follow lies missing
  refine ⟨free, ?_, fun entry => ?_⟩
  · rw [destination, shape, destinationFrom_append, ← follow_eq_destination way]
    exact (stepTo_of_plain plain directory).symm
  · have grows : Grows tree (tree.put (directory ++ [last]) entry) :=
      grows_put (by rw [free]; nofun) entry
    have lies' := grows.directories lies
    have there : Tree.entry? (tree.put (directory ++ [last]) entry) (directory ++ [last]) = some entry := by
      rw [entry?_put (by simp), if_pos rfl]
    have arrives : (tree.put (directory ++ [last]) entry).follow directory [last] =
        .ok (directory ++ [last]) :=
      follow_cons.2 ⟨lies', fun _ => by rw [there]; nofun, congrArg _ (stepTo_of_plain plain directory)⟩
    unfold walk
    rw [if_neg nonempty, origin_congr grows.workplace, shape, follow_append,
      follow_of_grows grows way (by rw [lies']; nofun)]
    exact arrives

/-- **Writing a file** puts it at the destination of its path, where no directory may be. -/
theorem exists_put_of_fill {written : Option Text} (filled : tree.fill path written = .ok later) :
    tree.entry? (tree.destination path) ≠ some .directory ∧
      later = tree.put (tree.destination path) (.file written) ∧
      later.walk path = .ok (tree.destination path) := by
  unfold fill at filled
  split at filled
  · cases filled
  · split at filled
    · next place reached =>
      obtain rfl := walk_eq_destination reached
      split at filled
      · cases filled
      · next known =>
        cases filled
        refine ⟨known, rfl, walk_of_grows (grows_put known _) reached ?_⟩
        rw [entry?_put (ne_nil_of_known known), if_pos rfl]
        nofun
    · next missing =>
      cases found : tree.newPlace path with
      | error error =>
        rw [found] at filled
        cases filled
      | ok place =>
        rw [found] at filled
        cases filled
        obtain ⟨free, rfl, leads⟩ := newPlace_cases missing found
        exact ⟨by rw [free]; nofun, rfl, leads _⟩
    · cases filled

/-- A file at a path that leads nowhere is written to a free place. -/
theorem free_of_fill {written : Option Text} (missing : (tree.walk path).isOk = false)
    (filled : tree.fill path written = .ok later) : tree.entry? (tree.destination path) = none := by
  unfold fill at filled
  split at filled
  · cases filled
  · split at filled
    · next reached =>
      rw [reached] at missing
      cases missing
    · next absent =>
      cases found : tree.newPlace path with
      | error error =>
        rw [found] at filled
        cases filled
      | ok place =>
        obtain ⟨free, rfl, -⟩ := newPlace_cases absent found
        exact free
    · cases filled

/-- **Making a directory** puts it at a free place. -/
theorem exists_put_of_makeDirectory (made : tree.makeDirectory path = .ok later) :
    ∃ place, tree.entry? place = none ∧ later = tree.put place .directory := by
  unfold makeDirectory at made
  split at made
  · cases made
  · next missing =>
    cases found : tree.newPlace path with
    | error error =>
      rw [found] at made
      cases made
    | ok place =>
      rw [found] at made
      cases made
      exact ⟨place, (newPlace_cases missing found).1, rfl⟩
  · cases made

/-! ### Contents -/

theorem read_eq_ok : tree.read path = .ok text ↔
    tree.walk path = .ok (tree.destination path) ∧
      tree.entry? (tree.destination path) = some (.file (some text)) := by
  constructor
  · intro found
    unfold read at found
    cases reached : tree.walk path with
    | error error =>
      rw [reached] at found
      cases found
    | ok place =>
      obtain rfl := walk_eq_destination reached
      rw [reached] at found
      simp only [bind, Except.bind] at found
      split at found
      · next lies =>
        cases found
        exact ⟨rfl, lies⟩
      · cases found
      · cases found
  · rintro ⟨reached, lies⟩
    unfold read
    rw [reached]
    simp only [bind, Except.bind, lies]
    rfl

/-- **A written file is read back.** -/
theorem read_write (written : tree.write path content = .ok later) : later.read path = .ok content := by
  obtain ⟨known, rfl, leads⟩ := exists_put_of_fill written
  rw [read_eq_ok, destination_congr (grows_put known _).workplace, entry?_put (ne_nil_of_known known), if_pos rfl]
  exact ⟨leads, rfl⟩

/-- **A file stays what it is** when something is put elsewhere, and not over a directory. -/
theorem read_put (found : tree.read path = .ok text) (known : tree.entry? place ≠ some .directory)
    (apart : place ≠ tree.destination path) (entry : Entry) :
    (tree.put place entry).read path = .ok text := by
  obtain ⟨reached, lies⟩ := read_eq_ok.1 found
  have grows := grows_put known entry
  have kept : Tree.entry? (tree.put place entry) (tree.destination path) = some (.file (some text)) := by
    rw [entry?_put (ne_nil_of_known known), if_neg (Ne.symm apart), lies]
  rw [read_eq_ok, destination_congr grows.workplace]
  exact ⟨walk_of_grows grows reached (by rw [kept]; nofun), kept⟩

/-- A file stays what it is when another one is written. -/
theorem read_fill_of_ne {out : Text} {written : Option Text} (found : tree.read path = .ok text)
    (filled : tree.fill out written = .ok later) (apart : tree.destination out ≠ tree.destination path) :
    later.read path = .ok text := by
  obtain ⟨known, rfl, -⟩ := exists_put_of_fill filled
  exact read_put found known apart _

end Tree
end Rehearsal
end ProofDesk
