import Mathlib.Data.List.Nodup
import ProofDesk.Clause.Scan

/-!
# The ids of scanned clauses

A number is given without a look at the ids before it, and the name of a fact only after one. Still no
id is given twice: a number is the count of the clauses before, which only grows, and an id that a
number ends begins with a word that no fact's id begins with.

* `exists_freshId_eq` — the search for a free numbered name ends, at the first one that is free.
* `Given` — the forms of the ids that are given to some number of clauses.
* `NewIds` — the ids that one line gives; `newIds_lineClauses` proves it for every context.
* `Taken` — the ids before a line: no two are the same, and all have these forms.
* `nodup_ids_scan` — the ids of a document are pairwise different.
-/

namespace ProofDesk
namespace Clause

open Source (LineScan)

variable {taken ids : List Text} {base : Text} {category category' : Category} {count j k : Nat}

/-! ### The search for a free name -/

/-- **The search for a free name ends.** It takes at most one step for each id that is taken, and it
finds the first name that is not. -/
theorem exists_freshId_eq (used : base ∈ taken) : ∃ k ≤ taken.length,
    freshId base taken = withNumber base (taken.length + k) ∧
      withNumber base (taken.length + k) ∉ taken ∧
      ∀ j < k, withNumber base (taken.length + j) ∈ taken := by
  have free := freshId_not_mem base taken
  unfold freshId at free ⊢
  rw [if_pos used] at free ⊢
  rw [List.find?_map] at free ⊢
  cases found : (List.range (taken.length + 1)).find?
      ((fun id => decide (id ∉ taken)) ∘ fun k => withNumber base (taken.length + k)) with
  | none =>
    rw [found] at free
    exact absurd used free
  | some k =>
    obtain ⟨untaken, small, before⟩ := List.find?_range_eq_some.1 found
    refine ⟨k, Nat.le_of_lt_succ (List.mem_range.1 small), rfl, by simpa using untaken, ?_⟩
    intro j earlier
    simpa using before j earlier

theorem exists_freshId_eq_append (base : Text) (taken : List Text) :
    ∃ more, freshId base taken = base ++ more := by
  by_cases used : base ∈ taken
  · obtain ⟨k, -, found, -, -⟩ := exists_freshId_eq used
    exact ⟨"_" ++ Text.decimal (taken.length + k), by rw [found, withNumber, List.append_assoc]⟩
  · exact ⟨[], by rw [freshId, if_neg used, List.append_nil]⟩

/-! ### The two forms of ids -/

theorem underscore_not_mem_decimal (n : Nat) : '_' ∉ Text.decimal n := fun member =>
  absurd (Text.isDigit_of_mem_decimal member) (by decide)

/-- **The number of an id** can be told from the id, whatever category it was given to. -/
theorem numberedId_inj (same : numberedId category j = numberedId category' k) : j = k := by
  apply Text.decimal_inj
  have cut : category.name ++ '_' :: Text.decimal j = category'.name ++ '_' :: Text.decimal k := by
    simpa [numberedId, withNumber] using same
  have absent := underscore_not_mem_decimal
  rcases List.append_eq_append_iff.1 cut with ⟨gap, -, digits⟩ | ⟨gap, -, digits⟩
  · cases gap with
    | nil => exact (List.cons.inj digits).2
    | cons c gap =>
      refine absurd ?_ (absent j)
      rw [(List.cons.inj digits).2]
      simp
  · cases gap with
    | nil => exact (List.cons.inj digits).2.symm
    | cons c gap =>
      refine absurd ?_ (absent k)
      rw [(List.cons.inj digits).2]
      simp

/-- A numbered id is not the id of a fact. -/
theorem numberedId_ne_have (other : category ≠ .haveProof) (k : Nat) (name : Text) :
    numberedId category k ≠ "have_" ++ name := by
  intro same
  have letters : ∃ c word, category.name = c :: word ∧ c ≠ 'h' := by
    cases category with
    | haveProof => exact absurd rfl other
    | mainProof | placeholder | tacticBlock | tactic | proofLine =>
      exact ⟨_, _, rfl, by decide⟩
  obtain ⟨c, word, begins, letter⟩ := letters
  rw [numberedId, withNumber, begins] at same
  exact letter (List.cons.inj same).1

/-- **The ids that are given to `count` clauses**: a category with a smaller number, or the name of a
fact, with whatever stands behind it. -/
inductive Given (count : Nat) : Text → Prop
  | numbered {category : Category} (other : category ≠ .haveProof) {k : Nat} (early : k < count) :
      Given count (numberedId category k)
  | named (name : Text) : Given count ("have_" ++ name)

theorem Given.mono {id : Text} (given : Given j id) (less : j ≤ k) : Given k id := by
  cases given with
  | numbered other early => exact .numbered other (Nat.lt_of_lt_of_le early less)
  | named name => exact .named name

/-- A number that was not reached yet is not taken. -/
theorem Given.ne_numberedId {id : Text} (given : Given count id) (other : category ≠ .haveProof)
    (late : count ≤ k) : id ≠ numberedId category k := by
  cases given with
  | numbered _ early =>
    intro same
    have := numberedId_inj same
    omega
  | named name => exact (numberedId_ne_have other k name).symm

/-! ### One line -/

/-- **The ids that one line gives**: one category with the next numbers, or the name of a fact. -/
inductive NewIds (taken : List Text) : List Text → Prop
  | numbered {category : Category} (other : category ≠ .haveProof) (count : Nat) :
      NewIds taken ((List.range count).map fun k => numberedId category (taken.length + k))
  | named (name : Text) : NewIds taken [freshId ("have_" ++ name) taken]

theorem NewIds.nothing (taken : List Text) : NewIds taken [] :=
  .numbered (show Category.mainProof ≠ .haveProof by decide) 0

theorem NewIds.single (taken : List Text) (other : category ≠ .haveProof) :
    NewIds taken [numberedId category taken.length] :=
  .numbered other 1

theorem map_id_placeholderClauses (count line : Nat) (columns : List Nat) :
    (placeholderClauses count line columns).map Clause.id =
      (List.range columns.length).map fun k => numberedId .placeholder (count + k) := by
  unfold placeholderClauses
  rw [List.map_map, List.range_eq_range', ← List.zipIdx_map_snd 0 columns, List.map_map]
  rfl

theorem newIds_placeholderClauses (taken : List Text) (line : Nat) (columns : List Nat) :
    NewIds taken ((placeholderClauses taken.length line columns).map Clause.id) := by
  rw [map_id_placeholderClauses]
  exact .numbered (by decide) _

theorem newIds_lineClauses (context : Context) (taken : List Text) (line : Nat) (text : Text)
    (scan : LineScan) : NewIds taken ((lineClauses context taken line text scan).2.map Clause.id) := by
  unfold lineClauses
  split
  · split
    · exact .nothing taken
    · unfold headerClauses
      split
      · dsimp only
        split
        · dsimp only
          split
          · exact .nothing taken
          · exact .single taken (by decide)
        · exact newIds_placeholderClauses ..
      · split
        · exact newIds_placeholderClauses ..
        · exact .nothing taken
    · unfold proofClauses
      dsimp only
      split
      · next fact _ => exact .named fact.name
      · split
        · split
          · exact .single taken (by decide)
          · refine .single taken ?_
            split <;> decide
        · exact newIds_placeholderClauses ..
  · exact .nothing taken

/-! ### All lines -/

/-- **The ids before a line.** -/
structure Taken (ids : List Text) : Prop where
  nodup : ids.Nodup
  given : ∀ id ∈ ids, Given ids.length id

/-- **One line keeps the ids different.** -/
theorem Taken.append (before : Taken taken) (new : NewIds taken ids) : Taken (taken ++ ids) := by
  have old : ∀ {count}, ∀ id ∈ taken, Given (taken.length + count) id := fun id member =>
    (before.given id member).mono (Nat.le_add_right ..)
  cases new with
  | numbered other count =>
    constructor
    · refine List.nodup_append.2 ⟨before.nodup, ?_, ?_⟩
      · refine List.Nodup.map_on (fun j _ k _ same => ?_) List.nodup_range
        have := numberedId_inj same
        omega
      · intro id member new inside
        obtain ⟨k, -, rfl⟩ := List.mem_map.1 inside
        exact (before.given id member).ne_numberedId other (Nat.le_add_right ..)
    · rw [List.length_append, List.length_map, List.length_range]
      intro id member
      rcases List.mem_append.1 member with member | inside
      · exact old id member
      · obtain ⟨k, small, rfl⟩ := List.mem_map.1 inside
        exact .numbered other (Nat.add_lt_add_left (List.mem_range.1 small) _)
  | named name =>
    constructor
    · refine List.nodup_append.2 ⟨before.nodup, List.nodup_singleton _, ?_⟩
      rintro id member new inside rfl
      rw [List.mem_singleton.1 inside] at member
      exact freshId_not_mem _ _ member
    · intro id member
      rcases List.mem_append.1 member with member | inside
      · rw [List.length_append]
        exact old id member
      · obtain ⟨more, whole⟩ := exists_freshId_eq_append ("have_" ++ name) taken
        rw [List.mem_singleton.1 inside, whole, List.append_assoc]
        exact .named _

theorem taken_scanFrom (context : Context) (before : Taken taken) (line : Nat)
    (scanned : List (Text × LineScan)) :
    Taken (taken ++ (scanFrom context taken line scanned).map Clause.id) := by
  induction scanned generalizing context taken line with
  | nil => simpa [scanFrom] using before
  | cons pair rest ih =>
    obtain ⟨text, scan⟩ := pair
    have later := ih (lineClauses context taken line text scan).1
      (before.append (newIds_lineClauses context taken line text scan)) (line + 1)
    rw [scanFrom, List.map_append, ← List.append_assoc]
    exact later

/-- **The ids of a document are pairwise different.** -/
theorem nodup_ids_scan (document : Text) : ((scan document).map Clause.id).Nodup := by
  have nothing : Taken [] := ⟨List.nodup_nil, nofun⟩
  have all := taken_scanFrom .outside nothing 0 (Source.scanLines 0 (Text.lines document))
  exact all.nodup

end Clause
end ProofDesk
