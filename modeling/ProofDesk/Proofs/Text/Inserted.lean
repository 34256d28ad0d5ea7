import ProofDesk.Text.Search

/-!
# Texts with a suffix put into them

Each character is marked by whether the suffix is put behind it. When the suffix begins with a
character that it does not have again, and the text does not have the suffix, nothing else in the new
text reads as the suffix: no occurrence reaches into one that was put there.

* `put` — the new text.
* `eraseAll_put` — erasing the suffix gives the text back.
* `CarriedColumn` — where a column of the text goes; `eraseAll_take_put` goes back from there.
-/

namespace ProofDesk
namespace Text

/-- The marked characters with the suffix behind those that are marked. -/
def put (suffix : Text) (marked : List (Char × Bool)) : Text :=
  marked.flatMap fun mark => mark.1 :: if mark.2 then suffix else []

variable {suffix body : Text} {mark : Char} {marked : List (Char × Bool)} {column column' : Nat}

theorem put_cons (suffix : Text) (c : Char) (ends : Bool) (marked : List (Char × Bool)) :
    put suffix ((c, ends) :: marked) =
      c :: ((if ends then suffix else []) ++ put suffix marked) := by
  unfold put
  rw [List.flatMap_cons, List.cons_append]

theorem put_append (suffix : Text) (front marked : List (Char × Bool)) :
    put suffix (front ++ marked) = put suffix front ++ put suffix marked :=
  List.flatMap_append

theorem length_put (suffix : Text) (marked : List (Char × Bool)) :
    (put suffix marked).length = marked.length + suffix.length * marked.countP Prod.snd := by
  induction marked with
  | nil => rfl
  | cons first marked ih =>
    obtain ⟨c, ends⟩ := first
    rw [put_cons, List.length_cons, List.length_append, ih, List.countP_cons]
    cases ends with
    | false => simp; omega
    | true => simp [Nat.mul_succ]; omega

theorem put_unmarked (suffix t : Text) : put suffix (t.map (·, false)) = t := by
  induction t with
  | nil => rfl
  | cons c t ih =>
    rw [List.map_cons, put_cons, ih]
    rfl

@[simp] theorem map_fst_unmarked (t : Text) : (t.map (·, false)).map Prod.fst = t := by
  rw [List.map_map]
  exact List.map_id t

theorem head?_put (suffix : Text) (marked : List (Char × Bool)) :
    (put suffix marked).head? = (marked.map Prod.fst).head? := by
  cases marked with
  | nil => rfl
  | cons first marked => rw [put_cons]; rfl

/-! ### Cutting the new text -/

/-- **Where the new text can be cut**: between two characters of the old one, or inside a suffix. -/
theorem cut_put {front here : Text} (cut : put suffix marked = front ++ here) :
    (∃ first second, marked = first ++ second ∧ front = put suffix first ∧
      here = put suffix second) ∨
    ∃ first c second start rest, marked = first ++ (c, true) :: second ∧ suffix = start ++ rest ∧
      rest ≠ [] ∧ front = put suffix first ++ c :: start ∧ here = rest ++ put suffix second := by
  induction marked generalizing front with
  | nil =>
    obtain ⟨rfl, rfl⟩ := List.nil_eq_append_iff.1 cut
    exact .inl ⟨[], [], rfl, rfl, rfl⟩
  | cons mark marked ih =>
    obtain ⟨c, ends⟩ := mark
    cases front with
    | nil => exact .inl ⟨[], (c, ends) :: marked, rfl, rfl, cut.symm⟩
    | cons d front =>
      rw [put_cons] at cut
      obtain ⟨rfl, behind⟩ := List.cons.inj cut
      rcases List.append_eq_append_iff.1 behind with ⟨later, rfl, more⟩ | ⟨rest, whole, rfl⟩
      · rcases ih more with ⟨first, second, rfl, rfl, rfl⟩ |
          ⟨first, e, second, start, rest, rfl, whole, inside, rfl, rfl⟩
        · exact .inl ⟨(c, ends) :: first, second, rfl, (put_cons ..).symm, rfl⟩
        · refine .inr ⟨(c, ends) :: first, e, second, start, rest, rfl, whole, inside, ?_, rfl⟩
          simp [put_cons]
      · by_cases inside : rest = []
        · subst inside
          rw [List.append_nil] at whole
          refine .inl ⟨[(c, ends)], marked, rfl, ?_, rfl⟩
          rw [put_cons, whole]
          simp [put]
        · cases ends with
          | false => exact absurd (List.append_eq_nil_iff.1 whole.symm).2 inside
          | true => exact .inr ⟨[], c, marked, front, rest, rfl, whole, inside, rfl, rfl⟩

/-- **A text without the mark at the beginning of the new text** stands at the beginning of the old
one, unmarked, when its last character is not marked anywhere. -/
theorem exists_unmarked_append {front rest : Text}
    (whole : put (mark :: body) marked = front ++ rest) (unmarked : mark ∉ front)
    (ends : ∀ c, front.getLast? = some c → (c, true) ∉ marked) :
    ∃ later, marked = front.map (·, false) ++ later ∧ rest = put (mark :: body) later := by
  induction front generalizing marked with
  | nil => exact ⟨marked, rfl, whole.symm⟩
  | cons c front ih =>
    cases marked with
    | nil => cases whole
    | cons first marked =>
      obtain ⟨d, here⟩ := first
      rw [put_cons] at whole
      obtain ⟨rfl, behind⟩ := List.cons.inj whole
      have plain : here = false := by
        cases here with
        | false => rfl
        | true =>
          cases front with
          | nil => exact absurd (List.mem_cons_self ..) (ends d rfl)
          | cons e front =>
            obtain ⟨rfl, -⟩ := List.cons.inj behind
            simp at unmarked
      subst plain
      have inside : ∀ c, front.getLast? = some c → (c, true) ∉ marked := by
        intro c last member
        refine ends c ?_ (List.mem_cons_of_mem _ member)
        rw [List.getLast?_cons, last]
        rfl
      obtain ⟨later, rfl, rest⟩ :=
        ih behind (fun member => unmarked (List.mem_cons_of_mem _ member)) inside
      exact ⟨later, rfl, rest⟩

/-! ### Erasing the suffix -/

/-- What a text without the mark can begin with, it can begin with before suffixes are put in. -/
theorem prefix_of_prefix_put (unmarked : mark ∉ body) {ends : Bool} {rest : Text}
    (begins : body <+: (if ends then mark :: rest else []) ++ put (mark :: rest) marked) :
    body <+: marked.map Prod.fst := by
  induction marked generalizing body ends with
  | nil =>
    cases body with
    | nil => exact List.nil_prefix
    | cons b body =>
      cases ends with
      | false => exact absurd begins.length_le (by simp [put])
      | true =>
        rw [if_pos rfl, List.cons_append, List.cons_prefix_cons] at begins
        exact absurd (begins.1 ▸ List.mem_cons_self ..) unmarked
  | cons first marked ih =>
    obtain ⟨c, here⟩ := first
    cases body with
    | nil => exact List.nil_prefix
    | cons b body =>
      cases ends with
      | false =>
        rw [if_neg (by decide), List.nil_append, put_cons, List.cons_prefix_cons] at begins
        rw [List.map_cons, List.cons_prefix_cons]
        exact ⟨begins.1, ih (fun member => unmarked (List.mem_cons_of_mem _ member)) begins.2⟩
      | true =>
        rw [if_pos rfl, List.cons_append, List.cons_prefix_cons] at begins
        exact absurd (begins.1 ▸ List.mem_cons_self ..) unmarked

theorem replaceFrom_length_append (pattern new front t : Text) :
    replaceFrom pattern new front.length (front ++ t) = replaceFrom pattern new 0 t := by
  induction front with
  | nil => rfl
  | cons c front ih => exact ih

/-- An occurrence at the beginning is erased. -/
theorem eraseAll_append (t : Text) : eraseAll (mark :: body) (mark :: body ++ t) =
    eraseAll (mark :: body) t := by
  have here : (mark :: body).isPrefixOf (mark :: body ++ t) = true :=
    List.isPrefixOf_iff_prefix.2 (List.prefix_append ..)
  unfold eraseAll replaceAll
  rw [List.cons_append] at here ⊢
  rw [replaceFrom, if_pos here, List.nil_append, List.length_cons, Nat.add_sub_cancel]
  exact replaceFrom_length_append ..

theorem eraseAll_cons {pattern rest : Text} {c : Char} (other : ¬ pattern <+: c :: rest) :
    eraseAll pattern (c :: rest) = c :: eraseAll pattern rest := by
  unfold eraseAll replaceAll
  rw [replaceFrom, if_neg (by rwa [List.isPrefixOf_iff_prefix])]

theorem eraseAll_of_absent {pattern t : Text} (absent : ¬ pattern <:+: t) :
    eraseAll pattern t = t := by
  induction t with
  | nil => rfl
  | cons c t ih =>
    rw [eraseAll_cons fun begins => absent begins.isInfix, ih]
    exact fun occurs => absent (occurs.trans (List.suffix_cons ..).isInfix)

/-- **Erasing the suffix gives the text back**, wherever the suffix was put. -/
theorem eraseAll_put (unmarked : mark ∉ body) (absent : ¬ mark :: body <:+: marked.map Prod.fst) :
    eraseAll (mark :: body) (put (mark :: body) marked) = marked.map Prod.fst := by
  induction marked with
  | nil => rfl
  | cons first marked ih =>
    obtain ⟨c, ends⟩ := first
    rw [List.map_cons] at absent ⊢
    have later : ¬ mark :: body <:+: marked.map Prod.fst := fun occurs =>
      absent (occurs.trans (List.suffix_cons ..).isInfix)
    have other : ¬ mark :: body <+:
        c :: ((if ends then mark :: body else []) ++ put (mark :: body) marked) := by
      intro begins
      obtain ⟨same, begins⟩ := List.cons_prefix_cons.1 begins
      have here := List.cons_prefix_cons.2 ⟨same, prefix_of_prefix_put unmarked begins⟩
      exact absent here.isInfix
    rw [put_cons, eraseAll_cons other]
    cases ends with
    | false => rw [if_neg (by decide), List.nil_append, ih later]
    | true => rw [if_pos rfl, eraseAll_append, ih later]

/-! ### Columns -/

/-- A column of the text moves right by every suffix that is put before it; a suffix that is put at
the column itself may count or not. -/
def CarriedColumn (suffix : Text) (marked : List (Char × Bool)) (column column' : Nat) : Prop :=
  column' = column + suffix.length * (marked.take column).countP Prod.snd ∨
    column' = column + suffix.length * (marked.take (column - 1)).countP Prod.snd

theorem take_put (sized : column ≤ marked.length) :
    (put suffix marked).take (column + suffix.length * (marked.take column).countP Prod.snd) =
      put suffix (marked.take column) := by
  have whole : put suffix marked = put suffix (marked.take column) ++ put suffix (marked.drop column) := by
    rw [← put_append, List.take_append_drop]
  have length : (put suffix (marked.take column)).length =
      column + suffix.length * (marked.take column).countP Prod.snd := by
    rw [length_put, List.length_take, Nat.min_eq_left sized]
  rw [whole, List.take_left' length]

/-- The characters before a carried column are those before the column, with suffixes. -/
theorem CarriedColumn.exists_take (carried : CarriedColumn suffix marked column column')
    (sized : column ≤ marked.length) : ∃ front, (put suffix marked).take column' = put suffix front ∧
      front.map Prod.fst = (marked.map Prod.fst).take column := by
  rcases carried with rfl | rfl
  · exact ⟨marked.take column, take_put sized, List.map_take ..⟩
  · cases column with
    | zero => exact ⟨[], by simp [put], rfl⟩
    | succ column =>
      -- The last character stays, and what was put behind it goes.
      obtain ⟨⟨c, ends⟩, rest, behind⟩ : ∃ last rest, marked.drop column = last :: rest :=
        List.exists_cons_of_ne_nil (by rw [Ne, List.drop_eq_nil_iff]; omega)
      obtain ⟨front, rfl, rfl⟩ : ∃ front, marked = front ++ (c, ends) :: rest ∧
          front.length = column :=
        ⟨marked.take column, by rw [← behind, List.take_append_drop],
          by rw [List.length_take, Nat.min_eq_left (by omega)]⟩
      refine ⟨front ++ [(c, false)], ?_, ?_⟩
      · rw [Nat.add_sub_cancel, List.take_left, Nat.add_right_comm, ← length_put, put_append, put_cons,
          put_append, List.take_length_add_append]
        rfl
      · have length : (front.map Prod.fst).length = front.length := List.length_map _
        rw [List.map_append, List.map_append, ← length, List.take_length_add_append]
        rfl

/-- **Erasing the suffix before a carried column** gives the characters before the column. -/
theorem eraseAll_take_put (unmarked : mark ∉ body)
    (absent : ¬ mark :: body <:+: marked.map Prod.fst) (sized : column ≤ marked.length)
    (carried : CarriedColumn (mark :: body) marked column column') :
    eraseAll (mark :: body) ((put (mark :: body) marked).take column') =
      (marked.map Prod.fst).take column := by
  obtain ⟨front, taken, chars⟩ := carried.exists_take sized
  rw [taken, eraseAll_put unmarked, chars]
  rw [chars]
  exact fun occurs => absent (occurs.trans (List.take_prefix ..).isInfix)

end Text
end ProofDesk
