import ProofDesk.Proofs.Source.Occurrence

/-!
# What comments and literals say

A placeholder does not depend on what stands in comments and in string literals. A character there that is
part of no delimiter and no escape may be exchanged for another such character: every other character
keeps its region, so the same placeholders are reported, and as many block comments are open behind every
line. Neither character is part of a placeholder.

* `Unseen` and `Conceals` — the characters that may be exchanged.
* `scanLine_remark` — what stands behind two hyphens is not read.
* `scanLine_unseen` — the scan of a line with such a character exchanged.
* `apart_of_mem_sorries` — no placeholder holds such a character.
* `placeholders_unseen` — the placeholders and the depths of a document with such a character exchanged.
-/

namespace ProofDesk
namespace Source

open Text (joinLines lines size)

variable {mode : Mode} {front rest w before behind code tail line line' : Text} {c c' : Char}
  {depth column n : Nat} {above below : List Text}

/-! ### The characters -/

/-- **A character strictly inside** a comment of either kind or a string literal. -/
def Unseen (region : Region) (c : Char) : Prop :=
  c.toNat < 128 ∧ c ≠ '\n' ∧
    ((region = .comment ∨ region = .remark) ∧ c ≠ '-' ∧ c ≠ '/' ∨
      region = .literal ∧ c ≠ '"' ∧ c ≠ '\\')

/-- **A character that no one reads, and another one for its place.** The line begins inside `depth` block
comments and has the first character between `front` and `rest`. -/
def Conceals (depth : Nat) (front : Text) (c c' : Char) (rest : Text) : Prop :=
  ∃ region, (marks (.atDepth depth) (front ++ c :: rest))[front.length]? = some (c, region) ∧
    Unseen region c ∧ Unseen region c'

theorem Unseen.ne_code {region : Region} (unseen : Unseen region c) : region ≠ .code := by
  rintro rfl
  rcases unseen.2.2 with ⟨comment | remark, -⟩ | ⟨literal, -⟩
  · cases comment
  · cases remark
  · cases literal

/-- Outside remarks, these are the hidden characters. -/
theorem Unseen.inner {region : Region} (unseen : Unseen region c) (other : region ≠ .remark) :
    Inner region c :=
  ⟨unseen.1, unseen.2.1, unseen.2.2.imp_left fun inside => ⟨inside.1.resolve_right other, inside.2⟩⟩

theorem Unseen.ne_hyphen (unseen : Unseen .remark c) : c ≠ '-' := by
  rcases unseen.2.2 with ⟨-, hyphen, -⟩ | ⟨literal, -⟩
  · exact hyphen
  · cases literal

theorem Conceals.cases (conceals : Conceals depth front c c' rest) :
    Hides depth front c c' rest ∨ c ≠ '-' ∧
      (marks (.atDepth depth) (front ++ c :: rest))[front.length]? = some (c, .remark) := by
  obtain ⟨region, marked, unseen, unseen'⟩ := conceals
  by_cases remark : region = .remark
  · subst remark
    exact .inr ⟨unseen.ne_hyphen, marked⟩
  · exact .inl ⟨region, marked, unseen.inner remark, unseen'.inner remark⟩

/-! ### Remarks -/

/-- **What stands behind two hyphens is not read.** -/
theorem scanLine_remark (coded : (Mode.atDepth depth).through code ('-' :: '-' :: tail) = .code) :
    (scanLine depth (code ++ '-' :: '-' :: tail)).sorries =
        placeholderColumns none 0 (marksBefore (.atDepth depth) code ['-', '-']) ∧
      (scanLine depth (code ++ '-' :: '-' :: tail)).depth = 0 := by
  have silent : ∀ mark ∈ ('-' :: '-' :: tail).map (·, Region.remark), mark.2 ≠ .code := by
    intro mark member
    obtain ⟨c, -, rfl⟩ := List.mem_map.1 member
    nofun
  have bound : bounds ((('-' :: '-' :: tail).map (·, Region.remark)).map Prod.fst).head? = true := by
    rw [List.map_cons, List.map_cons, List.head?_cons]
    decide
  have alike : marksBefore (.atDepth depth) code ('-' :: '-' :: tail) =
      marksBefore (.atDepth depth) code ['-', '-'] := by
    apply marksBefore_of_head?
    rfl
  constructor
  · show placeholderColumns none 0 (marks _ (code ++ '-' :: '-' :: tail)) = _
    rw [marks_append, coded, marks_hyphens, placeholderColumns_append (.inr bound),
      placeholderColumns_eq_nil silent, List.append_nil, alike]
  · show (Mode.after _ (code ++ '-' :: '-' :: tail)).depth = 0
    rw [after_append, coded]
    show (Mode.remark.after ('-' :: tail)).depth = 0
    rw [after_remark]
    rfl

/-- **A character of a remark** that is no hyphen stands behind two of them, which stand in code. -/
theorem exists_hyphens (hyphen : c ≠ '-')
    (marked : (marks (.atDepth depth) (front ++ c :: rest))[front.length]? = some (c, .remark)) :
    ∃ code more, front = code ++ '-' :: '-' :: more ∧
      (Mode.atDepth depth).through code ('-' :: '-' :: (more ++ c :: rest)) = .code := by
  obtain ⟨remark, whole, visible, begins⟩ := codeSplit_scanLine depth (front ++ c :: rest)
  generalize (scanLine depth (front ++ c :: rest)).code = code at whole visible begins
  rcases List.append_eq_append_iff.1 whole with ⟨gap, rfl, cut⟩ | ⟨gap, rfl, cut⟩
  · cases gap with
    | nil =>
      rcases begins with rfl | ⟨⟨tail, rfl⟩, -⟩
      · cases cut
      · exact absurd (List.cons.inj cut).1 hyphen
    | cons d gap =>
      -- The character would stand in front of the remark.
      obtain ⟨rfl, rfl⟩ := List.cons.inj cut
      have length : (marksBefore (.atDepth depth) (front ++ c :: gap) remark).length =
          (front ++ c :: gap).length := by
        rw [← List.length_map (f := Prod.fst), map_fst_marksBefore]
      have inside : front.length < (front ++ c :: gap).length := by simp
      rw [whole, marks_append, List.getElem?_append_left (length ▸ inside)] at marked
      exact absurd rfl (visible _ (List.mem_of_getElem? marked))
  · rcases begins with rfl | ⟨⟨tail, rfl⟩, coded⟩
    · simp at cut
    · rcases gap with _ | ⟨x, _ | ⟨y, more⟩⟩
      · exact absurd (List.cons.inj cut).1.symm hyphen
      · exact absurd (List.cons.inj (List.cons.inj cut).2).1.symm hyphen
      · obtain ⟨rfl, behind⟩ := List.cons.inj cut
        obtain ⟨rfl, rfl⟩ := List.cons.inj behind
        exact ⟨code, more, rfl, coded⟩

/-! ### One line -/

/-- **The scan of a line with an unseen character exchanged** reports the same placeholders and the same
depth. -/
theorem scanLine_unseen (conceals : Conceals depth front c c' rest) :
    (scanLine depth (front ++ c' :: rest)).sorries = (scanLine depth (front ++ c :: rest)).sorries ∧
      (scanLine depth (front ++ c' :: rest)).depth = (scanLine depth (front ++ c :: rest)).depth := by
  rcases conceals.cases with hides | ⟨hyphen, marked⟩
  · obtain ⟨behind, exchanged, -⟩ := scanLine_exchange hides
    exact ⟨exchanged.sorries, exchanged.depth⟩
  · obtain ⟨code, more, rfl, coded⟩ := exists_hyphens hyphen marked
    have coded' : (Mode.atDepth depth).through code ('-' :: '-' :: (more ++ c' :: rest)) = .code := by
      rw [← coded]
      apply through_congr
      rfl
    obtain ⟨sorries, ends⟩ := scanLine_remark coded
    obtain ⟨sorries', ends'⟩ := scanLine_remark coded'
    rw [List.append_assoc, List.append_assoc]
    exact ⟨sorries'.trans sorries.symm, ends'.trans ends.symm⟩

/-- Plain text in code is code character by character. -/
theorem getElem?_marks_plain (plain : Plain w) (coded : mode.through before (w ++ behind) = .code)
    {k : Nat} (inside : k < w.length) :
    (marks mode (before ++ (w ++ behind)))[before.length + k]? = some (w[k], .code) := by
  have length : (marksBefore mode before (w ++ behind)).length = before.length := by
    rw [← List.length_map (f := Prod.fst), map_fst_marksBefore]
  rw [marks_plain plain coded, ← length, List.getElem?_append_right (Nat.le_add_right ..),
    Nat.add_sub_cancel_left, List.getElem?_append_left (by simpa using inside), List.getElem?_map,
    List.getElem?_eq_getElem inside]
  rfl

/-- **No placeholder holds an unseen character**: it ends in front of it, or begins behind it. -/
theorem apart_of_mem_sorries (conceals : Conceals depth front c c' rest)
    (member : column ∈ (scanLine depth (front ++ c :: rest)).sorries) :
    size front < column ∨ column + size sorryWord ≤ size front := by
  obtain ⟨region, marked, unseen, -⟩ := conceals
  obtain ⟨before, behind, ⟨whole, -, -⟩, coded, rfl⟩ := mem_sorries_iff.1 member
  have outside : ∀ k < sorryWord.length, front.length ≠ before.length + k := by
    intro k inside place
    rw [whole, place, getElem?_marks_plain plain_sorryWord coded inside] at marked
    exact unseen.ne_code (congrArg Prod.snd (Option.some.inj marked)).symm
  rcases List.append_eq_append_iff.1 whole with ⟨gap, rfl, cut⟩ | ⟨gap, rfl, cut⟩
  · cases gap with
    | nil => exact absurd (by simp) (outside 0 (by decide))
    | cons d gap =>
      have wide := d.utf8Size_pos
      rw [Text.size_append, Text.size_cons]
      omega
  · rw [Text.size_append]
    rcases List.append_eq_append_iff.1 cut with ⟨more, rfl, -⟩ | ⟨more, same, -⟩
    · rw [Text.size_append]
      omega
    · cases more with
      | nil =>
        rw [same, List.append_nil]
        exact .inr (Nat.le_refl _)
      | cons d more =>
        have short : gap.length < sorryWord.length := by simp [same]
        exact absurd (List.length_append ..) (outside gap.length short)

/-! ### The document -/

/-- **A line that reports the same placeholders and the same depth** leaves all places as they are. -/
theorem placesFrom_line_congr
    (sorries : (scanLine (depthAfter depth above) line').sorries =
      (scanLine (depthAfter depth above) line).sorries)
    (ends : (scanLine (depthAfter depth above) line').depth =
      (scanLine (depthAfter depth above) line).depth) (n : Nat) :
    placesFrom depth n (above ++ line' :: below) = placesFrom depth n (above ++ line :: below) := by
  rw [placesFrom_append, placesFrom_append, placesFrom, placesFrom, sorries, ends]

theorem depthAfter_line_congr (ends : (scanLine (depthAfter depth above) line').depth =
      (scanLine (depthAfter depth above) line).depth) (k : Nat) :
    depthAfter depth ((above ++ line' :: below).take k) =
      depthAfter depth ((above ++ line :: below).take k) := by
  rw [List.take_append, List.take_append, depthAfter_append, depthAfter_append]
  cases reach : k - above.length with
  | zero => rfl
  | succ j =>
    have whole : above.take k = above := List.take_of_length_le (by omega)
    rw [whole, List.take_succ_cons, List.take_succ_cons, depthAfter, depthAfter, ends]

/-- **Placeholders do not depend on what comments and string literals say.** When a character strictly
inside one of them is exchanged for another one that may stand there, the same places are reported, and as
many block comments are open behind every line; and no placeholder holds the character. -/
theorem placeholders_unseen (document : Text) (n : Nat) (front : Text) (c c' : Char) (rest : Text)
    (found : (lines document)[n]? = some (front ++ c :: rest))
    (conceals : Conceals (depthAfter 0 ((lines document).take n)) front c c' rest) :
    let changed := joinLines ((lines document).set n (front ++ c' :: rest))
    placeholders changed = placeholders document ∧
      (∀ k, depthAfter 0 ((lines changed).take k) = depthAfter 0 ((lines document).take k)) ∧
      ∀ place ∈ placeholders document, place.line = n →
        size front < place.column ∨ place.column + size sorryWord ≤ size front := by
  intro changed
  have single : '\n' ∉ front ++ c' :: rest := by
    have old := Text.not_mem_of_mem_lines (List.mem_of_getElem? found)
    obtain ⟨region, -, -, -, other, -⟩ := conceals
    simp only [List.mem_append, List.mem_cons, not_or] at old ⊢
    exact ⟨old.1, other.symm, old.2.2⟩
  obtain ⟨short, here⟩ := List.getElem?_eq_some_iff.1 found
  have old : lines document = (lines document).take n ++
      (front ++ c :: rest) :: (lines document).drop (n + 1) := by
    rw [← here, List.getElem_cons_drop, List.take_append_drop]
  have new : lines changed = (lines document).take n ++
      (front ++ c' :: rest) :: (lines document).drop (n + 1) := by
    have own : lines (front ++ c' :: rest) = [front ++ c' :: rest] := Text.splitOn_eq_singleton single
    rw [Text.lines_set short, own]
    rfl
  obtain ⟨sorries, ends⟩ := scanLine_unseen conceals
  refine ⟨?_, fun k => ?_, ?_⟩
  · rw [placeholders_eq_placesFrom, placeholders_eq_placesFrom, new]
    exact (placesFrom_line_congr sorries ends 0).trans (congrArg _ old.symm)
  · rw [new]
    exact (depthAfter_line_congr ends k).trans (congrArg (depthAfter 0 <| List.take k ·) old.symm)
  · rintro place listed rfl
    exact apart_of_mem_sorries conceals (mem_sorries_of_mem_placeholders listed found)

/-- A remark that comes to hold the word, above a placeholder. -/
theorem placeholders_unseen_remark :
    let document := Text.joinLines ["theorem t : True := by -- not sorrx", "  sorry"]
    let front : Text := "theorem t : True := by -- not sorr"
    (lines document)[0]? = some (front ++ ['x']) ∧ Conceals 0 front 'x' 'y' [] ∧
      placeholders (joinLines ((lines document).set 0 (front ++ ['y']))) = [⟨1, 2⟩] := by
  intro document front
  have found : (lines document)[0]? = some (front ++ ['x']) := by decide +kernel
  have conceals : Conceals 0 front 'x' 'y' [] :=
    ⟨.remark, by decide +kernel, ⟨by decide, by decide, .inl ⟨.inr rfl, by decide⟩⟩, by decide, by decide,
      .inl ⟨.inr rfl, by decide⟩⟩
  refine ⟨found, conceals, ?_⟩
  rw [(placeholders_unseen document 0 front 'x' 'y' [] found conceals).1]
  decide +kernel

end Source
end ProofDesk
