import ProofDesk.Proofs.Clause.Origin
import ProofDesk.Proofs.Clause.Reading
import ProofDesk.Proofs.Source.Mode

/-!
# What introduces a clause

The text behind `:= by`, the proof of a `have` line and the text behind `by` are introduced by the code
in front of them, which may introduce other text as well.

* `Holds` — a line whose code is the introduction and other text, without a placeholder in it.
* `Introduces` — every such line holds one clause, with the same id and category.
* `introOf?` — the introduction that a code has for a category; `introOf?_append` says that it does not
  depend on what stands behind it.
* `exists_introduction` — every clause of these categories stands behind code that introduces it.
-/

namespace ProofDesk
namespace Clause

open Source (Stops byWord scanLine tacticSign)
open Text (after?_eq_some allBlank isBlank isWordChar size)

/-- The categories of clauses that are introduced by code in front of them on their line. -/
def IsIntroduced (category : Category) : Prop :=
  category = .haveProof ∨ category = .mainProof ∨ category = .tacticBlock

/-- **The code of the line is the introduction and other text**, which is not blank, has no
placeholder, and does not go on the word `by` of a `have` line. -/
structure Holds (stage : Stage) (category : Category) (intro rest line : Text) : Prop where
  code : (scanLine stage.depth line).code = intro ++ rest
  hasCode : (scanLine stage.depth line).hasCode = true
  solid : allBlank rest = false
  apart : category = .haveProof → Stops isWordChar rest
  complete : ∀ column ∈ (scanLine stage.depth line).sorries, column < size intro

/-- **Code that introduces a clause**: whatever stands behind it is the one clause of its line. -/
structure Introduces (stage : Stage) (n : Nat) (id : Text) (category : Category) (intro : Text) :
    Prop where
  ends : intro.getLast? = some 'y' ∨ category = .tacticBlock ∧ intro.getLast? = some ' '
  reads : ∀ rest line, Holds stage category intro rest line → stage.clausesOf n line =
    [place id category n (trimmedAt (size intro) rest).1 (trimmedAt (size intro) rest).2]

variable {stage : Stage} {context : Context} {n : Nat} {line code before rest : Text}

theorem trim_ne_nil (solid : allBlank rest = false) : Text.trim rest ≠ [] := by
  obtain ⟨c, member, visible⟩ := List.all_eq_false.1 solid
  obtain ⟨front, tail, rfl⟩ := List.append_of_mem member
  rw [Text.trim_append_cons (by simpa using visible)]
  simp

/-! ### The introduction in a code -/

/-- The front part of a code that introduces a clause of the category. -/
def introOf? (category : Category) (code : Text) : Option Text :=
  match category with
  | .mainProof => (Text.breakOn? tacticSign code).map fun cut => cut.1 ++ tacticSign
  | .haveProof => (HaveLine.ofCode? code).map fun fact => code.take (code.length - fact.proof.length)
  | .tacticBlock => some (Text.indentation code ++ (byWord ++ [' ']))
  | .placeholder | .tactic | .proofLine => none

theorem introOf?_mainProof (found : Text.breakOn? tacticSign code = some (before, rest)) :
    introOf? .mainProof code = some (before ++ tacticSign) := by
  rw [introOf?, found]
  rfl

theorem introOf?_haveProof {name intro : Text}
    (found : HaveLine.ofCode? (intro ++ rest) = some ⟨name, rest⟩) :
    introOf? .haveProof (intro ++ rest) = some intro := by
  rw [introOf?, found, Option.map_some, List.length_append, Nat.add_sub_cancel, List.take_left]

theorem indentation_append {indent : Text} (blank : allBlank indent = true) (rest : Text) :
    Text.indentation (indent ++ (byWord ++ [' ']) ++ rest) = indent := by
  rw [List.append_assoc]
  exact Source.takeWhile_append (List.all_eq_true.1 blank) fun c first => by cases first; rfl

/-- The introduction of the proof of a `have` line. -/
theorem exists_assign_of_introOf? {intro rest : Text}
    (known : introOf? .haveProof (intro ++ rest) = some intro) :
    ∃ head : HaveHead, ∃ typed gap, intro = head.assign typed gap ∧ firstProof? typed = none ∧
      allBlank gap = true ∧ Stops isWordChar rest := by
  obtain ⟨fact, found, same⟩ := Option.map_eq_some_iff.1 known
  obtain ⟨head, typed, gap, -, whole, none, blank, stops⟩ := HaveHead.exists_assign_of_ofCode? found
  rw [whole, List.length_append, Nat.add_sub_cancel, List.take_left] at same
  rw [same] at whole
  rw [List.append_cancel_left whole]
  exact ⟨head, typed, gap, same.symm, none, blank, stops⟩

/-- What stands behind an introduction does not matter. -/
theorem introOf?_append {category : Category} {intro rest rest' : Text}
    (known : introOf? category (intro ++ rest) = some intro)
    (apart : category = .haveProof → Stops isWordChar rest') :
    introOf? category (intro ++ rest') = some intro := by
  cases category with
  | mainProof =>
    obtain ⟨⟨before, behind⟩, found, same⟩ := Option.map_eq_some_iff.1 known
    dsimp only at same
    obtain rfl : rest = behind := by
      have whole := Text.eq_of_breakOn? found
      rw [same] at whole
      exact List.append_cancel_left whole
    subst same
    exact introOf?_mainProof (Text.breakOn?_append found rest')
  | haveProof =>
    obtain ⟨head, typed, gap, rfl, none, blank, -⟩ := exists_assign_of_introOf? known
    exact introOf?_haveProof (head.ofCode?_assign none blank (apart rfl))
  | tacticBlock =>
    have same : Text.indentation (intro ++ rest) ++ (byWord ++ [' ']) = intro := Option.some.inj known
    have blank : allBlank (Text.indentation (intro ++ rest)) = true := List.all_takeWhile
    generalize Text.indentation (intro ++ rest) = indent at same blank
    subst same
    rw [introOf?, indentation_append blank]
  | placeholder => cases known
  | tactic => cases known
  | proofLine => cases known

/-! ### Behind the sign of a tactic proof -/

/-- What stands behind a colon does not take a line out of a header. -/
theorem enter_eq_header_congr {rest' : Text}
    (entered : context.enter (before ++ ':' :: rest) = .header) :
    context.enter (before ++ ':' :: rest') = .header := by
  have starts : startsDeclaration (Text.trim (before ++ ':' :: rest')) =
      startsDeclaration (Text.trim (before ++ ':' :: rest)) := by
    rw [Text.trim_append_cons (by decide), Text.trim_append_cons (by decide)]
    exact startsDeclaration_congr ..
  unfold Context.enter at entered ⊢
  dsimp only at entered ⊢
  rw [starts]
  split at entered
  · next declares => rw [if_pos declares]
  · next other =>
    split at entered
    · cases entered
    · rw [if_neg other, entered, if_neg]
      rintro ⟨wrong, -⟩
      cases wrong

theorem introduces_mainProof (entered : stage.context.enter code = .header)
    (found : Text.breakOn? tacticSign code = some (before, rest)) :
    Introduces stage n (numberedId .mainProof stage.taken.length) .mainProof
      (before ++ tacticSign) where
  ends := .inl (by rw [List.getLast?_append]; rfl)
  reads := by
    intro rest' line holds
    obtain rfl := Text.eq_of_breakOn? found
    have header : stage.context.enter (before ++ tacticSign ++ rest') = .header := by
      have shape : ∀ rest : Text, before ++ tacticSign ++ rest =
          before ++ ':' :: (tacticSign.drop 1 ++ rest) := fun rest => List.append_assoc ..
      rw [shape] at entered ⊢
      exact enter_eq_header_congr entered
    have complete : (scanLine stage.depth line).sorries.filter
        (size before + size tacticSign ≤ ·) = [] := by
      rw [List.filter_eq_nil_iff]
      intro column member
      have early := holds.complete column member
      rw [Text.size_append] at early
      simpa using early
    have solid : (trimmedAt (size before + size tacticSign) rest').2 ≠ [] := by
      rw [trimmedAt, if_neg (by simp [holds.solid])]
      exact trim_ne_nil holds.solid
    unfold Stage.clausesOf lineClauses
    rw [if_pos holds.hasCode, holds.code, header]
    show (headerClauses _ _ _).2 = _
    unfold headerClauses
    rw [holds.code, Text.breakOn?_append found]
    dsimp only
    rw [if_pos complete, if_neg solid, Text.size_append]

/-! ### Behind the words of a proof -/

/-- The clauses of a line that begins with a proof word, in a proof. -/
theorem clausesOf_of_proofWord {word : Text} {b : Char} (known : IsProofWord word)
    (blank : isBlank b = true)
    (stripped : Text.trim (scanLine stage.depth line).code = word ++ b :: rest)
    (inProof : stage.context = .proof) (hasCode : (scanLine stage.depth line).hasCode = true) :
    stage.clausesOf n line = proofClauses stage.taken n line (scanLine stage.depth line) := by
  unfold Stage.clausesOf lineClauses
  rw [if_pos hasCode, enter_of_proofWord known blank stripped, inProof]

theorem introduces_haveProof {fact : HaveLine} (entered : stage.context.enter code = .proof)
    (found : HaveLine.ofCode? code = some fact) :
    ∃ intro, code = intro ++ fact.proof ∧ introOf? .haveProof code = some intro ∧
      Introduces stage n (freshId ("have_" ++ fact.name) stage.taken) .haveProof intro := by
  obtain ⟨head, typed, gap, name, rfl, none, blank, -⟩ := HaveHead.exists_assign_of_ofCode? found
  have starts : ∀ rest, ∃ b tail, isBlank b = true ∧
      Text.trim (head.assign typed gap ++ rest) = "have".toList ++ b :: tail := by
    intro rest
    rw [head.assign_append]
    exact head.trim_before _
  obtain ⟨b, tail, white, stripped⟩ := starts fact.proof
  have inProof : stage.context = .proof :=
    (enter_of_proofWord (.inl rfl) white stripped _).symm.trans entered
  refine ⟨_, rfl, introOf?_haveProof found, .inl (head.getLast?_assign typed gap), ?_⟩
  intro rest line holds
  obtain ⟨b, tail, white, stripped⟩ := starts rest
  have proof : HaveLine.ofCode? (scanLine stage.depth line).code = some ⟨fact.name, rest⟩ := by
    rw [holds.code, head.ofCode?_assign none blank (holds.apart rfl), name]
  have column : size (scanLine stage.depth line).code - size rest =
      size (head.assign typed gap) := by
    rw [holds.code, Text.size_append, Nat.add_sub_cancel]
  rw [clausesOf_of_proofWord (.inl rfl) white (by rw [holds.code, stripped]) inProof holds.hasCode]
  unfold proofClauses
  dsimp only
  rw [proof]
  dsimp only
  rw [column]

/-- No placeholder begins in blanks or in the word `by`. -/
theorem sorries_eq_nil {indent : Text} (blank : allBlank indent = true)
    (code : (scanLine stage.depth line).code = indent ++ (byWord ++ [' ']) ++ rest)
    (complete : ∀ column ∈ (scanLine stage.depth line).sorries,
      column < size (indent ++ (byWord ++ [' ']))) :
    (scanLine stage.depth line).sorries = [] := by
  rw [List.eq_nil_iff_forall_not_mem]
  intro column member
  have early := complete column member
  obtain ⟨front, behind, whole, rfl⟩ := Source.exists_code_of_mem_sorries member
  rw [code, List.append_assoc front] at whole
  have letter : 's' ∉ indent ++ (byWord ++ [' ']) := by
    rw [List.mem_append, not_or]
    refine ⟨fun inside => ?_, by decide⟩
    exact absurd (List.all_eq_true.1 blank 's' inside) (by decide)
  rcases List.append_eq_append_iff.1 whole with ⟨gap, rfl, -⟩ | ⟨gap, same, reaches⟩
  · rw [Text.size_append] at early
    omega
  · cases gap with
    | nil =>
      rw [same, List.append_nil] at early
      omega
    | cons c gap =>
      obtain ⟨rfl, -⟩ := List.cons.inj reaches
      rw [same] at letter
      simp at letter

theorem introduces_tacticBlock {inside : Text} (entered : stage.context.enter code = .proof)
    (found : Text.after? (byWord ++ [' ']) (Text.trim code) = some inside) :
    Introduces stage n (numberedId .tacticBlock stage.taken.length) .tacticBlock
      (Text.indentation code ++ (byWord ++ [' '])) where
  ends := .inr ⟨rfl, by rw [List.getLast?_append]; rfl⟩
  reads := by
    intro rest line holds
    have inProof : stage.context = .proof := by
      have stripped : Text.trim code = byWord ++ ' ' :: inside :=
        (after?_eq_some.1 found).trans (List.append_assoc ..)
      exact (enter_of_proofWord (.inr rfl) (by decide) stripped _).symm.trans entered
    have blank : allBlank (Text.indentation code) = true := List.all_takeWhile
    have column : size (Text.indentation code ++ (byWord ++ [' '])) =
        size (Text.indentation code) + 3 := Text.size_append ..
    generalize Text.indentation code = indent at holds blank column ⊢
    have start : Text.trimStart (indent ++ (byWord ++ [' ']) ++ rest) = byWord ++ ' ' :: rest := by
      rw [List.append_assoc, Text.trimStart_append blank]
      rfl
    have stripped : ∃ tail, Text.trim (indent ++ (byWord ++ [' ']) ++ rest) =
        byWord ++ ' ' :: tail := by
      obtain ⟨c, member, visible⟩ := List.all_eq_false.1 holds.solid
      obtain ⟨front, tail, rfl⟩ := List.append_of_mem member
      rw [Text.trim, start, ← List.cons_append, ← List.append_assoc,
        Text.trimEnd_append_cons (by simpa using visible)]
      exact ⟨_, List.append_assoc ..⟩
    have noFact : HaveLine.ofCode? (indent ++ (byWord ++ [' ']) ++ rest) = none := by
      unfold HaveLine.ofCode?
      rw [start]
      rfl
    obtain ⟨tail, stripped⟩ := stripped
    have white : isBlank ' ' = true := by decide
    rw [clausesOf_of_proofWord (.inr rfl) white (by rw [holds.code, stripped]) inProof holds.hasCode]
    unfold proofClauses
    dsimp only
    rw [sorries_eq_nil blank holds.code holds.complete, holds.code, noFact]
    dsimp only
    rw [if_pos rfl, stripped, after?_eq_some.2 (show byWord ++ ' ' :: tail = _ ++ tail from rfl)]
    dsimp only
    rw [start, indentation_append blank, column]
    rfl

/-! ### Every introduced clause -/

/-- **Every clause of these categories stands behind code that introduces it.** -/
theorem exists_introduction {clause : Clause} (member : clause ∈ stage.clausesOf n line)
    (kind : IsIntroduced clause.category) :
    ∃ intro rest, (scanLine stage.depth line).code = intro ++ rest ∧
      clause = place clause.id clause.category n (trimmedAt (size intro) rest).1
        (trimmedAt (size intro) rest).2 ∧
      introOf? clause.category (scanLine stage.depth line).code = some intro ∧
      Introduces stage n clause.id clause.category intro := by
  cases origin_of_mem member with
  | @mainProof before rest entered opens solid =>
    refine ⟨before ++ tacticSign, rest, Text.eq_of_breakOn? opens, ?_, introOf?_mainProof opens,
      introduces_mainProof entered opens⟩
    rw [Text.size_append]
    rfl
  | @haveProof fact entered found =>
    obtain ⟨intro, whole, known, introduces⟩ := introduces_haveProof (n := n) entered found
    refine ⟨intro, fact.proof, whole, ?_, known, introduces⟩
    rw [whole, Text.size_append, Nat.add_sub_cancel]
    rfl
  | tacticBlock entered found =>
    refine ⟨_, _, eq_append_of_afterBy found, ?_, rfl, introduces_tacticBlock entered found⟩
    have column : size (Text.indentation (scanLine stage.depth line).code ++ (byWord ++ [' '])) =
        size (Text.indentation (scanLine stage.depth line).code) + 3 := Text.size_append ..
    rw [column]
    rfl
  | placeholder k reported => rcases kind with same | same | same <;> cases same
  | line whole entered =>
    rcases whole with rfl | rfl <;> rcases kind with same | same | same <;> cases same

end Clause
end ProofDesk
