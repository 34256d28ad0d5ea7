import ProofDesk.Session.Basic
import ProofDesk.Proofs.Session.Declared
import ProofDesk.Proofs.Source.Layout

/-!
# Which uses of a name get the suffix

The search goes through the document from left to right, takes the longest declared name that stands
at a place and goes on behind it. So a declared name that stands alone is missed only where a declared
name that is no identifier stands across it. A dot is a character of names: a name with a dot behind
it does not stand alone, and gets no suffix.

* `find?_searchOrder_eq_some` — the name that is found is the longest one that stands there.
* `Suffixed` — the suffix goes behind a part of the document.
* `bounds_of_suffixed` — no character of names stands behind what gets the suffix.
* `suffixed_of_alone` — a name that stands alone gets the suffix.
* `suffixed_use_iff` — which uses get the suffix; `not_suffixed_projection` shows one that does not.
-/

namespace ProofDesk
namespace Renaming

open Source (bounds declaredNames)
open Text (isIdentChar put)

variable {names : List Text} {document front name behind rest t : Text} {before : Option Char}
  {skip : Nat} {alone : Bool}

/-! ### The longest name -/

/-- **The longest name that stands at a place** is found there. -/
theorem find?_searchOrder_eq_some :
    ((searchOrder t).find? fun other => other.isPrefixOf rest) = some name ↔
      name ∈ searchOrder t ∧ name <+: rest ∧
        ∀ other ∈ searchOrder t, other <+: rest → other.length ≤ name.length := by
  have longest : ∀ {found}, ((searchOrder t).find? fun other => other.isPrefixOf rest) = some found →
      ∀ other ∈ searchOrder t, other <+: rest → other.length ≤ found.length := by
    intro found known other member begins
    obtain ⟨here, first, second, whole, missed⟩ := List.find?_eq_some_iff_append.1 known
    rw [List.isPrefixOf_iff_prefix] at here
    have ordered := pairwise_searchOrder t
    rw [whole] at member ordered
    rcases List.mem_append.1 member with earlier | later
    · have passed := missed other earlier
      rw [List.isPrefixOf_iff_prefix.2 begins] at passed
      cases passed
    rcases List.mem_cons.1 later with rfl | later
    · exact Nat.le_refl _
    -- A name that is not longer in bytes is not longer in characters, as both begin the same text.
    refine Nat.le_of_not_lt fun longer => ?_
    obtain ⟨more, rfl⟩ := List.prefix_of_prefix_length_le here begins (Nat.le_of_lt longer)
    have sizes := longerFirst_iff.1
      ((List.pairwise_cons.1 (List.pairwise_append.1 ordered).2.1).1 _ later)
    rw [Text.size_append] at sizes
    have empty : more = [] := Text.size_eq_zero.1 (by omega)
    simp [empty] at longer
  constructor
  · intro known
    have begins := List.find?_some known
    rw [List.isPrefixOf_iff_prefix] at begins
    exact ⟨List.mem_of_find?_eq_some known, begins, longest known⟩
  · rintro ⟨member, begins, bound⟩
    cases known : (searchOrder t).find? fun other => other.isPrefixOf rest with
    | none =>
      have missing := List.find?_eq_none.1 known name member
      exact absurd (List.isPrefixOf_iff_prefix.2 begins) missing
    | some found =>
      have here := List.find?_some known
      rw [List.isPrefixOf_iff_prefix] at here
      have same : found.length = name.length := Nat.le_antisymm
        (bound found (List.mem_of_find?_eq_some known) here) (longest known name member begins)
      exact congrArg some (List.prefix_of_prefix_length_le here begins (by omega)
        |>.eq_of_length same)

/-! ### Marks -/

/-- The marks behind a name that is known already, whose last character is `last`. -/
theorem marksFrom_append_cons_of_skip (before : Option Char) (alone : Bool) (front : Text)
    (last : Char) (rest : Text) :
    marksFrom names before (front.length + 1) alone (front ++ last :: rest) =
      front.map (·, false) ++ (last, alone) :: marksFrom names (some last) 0 alone rest := by
  induction front generalizing before with
  | nil => simp [marksFrom]
  | cons c front ih =>
    rw [List.cons_append, List.length_cons, marksFrom, ih]
    simp

/-- The suffix goes behind `part`, with which the document begins, and in front of `behind`. -/
def Suffixed (document part behind : Text) : Prop :=
  ∃ first last second, marks (searchOrder document) document = first ++ (last, true) :: second ∧
    first.map Prod.fst ++ [last] = part ∧ second.map Prod.fst = behind

theorem bounds_of_marksFrom (solid : ∀ name ∈ names, name ≠ []) {first second : List (Char × Bool)}
    {last : Char} (known : skip ≠ 0 → alone = true → bounds (t.drop skip).head? = true)
    (marked : marksFrom names before skip alone t = first ++ (last, true) :: second) :
    bounds (second.map Prod.fst).head? = true := by
  induction t generalizing before skip alone first with
  | nil =>
    have none : marksFrom names before skip alone [] = [] := by cases skip <;> rfl
    rw [none] at marked
    cases (List.append_eq_nil_iff.1 marked.symm).2
  | cons c t ih =>
    -- One character of a name with `more` characters left, or of no name at all.
    have step : ∀ {alone more}, (alone = true → bounds (t.drop more).head? = true) →
        (c, alone && more == 0) :: marksFrom names (some c) more alone t =
          first ++ (last, true) :: second → bounds (second.map Prod.fst).head? = true := by
      intro alone more known marked
      cases first with
      | nil =>
        obtain ⟨here, rfl⟩ := List.cons.inj marked
        simp only [Prod.mk.injEq, Bool.and_eq_true, beq_iff_eq] at here
        obtain ⟨rfl, rfl, rfl⟩ := here
        rw [map_fst_marksFrom]
        exact known rfl
      | cons mark first => exact ih (fun _ => known) (List.cons.inj marked).2
    cases skip with
    | succ skip => exact step (known (Nat.succ_ne_zero _)) marked
    | zero =>
      cases search : names.find? fun name => name.isPrefixOf (c :: t) with
      | none =>
        rw [marksFrom_of_unknown search] at marked
        have unnamed : false = true → bounds (t.drop 0).head? = true := nofun
        exact step unnamed marked
      | some found =>
        obtain ⟨others, behind, rfl, rfl⟩ := exists_of_found solid search
        rw [marksFrom_of_found search rfl] at marked
        refine step (fun both => ?_) marked
        rw [List.drop_left]
        exact (Bool.and_eq_true_iff.1 both).2

theorem solid_searchOrder (document : Text) : ∀ name ∈ searchOrder document, name ≠ [] :=
  fun _ member => (solid_of_mem_searchOrder member).1

/-- **No character of names stands behind what gets the suffix.** -/
theorem bounds_of_suffixed {part : Text} (suffixed : Suffixed document part behind) :
    bounds behind.head? = true := by
  obtain ⟨first, last, second, marked, -, rfl⟩ := suffixed
  exact bounds_of_marksFrom (solid_searchOrder document) (fun skipped => absurd rfl skipped) marked

/-! ### Names that stand alone -/

/-- Every declared name that stands across the end of `front` and what comes next is an identifier. -/
def Clear (document front : Text) : Prop :=
  ∀ other ∈ declaredNames document, ∀ start after, document = start ++ (other ++ after) →
    start.length ≤ front.length → front.length < start.length + other.length →
      ∀ c ∈ other, isIdentChar c = true

/-- **Where only identifiers are declared**, no place is in the way of a name. -/
theorem clear_of_identifiers
    (identifiers : ∀ other ∈ declaredNames document, ∀ c ∈ other, isIdentChar c = true)
    (front : Text) : Clear document front :=
  fun other member _ _ _ _ _ => identifiers other member

theorem isIdentChar_eq_false_of_bounds {c : Char} (free : bounds (some c) = true) :
    isIdentChar c = false := by
  simpa [bounds] using free

/-- Behind the start of a name that stands alone, the search goes through the whole name. -/
theorem exists_marksFrom_of_alone (member : name ∈ searchOrder t)
    (right : bounds behind.head? = true)
    (left : bounds (front.getLast?.or before) = true) (fits : skip ≤ front.length)
    (clear : ∀ other ∈ searchOrder t, ∀ start after,
      front ++ (name ++ behind) = start ++ (other ++ after) → start.length ≤ front.length →
        front.length < start.length + other.length → ∀ c ∈ other, isIdentChar c = true) :
    ∃ first last second, marksFrom (searchOrder t) before skip alone (front ++ (name ++ behind)) =
      first ++ (last, true) :: second ∧ first.map Prod.fst ++ [last] = front ++ name ∧
        second.map Prod.fst = behind := by
  induction front generalizing before skip alone with
  | nil =>
    obtain rfl : skip = 0 := by simpa using fits
    -- No longer name stands here, as it would have the character behind the name.
    have known : ((searchOrder t).find? fun other => other.isPrefixOf (name ++ behind)) =
        some name := by
      refine find?_searchOrder_eq_some.2 ⟨member, List.prefix_append .., ?_⟩
      rintro other known ⟨after, whole⟩
      refine Nat.le_of_not_lt fun longer => ?_
      obtain ⟨more, rfl, rest⟩ : ∃ more, other = name ++ more ∧ behind = more ++ after := by
        rcases List.append_eq_append_iff.1 whole with ⟨more, rfl, -⟩ | both
        · rw [List.length_append] at longer
          omega
        · exact both
      cases more with
      | nil => simp at longer
      | cons c more =>
        have across : List.length ([] : Text) < ([] : Text).length + (name ++ c :: more).length := by
          rw [List.length_append, List.length_cons, List.length_nil]
          omega
        have identifier := clear _ known [] after whole.symm (Nat.zero_le _) across c (by simp)
        rw [rest] at right
        rw [isIdentChar_eq_false_of_bounds right] at identifier
        cases identifier
    obtain ⟨c, others, rfl⟩ := List.exists_cons_of_ne_nil (solid_searchOrder t name member)
    have alone : (bounds before && bounds behind.head?) = true := by
      rw [right, Bool.and_true]
      exact left
    rw [List.cons_append] at known
    rw [List.nil_append, List.nil_append, List.cons_append, marksFrom_of_found known rfl, alone]
    rcases List.eq_nil_or_concat others with rfl | ⟨init, last, rfl⟩
    · exact ⟨[], c, _, rfl, rfl, map_fst_marksFrom _⟩
    · rw [List.concat_eq_append, List.append_assoc, List.length_append, List.singleton_append]
      refine ⟨(c, false) :: init.map (·, false), last, _,
        congrArg ((c, false) :: ·) (marksFrom_append_cons_of_skip _ true init last behind), ?_,
        map_fst_marksFrom _⟩
      rw [List.map_cons, Text.map_fst_unmarked]
      rfl
  | cons c front ih =>
    have later : bounds (front.getLast?.or (some c)) = true := by
      rwa [← Source.getLast?_cons_or]
    -- Going on, with `more` characters of a name left.
    have step : ∀ {alone more}, more ≤ front.length → ∀ ends : Bool,
        ∃ first last second, (c, ends) :: marksFrom (searchOrder t) (some c) more alone
          (front ++ (name ++ behind)) = first ++ (last, true) :: second ∧
            first.map Prod.fst ++ [last] = c :: (front ++ name) ∧ second.map Prod.fst = behind := by
      intro alone more fits ends
      obtain ⟨first, last, second, marked, part, rest⟩ := ih later fits fun other known start after
          whole early late => clear other known (c :: start) after (congrArg (c :: ·) whole)
            (Nat.succ_le_succ early) (by simp only [List.length_cons]; omega)
      exact ⟨(c, ends) :: first, last, second, by rw [marked]; rfl, congrArg (c :: ·) part, rest⟩
    cases skip with
    | succ skip => exact step (Nat.le_of_succ_le_succ fits) _
    | zero =>
      cases search : (searchOrder t).find? fun other =>
          other.isPrefixOf (c :: (front ++ (name ++ behind))) with
      | none =>
        rw [List.cons_append, marksFrom_of_unknown search]
        exact step (Nat.zero_le _) _
      | some found =>
        obtain ⟨others, after, rfl, whole⟩ := exists_of_found (solid_searchOrder t) search
        rw [List.cons_append, marksFrom_of_found search whole]
        refine step (Nat.le_of_not_lt fun across => ?_) _
        -- A name across the place would have the character in front of it.
        have identifier := clear _ (List.mem_of_find?_eq_some search) [] after
          (by rw [List.cons_append, whole]; rfl) (Nat.zero_le _) (by simpa using across)
        obtain ⟨d, last⟩ : ∃ d, (c :: front).getLast? = some d := ⟨_, List.getLast?_cons⟩
        rw [last] at left
        have inside : d ∈ c :: others := by
          have begins : c :: front <+: c :: others :=
            List.prefix_of_prefix_length_le ⟨name ++ behind, rfl⟩
              ⟨after, by rw [List.cons_append, ← whole]; rfl⟩ (Nat.succ_le_succ (Nat.le_of_lt across))
          exact begins.subset (List.mem_of_getLast? last)
        have wrong := identifier d inside
        rw [isIdentChar_eq_false_of_bounds left] at wrong
        cases wrong

/-- **A declared name that stands alone gets the suffix**, unless a declared name that is no identifier
stands across its beginning. -/
theorem suffixed_of_alone (member : name ∈ declaredNames document)
    (whole : document = front ++ (name ++ behind)) (left : bounds front.getLast? = true)
    (right : bounds behind.head? = true) (clear : Clear document front) :
    Suffixed document (front ++ name) behind := by
  have searched : ∃ first last second,
      marksFrom (searchOrder document) none 0 false (front ++ (name ++ behind)) =
        first ++ (last, true) :: second ∧ first.map Prod.fst ++ [last] = front ++ name ∧
          second.map Prod.fst = behind :=
    exists_marksFrom_of_alone (mem_searchOrder.2 member) right (by rwa [Option.or_none])
      (Nat.zero_le _) fun other known start after split =>
        clear other (mem_searchOrder.1 known) start after (whole.trans split)
  rwa [← whole] at searched

end Renaming

namespace Session

open Renaming (Clear Suffixed marks searchOrder)
open Source (bounds declaredNames)
open Text (isIdentChar put)

variable {session : Session} {name front behind : Text}

theorem submission_eq_put (unique : session.uniqueNames = true) : session.submission =
    put session.suffix (marks (searchOrder session.document) session.document) := by
  rw [submission, if_pos unique, Renaming.suffixNames_eq_put]

/-- **Which uses of a declared name get the suffix.** The submission is the document with the suffix
behind some of its characters. The suffix stands in front of no character of names, a dot included;
and behind a declared name that no character of names precedes, it stands exactly when none follows,
unless a declared name that is no identifier stands across the beginning of the use. -/
theorem suffixed_use_iff (unique : session.uniqueNames = true)
    (member : name ∈ declaredNames session.document)
    (whole : session.document = front ++ (name ++ behind)) (left : bounds front.getLast? = true) :
    session.submission = put session.suffix (marks (searchOrder session.document) session.document) ∧
      (Suffixed session.document (front ++ name) behind → bounds behind.head? = true) ∧
      (Clear session.document front →
        (Suffixed session.document (front ++ name) behind ↔ bounds behind.head? = true)) :=
  ⟨submission_eq_put unique, Renaming.bounds_of_suffixed, fun clear =>
    ⟨Renaming.bounds_of_suffixed, fun right =>
      Renaming.suffixed_of_alone member whole left right clear⟩⟩

/-- A helper is used at the end of a later proof. -/
theorem suffixed_use_iff_helper :
    let session : Session := { fresh ⟨"5e551d01".toList, []⟩ true with
      document := "lemma h : True := trivial\ntheorem t : True := h".toList }
    let front : Text := "lemma h : True := trivial\ntheorem t : True := "
    Suffixed session.document (front ++ "h".toList) [] := by
  intro session front
  have names : declaredNames session.document = ["h".toList, "t".toList] := by decide +kernel
  have identifiers : ∀ other ∈ declaredNames session.document, ∀ c ∈ other,
      isIdentChar c = true := by
    rw [names]
    have all : ["h".toList, "t".toList].all (List.all · isIdentChar) = true := by decide
    simpa using all
  have member : "h".toList ∈ declaredNames session.document := by
    rw [names]
    exact List.mem_cons_self ..
  have whole : session.document = front ++ ("h".toList ++ []) := by decide +kernel
  have left : bounds front.getLast? = true := by decide +kernel
  have renames : session.uniqueNames = true := rfl
  have uses := suffixed_use_iff renames member whole left
  exact (uses.2.2 (Renaming.clear_of_identifiers identifiers front)).2 rfl

/-- **A projection of a declared name gets no suffix**: the use `h.1` of `h` is left as it is. -/
theorem not_suffixed_projection : ¬ ∀ (session : Session) (name front behind : Text),
    session.uniqueNames = true → name ∈ declaredNames session.document →
      (∀ c ∈ name, isIdentChar c = true) → session.document = front ++ (name ++ behind) →
      ((Source.layout id .code session.document)[front.length]?.map Prod.snd = some .code) →
      bounds front.getLast? = true →
      (bounds behind.head? = true ∨ ∃ field rest, behind = '.' :: (field ++ rest) ∧ field ≠ [] ∧
        (∀ c ∈ field, isIdentChar c = true) ∧ bounds rest.head? = true ∧
        name ++ '.' :: field ∉ declaredNames session.document) →
      Suffixed session.document (front ++ name) behind := by
  intro law
  let session : Session := { fresh ⟨"5e551d01".toList, []⟩ true with
    document := "theorem h : True ∧ True := ⟨trivial, trivial⟩\ntheorem t : True := h.1".toList }
  let front : Text := "theorem h : True ∧ True := ⟨trivial, trivial⟩\ntheorem t : True := "
  have names : declaredNames session.document = ["h".toList, "t".toList] := by decide +kernel
  have suffixed := law session "h" front ".1" rfl (by rw [names]; exact List.mem_cons_self ..)
    (List.all_eq_true.1 (by decide)) (by decide +kernel) (by decide +kernel) (by decide +kernel)
    (.inr ⟨"1", [], by decide, by decide, List.all_eq_true.1 (by decide), rfl, by rw [names]; decide⟩)
  exact absurd (Renaming.bounds_of_suffixed suffixed) (by decide)

end Session
end ProofDesk
