import ProofDesk.Proofs.Session.Uses

/-!
# What comments do to the renaming

The declared names are collected from the whole document, its comments included, and the suffix goes
behind them in the whole document. So a comment that has a keyword and a word behind it declares that
word, and the word gets the suffix in code.

That is all a comment can do, as long as no declared name has a character of a delimiter or a
backslash: then no name reaches over the end of a comment, and the suffix tears no delimiter apart.

* `codeOf_put` — suffixes in comments go with the comments.
* `codeOf_marksFrom` — names are found in the code as they are in the document.
* `codeText_submission` — the code of a submission is the code of the document with suffixes behind
  the declared names.
* `codeText_submission_congr` — documents that differ in comments only, and declare the same words of
  their code, have submissions that differ in comments only; `not_codeText_submission_congr` shows
  that a comment may declare a word of the code.
-/

namespace ProofDesk
namespace Renaming

open Source (Mode Quiet bounds codeOf codeText declaredNames)
open Text (put)

variable {names : List Text} {suffix name document t : Text} {before before' : Option Char}
  {skip : Nat} {alone : Bool} {mode : Mode} {c : Char}

/-! ### Suffixes in comments -/

/-- Characters that a suffix has. -/
def Plain (suffix : Text) : Prop := ∀ c ∈ suffix, Quiet c ∧ c ≠ '"'

/-- A suffix stands in a comment or in code as a whole. -/
theorem codeOf_append_suffix (settled : mode.Settled) (plain : Plain suffix) (t : Text) :
    codeOf id ' ' mode mode.silent (suffix ++ t) =
      (if mode.silent then [] else suffix) ++ codeOf id ' ' mode mode.silent t := by
  induction suffix with
  | nil => cases mode.silent <;> rfl
  | cons c suffix ih =>
    obtain ⟨quiet, unquoted⟩ := plain c (List.mem_cons_self ..)
    have rest := ih fun d member => plain d (List.mem_cons_of_mem _ member)
    obtain ⟨region, after⟩ := Source.stepIn_of_settled settled quiet unquoted (suffix ++ t).head?
    rw [List.cons_append, Source.codeOf_text_cons, region, after]
    cases inside : mode.silent with
    | true =>
      rw [inside] at rest
      exact rest
    | false =>
      rw [inside] at rest
      exact congrArg (c :: ·) rest

/-- The suffix of a character stands where the character stands. -/
theorem codeOf_append_ending (plain : Plain suffix) {ends : Bool} (quiet : ends = true → Quiet c)
    (awaits : mode.Awaits (some c)) (next : Option Char) (t : Text) :
    let read := mode.stepIn c next
    let added := if ends then suffix else []
    codeOf id ' ' read.2 read.1.silent (added ++ t) =
      (if read.1.silent then [] else added) ++ codeOf id ' ' read.2 read.1.silent t := by
  intro read added
  cases ends with
  | false => cases read.1.silent <;> rfl
  | true =>
    obtain ⟨region, after⟩ := Source.silent_stepIn (quiet rfl) awaits next
    have same := codeOf_append_suffix (Source.settled_stepIn (quiet rfl) awaits next) plain t
    rw [after, ← region] at same
    exact same

/-- **Suffixes in comments go with the comments**, and those in code stay where they are. -/
theorem codeOf_put (plain : Plain suffix) {marked : List (Char × Bool)}
    (quiet : ∀ c, (c, true) ∈ marked → Quiet c) {inside : Bool}
    (awaits : mode.Awaits (marked.map Prod.fst).head?) (ongoing : mode.silent = true → inside = true) :
    codeOf id ' ' mode inside (put suffix marked) =
      put suffix (codeOf Prod.fst (' ', false) mode inside marked) := by
  induction marked generalizing mode inside with
  | nil => rfl
  | cons mark marked ih =>
    obtain ⟨c, ends⟩ := mark
    have awaits : mode.Awaits (some c) := awaits
    have here : ends = true → Quiet c := by
      rintro rfl
      exact quiet c (List.mem_cons_self ..)
    -- The suffix behind the character does not change how the character is read.
    have step : mode.stepIn c ((if ends then suffix else []) ++ put suffix marked).head? =
        mode.stepIn c (marked.head?.map Prod.fst) := by
      cases ends with
      | true => exact Source.stepIn_congr (here rfl) _ _
      | false => rw [if_neg Bool.false_ne_true, List.nil_append, Text.head?_put, List.head?_map]
    have next : (mode.stepIn c (marked.head?.map Prod.fst)).2.Awaits (marked.map Prod.fst).head? := by
      rw [List.head?_map]
      exact Source.awaits_stepIn ..
    have rest := ih (fun d member => quiet d (List.mem_cons_of_mem _ member)) next
      (Source.silent_of_stepIn awaits)
    have added := codeOf_append_ending plain here awaits (marked.head?.map Prod.fst)
      (put suffix marked)
    have read := Source.codeOf_cons Prod.fst (' ', false) mode inside (c, ends) marked
    dsimp only at added read
    rw [Text.put_cons, Source.codeOf_text_cons, step, read]
    cases region : (mode.stepIn c (marked.head?.map Prod.fst)).1.silent with
    | true =>
      rw [region] at rest added
      rw [if_pos rfl, if_pos rfl, added, rest, Text.put_append]
      cases inside <;> rfl
    | false =>
      rw [region] at rest added
      rw [if_neg Bool.false_ne_true, if_neg Bool.false_ne_true, added, if_neg Bool.false_ne_true,
        rest, Text.put_cons]

/-! ### Names in code -/

/-- Names that stand in code or in a comment as a whole. -/
structure Compact (names : List Text) : Prop where
  solid : ∀ name ∈ names, name ≠ []
  quiet : ∀ name ∈ names, ∀ c ∈ name, Quiet c
  unspaced : ∀ name ∈ names, ' ' ∉ name

theorem bounds_of_delimiter (delimiter : c = '-' ∨ c = '/') : bounds (some c) = true := by
  rcases delimiter with rfl | rfl <;> decide

/-- What is quiet stays in code. -/
theorem exists_codeOf_append (quiet : ∀ c ∈ name, Quiet c) (outside : mode.silent = false) (t : Text) :
    ∃ mode' : Mode, mode'.silent = false ∧
      codeOf id ' ' mode false (name ++ t) = name ++ codeOf id ' ' mode' false t := by
  induction name generalizing mode with
  | nil => exact ⟨mode, outside, rfl⟩
  | cons c name ih =>
    have here := quiet c (List.mem_cons_self ..)
    rcases Source.stepIn_of_not_silent outside c (name ++ t).head? with
      ⟨region, after⟩ | ⟨-, -, delimiter⟩
    · have later := fun d member => quiet d (List.mem_cons_of_mem _ member)
      obtain ⟨mode', outside, rest⟩ := ih later after
      refine ⟨mode', outside, ?_⟩
      rw [List.cons_append, Source.codeOf_text_cons, region, if_neg Bool.false_ne_true, rest,
        List.cons_append]
    · exact absurd delimiter here.not_delimiter

/-- The code bounds a name where the document does. -/
theorem bounds_head?_codeOf (outside : mode.silent = false) (t : Text) :
    bounds (codeOf id ' ' mode false t).head? = bounds t.head? := by
  cases t with
  | nil => rfl
  | cons c t =>
    rw [Source.codeOf_text_cons]
    rcases Source.stepIn_of_not_silent outside c t.head? with
      ⟨region, -⟩ | ⟨region, -, delimiter⟩
    · rw [region, if_neg Bool.false_ne_true]
      rfl
    · rw [region, if_pos rfl, if_neg Bool.false_ne_true]
      exact (show bounds (some ' ') = true by decide).trans (bounds_of_delimiter delimiter).symm

/-- **A name begins the code exactly when it begins the document.** -/
theorem prefix_codeOf_iff (quiet : ∀ c ∈ name, Quiet c) (unspaced : ' ' ∉ name)
    (outside : mode.silent = false) : name <+: codeOf id ' ' mode false t ↔ name <+: t := by
  induction name generalizing mode t with
  | nil => simp
  | cons d name ih =>
    have later : ∀ {mode : Mode} {t : Text}, mode.silent = false →
        (name <+: codeOf id ' ' mode false t ↔ name <+: t) :=
      ih (fun d member => quiet d (List.mem_cons_of_mem _ member))
        fun blank => unspaced (List.mem_cons_of_mem _ blank)
    cases t with
    | nil => exact Iff.rfl
    | cons c t =>
      rw [Source.codeOf_text_cons]
      rcases Source.stepIn_of_not_silent outside c t.head? with
        ⟨region, after⟩ | ⟨region, -, delimiter⟩
      · rw [region, if_neg Bool.false_ne_true, List.cons_prefix_cons, List.cons_prefix_cons,
          later after]
      · rw [region, if_pos rfl, if_neg Bool.false_ne_true, List.cons_append, List.cons_prefix_cons,
          List.cons_prefix_cons]
        have here := quiet d (List.mem_cons_self ..)
        constructor
        · rintro ⟨rfl, -⟩
          exact absurd (List.mem_cons_self ..) unspaced
        · rintro ⟨rfl, -⟩
          exact absurd delimiter here.not_delimiter

/-- The search finds in code what it finds in the document. -/
theorem find?_codeOf (compact : Compact names) (outside : mode.silent = false) (c : Char) (t : Text) :
    (names.find? fun name => name.isPrefixOf (c :: codeOf id ' ' mode false t)) =
      names.find? fun name => name.isPrefixOf (c :: t) := by
  rw [← List.head?_filter, ← List.head?_filter]
  refine congrArg _ (List.filter_congr fun name member => ?_)
  rw [Bool.eq_iff_iff, List.isPrefixOf_iff_prefix, List.isPrefixOf_iff_prefix]
  cases name with
  | nil => simp
  | cons d name =>
    rw [List.cons_prefix_cons, List.cons_prefix_cons,
      prefix_codeOf_iff (fun c inside => compact.quiet _ member c (List.mem_cons_of_mem _ inside))
        (fun blank => compact.unspaced _ member (List.mem_cons_of_mem _ blank)) outside]

/-- No name begins with a character that no name has. -/
theorem find?_of_absent (compact : Compact names) (absent : ∀ name ∈ names, c ∉ name) (t : Text) :
    (names.find? fun name => name.isPrefixOf (c :: t)) = none := by
  cases known : names.find? fun name => name.isPrefixOf (c :: t) with
  | none => rfl
  | some found =>
    obtain ⟨others, -, rfl, -⟩ := exists_of_found compact.solid known
    exact absurd (List.mem_cons_self ..) (absent _ (List.mem_of_find?_eq_some known))

/-! ### Marks in code -/

/-- One character of a document, with the marks of the rest. -/
theorem exists_marksFrom_cons (compact : Compact names) (before : Option Char) (alone : Bool)
    (inner : ∀ d ∈ (c :: t).take skip, Quiet d) :
    ∃ ends more alone', marksFrom names before skip alone (c :: t) =
      (c, ends) :: marksFrom names (some c) more alone' t ∧ (ends = true → Quiet c) ∧
        ∀ d ∈ t.take more, Quiet d := by
  cases skip with
  | succ skip =>
    exact ⟨_, skip, alone, rfl, fun _ => inner c (by simp), fun d member =>
      inner d (by rw [List.take_succ_cons]; exact List.mem_cons_of_mem _ member)⟩
  | zero =>
    cases known : names.find? fun name => name.isPrefixOf (c :: t) with
    | none => exact ⟨false, 0, false, marksFrom_of_unknown known, nofun, nofun⟩
    | some found =>
      obtain ⟨others, behind, rfl, whole⟩ := exists_of_found compact.solid known
      have quiet := compact.quiet _ (List.mem_of_find?_eq_some known)
      refine ⟨_, others.length, _, marksFrom_of_found known whole,
        fun _ => quiet c (List.mem_cons_self ..), fun d member => ?_⟩
      rw [whole, List.take_left] at member
      exact quiet d (List.mem_cons_of_mem _ member)

theorem skip_eq_zero (loud : ¬ Quiet c) (inner : ∀ d ∈ (c :: t).take skip, Quiet d) : skip = 0 := by
  cases skip with
  | zero => rfl
  | succ skip => exact absurd (inner c (by simp)) loud

/-- A character that is not quiet is in no name. -/
theorem marksFrom_of_not_quiet (compact : Compact names) (loud : ¬ Quiet c) (t : Text) :
    marksFrom names before 0 alone (c :: t) = (c, false) :: marksFrom names (some c) 0 false t :=
  marksFrom_of_unknown (find?_of_absent compact
    (fun name member inside => loud (compact.quiet name member c inside)) t)

/-- A blank is in no name. -/
theorem marksFrom_blank (compact : Compact names) (t : Text) :
    marksFrom names before 0 alone (' ' :: t) = (' ', false) :: marksFrom names (some ' ') 0 false t :=
  marksFrom_of_unknown (find?_of_absent compact compact.unspaced t)

/-- The suffix goes behind quiet characters. -/
theorem quiet_of_mem_marksFrom (compact : Compact names) (inner : ∀ d ∈ t.take skip, Quiet d)
    (marked : (c, true) ∈ marksFrom names before skip alone t) : Quiet c := by
  induction t generalizing before skip alone with
  | nil => cases skip <;> cases marked
  | cons d t ih =>
    obtain ⟨ends, more, alone', step, here, later⟩ :=
      exists_marksFrom_cons compact before alone inner
    rw [step] at marked
    rcases List.mem_cons.1 marked with same | marked
    · obtain ⟨rfl, rfl⟩ := Prod.mk.inj same
      exact here rfl
    · exact ih later marked

/-- One character of code, with the marks of the rest of the code and of the document. -/
theorem exists_marksFrom_codeOf_cons (compact : Compact names) (outside : mode.silent = false)
    (same : bounds before = bounds before') (alone : Bool)
    (inner : ∀ d ∈ (c :: t).take skip, Quiet d) :
    ∃ ends more alone', (∀ d ∈ t.take more, Quiet d) ∧
      marksFrom names before skip alone (c :: t) =
        (c, ends) :: marksFrom names (some c) more alone' t ∧
      marksFrom names before' skip alone (c :: codeOf id ' ' mode false t) =
        (c, ends) :: marksFrom names (some c) more alone' (codeOf id ' ' mode false t) := by
  cases skip with
  | succ skip =>
    exact ⟨_, skip, alone, fun d member =>
      inner d (by rw [List.take_succ_cons]; exact List.mem_cons_of_mem _ member), rfl, rfl⟩
  | zero =>
    have search := find?_codeOf compact outside c t
    cases known : names.find? fun name => name.isPrefixOf (c :: t) with
    | none => exact ⟨false, 0, false, nofun, marksFrom_of_unknown known,
        marksFrom_of_unknown (search.trans known)⟩
    | some found =>
      obtain ⟨others, behind, rfl, whole⟩ := exists_of_found compact.solid known
      have quiet : ∀ d ∈ others, Quiet d := fun d member =>
        compact.quiet _ (List.mem_of_find?_eq_some known) d (List.mem_cons_of_mem _ member)
      obtain ⟨mode', outside', rest⟩ := exists_codeOf_append quiet outside behind
      rw [← whole] at rest
      refine ⟨_, others.length, _, fun d member => ?_, marksFrom_of_found known whole, ?_⟩
      · rw [whole, List.take_left] at member
        exact quiet d member
      · rw [marksFrom_of_found (search.trans known) rest, bounds_head?_codeOf outside', same]

theorem codeOf_mark_cons (mode : Mode) (inside : Bool) (c : Char) (ends alone : Bool) :
    codeOf Prod.fst (' ', false) mode inside ((c, ends) :: marksFrom names before skip alone t) =
      if (mode.stepIn c t.head?).1.silent then
        (if inside then [] else [(' ', false)]) ++ codeOf Prod.fst (' ', false)
          (mode.stepIn c t.head?).2 true (marksFrom names before skip alone t)
      else (c, ends) :: codeOf Prod.fst (' ', false) (mode.stepIn c t.head?).2 false
        (marksFrom names before skip alone t) := by
  have read := Source.codeOf_cons Prod.fst (' ', false) mode inside (c, ends)
    (marksFrom names before skip alone t)
  rw [← List.head?_map, map_fst_marksFrom] at read
  exact read

/-- **Names are found in the code as they are in the document**, and inside comments nothing is left
of them. -/
theorem codeOf_marksFrom (compact : Compact names) (before before' : Option Char) (skip : Nat)
    (alone : Bool) (mode : Mode) (inside : Bool) (awaits : mode.Awaits t.head?)
    (inner : ∀ d ∈ t.take skip, Quiet d) (ongoing : inside = true → bounds before' = true) :
    (mode.silent = false → bounds before = bounds before' →
      codeOf Prod.fst (' ', false) mode inside (marksFrom names before skip alone t) =
        marksFrom names before' skip alone (codeOf id ' ' mode inside t)) ∧
    (mode.silent = true → inside = true →
      codeOf Prod.fst (' ', false) mode inside (marksFrom names before skip alone t) =
        marksFrom names before' 0 false (codeOf id ' ' mode inside t)) := by
  induction t generalizing before before' skip alone mode inside with
  | nil =>
    have none : ∀ before skip alone, marksFrom names before skip alone [] = [] := by
      intro before skip alone
      cases skip <;> rfl
    rw [none]
    exact ⟨fun _ _ => (none ..).symm, fun _ _ => (none ..).symm⟩
  | cons c t ih =>
    have awaits : mode.Awaits (some c) := awaits
    have next : (mode.stepIn c t.head?).2.Awaits t.head? := Source.awaits_stepIn ..
    have outer : ∀ d ∈ t.take 0, Quiet d := nofun
    constructor
    · intro outside same
      rcases Source.stepIn_of_not_silent outside c t.head? with
        ⟨region, after⟩ | ⟨region, after, delimiter⟩
      · obtain ⟨ends, more, alone', later, document, code⟩ :=
          exists_marksFrom_codeOf_cons compact after same alone inner
        have rest := (ih (some c) (some c) more alone' _ false next later nofun).1 after rfl
        rw [document, codeOf_mark_cons, Source.codeOf_text_cons, region, if_neg Bool.false_ne_true,
          if_neg Bool.false_ne_true, code, rest]
      · -- A comment begins here, and leaves a blank unless one has just ended.
        have loud : ¬ Quiet c := fun quiet => quiet.not_delimiter delimiter
        have comment := fun before' free =>
          (ih (some c) before' 0 false _ true next outer fun _ => free).2 after rfl
        obtain rfl := skip_eq_zero loud inner
        rw [marksFrom_of_not_quiet compact loud, codeOf_mark_cons, Source.codeOf_text_cons, region,
          if_pos rfl, if_pos rfl]
        cases inside with
        | true =>
          rw [if_pos rfl, if_pos rfl, List.nil_append, List.nil_append,
            comment before' (ongoing rfl)]
          exact marksFrom_congr rfl
        | false =>
          rw [if_neg Bool.false_ne_true, if_neg Bool.false_ne_true, List.singleton_append,
            List.singleton_append, comment (some ' ') (by decide), marksFrom_blank compact]
    · rintro silent rfl
      rcases Source.stepIn_of_silent silent awaits t.head? with
        ⟨region, after⟩ | ⟨region, after, rfl⟩ | ⟨region, after, rfl⟩
      · obtain ⟨ends, more, alone', document, -, later⟩ :=
          exists_marksFrom_cons compact before alone inner
        have rest := (ih (some c) before' more alone' _ true next later ongoing).2 after rfl
        rw [document, codeOf_mark_cons, Source.codeOf_text_cons, region, if_pos rfl, if_pos rfl,
          if_pos rfl, if_pos rfl, List.nil_append, List.nil_append, rest]
      · have loud : ¬ Quiet '/' := fun quiet => quiet.slash rfl
        obtain rfl := skip_eq_zero loud inner
        have rest := (ih (some '/') before' 0 false _ true next outer ongoing).1 after
          (ongoing rfl).symm
        rw [marksFrom_of_not_quiet compact loud, codeOf_mark_cons, Source.codeOf_text_cons, region,
          if_pos rfl, if_pos rfl, if_pos rfl, if_pos rfl, List.nil_append, List.nil_append, rest]
      · have loud : ¬ Quiet '\n' := fun quiet => quiet.newline rfl
        obtain rfl := skip_eq_zero loud inner
        have rest := (ih (some '\n') (some '\n') 0 false _ false next outer nofun).1 after rfl
        rw [marksFrom_of_not_quiet compact loud, codeOf_mark_cons, Source.codeOf_text_cons, region,
          if_neg Bool.false_ne_true, if_neg Bool.false_ne_true, rest,
          marksFrom_of_not_quiet compact loud]

/-! ### Documents -/

/-- No declared name has a character of a delimiter or a backslash. -/
def QuietNames (document : Text) : Prop :=
  ∀ name ∈ declaredNames document, ∀ c ∈ name, c ≠ '-' ∧ c ≠ '/' ∧ c ≠ '\\'

theorem compact_searchOrder (quiet : QuietNames document) : Compact (searchOrder document) where
  solid := solid_searchOrder document
  quiet name member c inside := by
    obtain ⟨hyphen, slash, escape⟩ := quiet name (mem_searchOrder.1 member) c inside
    exact ⟨hyphen, slash, escape, Source.ne_newline_of_isNameChar
      ((isNameChar_of_mem_searchOrder member).2 c inside)⟩
  unspaced name member blank :=
    absurd ((isNameChar_of_mem_searchOrder member).2 ' ' blank) (by decide)

theorem plain_suffixOf {sessionId : Text} (words : ∀ c ∈ sessionId, Text.isWordChar c = true) :
    Plain (suffixOf sessionId) := by
  have all : ∀ c ∈ suffixOf sessionId, Text.isWordChar c = true := by
    intro c member
    rcases List.mem_append.1 member with start | own
    · exact List.all_eq_true.1 (by decide) c start
    · exact words c own
  intro c member
  have word := all c member
  refine ⟨⟨?_, ?_, ?_, ?_⟩, ?_⟩ <;>
  · rintro rfl
    exact absurd word (by decide)

/-- **The code of a text with suffixes** is the code with suffixes behind the names in it. -/
theorem codeText_suffixNames (plain : Plain suffix) (quiet : QuietNames document) :
    codeText (suffixNames suffix document) =
      put suffix (marks (searchOrder document) (codeText document)) := by
  have compact := compact_searchOrder quiet
  have inner : ∀ d ∈ document.take 0, Quiet d := nofun
  have behind : ∀ c, (c, true) ∈ marks (searchOrder document) document → Quiet c :=
    fun c marked => quiet_of_mem_marksFrom compact inner marked
  have code := (codeOf_marksFrom compact none none 0 false .code false trivial inner nofun).1 rfl rfl
  calc codeText (suffixNames suffix document)
    _ = codeOf id ' ' .code false (put suffix (marks (searchOrder document) document)) := by
      rw [suffixNames_eq_put, codeText]
    _ = put suffix (codeOf Prod.fst (' ', false) .code false
          (marks (searchOrder document) document)) := codeOf_put plain behind trivial nofun
    _ = put suffix (marks (searchOrder document) (codeText document)) := congrArg (put suffix) code

theorem marksFrom_names_congr {names names' : List Text} (same : ∀ rest, rest <:+ t →
      (names.find? fun name => name.isPrefixOf rest) = names'.find? fun name => name.isPrefixOf rest) :
    marksFrom names before skip alone t = marksFrom names' before skip alone t := by
  induction t generalizing before skip alone with
  | nil => cases skip <;> rfl
  | cons c t ih =>
    have later : ∀ {before skip alone},
        marksFrom names before skip alone t = marksFrom names' before skip alone t :=
      ih fun rest inside => same rest (inside.trans (List.suffix_cons ..))
    cases skip with
    | succ skip => exact congrArg _ later
    | zero =>
      unfold marksFrom
      rw [same _ (List.suffix_refl _)]
      split
      · exact congrArg _ later
      · exact congrArg _ later

/-- Documents that declare the same words of a text have the same names found in it. -/
theorem marks_searchOrder_congr {document' : Text} (declared : ∀ name, name <:+: t →
      (name ∈ declaredNames document ↔ name ∈ declaredNames document')) :
    marks (searchOrder document) t = marks (searchOrder document') t := by
  refine marksFrom_names_congr fun rest inside => ?_
  have shared : ∀ name, name <+: rest →
      (name ∈ searchOrder document ↔ name ∈ searchOrder document') := by
    intro name begins
    rw [mem_searchOrder, mem_searchOrder]
    exact declared name (begins.isInfix.trans inside.isInfix)
  refine Option.ext fun name => ?_
  rw [find?_searchOrder_eq_some, find?_searchOrder_eq_some]
  constructor
  · rintro ⟨member, begins, longest⟩
    exact ⟨(shared name begins).1 member, begins, fun other known here =>
      longest other ((shared other here).2 known) here⟩
  · rintro ⟨member, begins, longest⟩
    exact ⟨(shared name begins).2 member, begins, fun other known here =>
      longest other ((shared other here).1 known) here⟩

/-- Names that are declared in the order of the search are looked for in that order. -/
theorem searchOrder_of_pairwise (ordered : (declaredNames t).Pairwise fun a b => longerFirst a b = true)
    (distinct : (declaredNames t).eraseDups = declaredNames t) : searchOrder t = declaredNames t := by
  rw [searchOrder, List.mergeSort_of_pairwise ordered, distinct]

end Renaming

namespace Session

open Renaming (QuietNames marks searchOrder)
open Source (codeText declaredNames)
open Text (put)

variable {session : Session} {document document' : Text}

/-- **What the code of a submission depends on.** -/
theorem codeText_submission (session : Session) (unique : session.uniqueNames = true)
    (words : ∀ c ∈ session.identity.sessionId, Text.isWordChar c = true)
    (quiet : QuietNames session.document) : codeText session.submission =
      put session.suffix (marks (searchOrder session.document) (codeText session.document)) := by
  rw [submission, if_pos unique]
  exact Renaming.codeText_suffixNames (Renaming.plain_suffixOf words) quiet

/-- **Comments change the renaming of code only by what they declare.** Two documents with the same
code have submissions with the same code when they declare the same words of the code, and no name
with a character of a delimiter or a backslash. -/
theorem codeText_submission_congr (unique : session.uniqueNames = true)
    (words : ∀ c ∈ session.identity.sessionId, Text.isWordChar c = true)
    (code : codeText document = codeText document') (quiet : QuietNames document)
    (quiet' : QuietNames document') (declared : ∀ name, name <:+: codeText document →
      (name ∈ declaredNames document ↔ name ∈ declaredNames document')) :
    codeText { session with document := document }.submission =
      codeText { session with document := document' }.submission := by
  have first := codeText_submission { session with document := document } unique words quiet
  have second := codeText_submission { session with document := document' } unique words quiet'
  rw [first, second, ← code]
  exact congrArg _ (Renaming.marks_searchOrder_congr declared)

/-- The words of a comment are no declarations here. -/
theorem codeText_submission_congr_tactic :
    let session := fresh ⟨"5e551d01".toList, []⟩ true
    codeText { session with document :=
        "-- the tactic simp is enough\ntheorem t : True := by simp".toList }.submission =
      codeText { session with document :=
        "-- a short proof\ntheorem t : True := by simp".toList }.submission := by
  have names : declaredNames "-- the tactic simp is enough\ntheorem t : True := by simp" =
      ["t".toList] := by decide +kernel
  have names' : declaredNames "-- a short proof\ntheorem t : True := by simp" = ["t".toList] := by
    decide +kernel
  have quiet : ∀ name ∈ ["t".toList], ∀ c ∈ name, c ≠ '-' ∧ c ≠ '/' ∧ c ≠ '\\' := by
    simp only [List.mem_singleton, forall_eq]
    have all : "t".toList.all (fun c => c ≠ '-' ∧ c ≠ '/' ∧ c ≠ '\\') = true := by decide
    simpa only [List.all_eq_true, decide_eq_true_eq] using all
  have unique : (fresh ⟨"5e551d01".toList, []⟩ true).uniqueNames = true := rfl
  refine codeText_submission_congr unique (List.all_eq_true.1 (by decide)) (by decide +kernel) ?_ ?_
    fun name _ => ?_
  · rw [QuietNames, names]
    exact quiet
  · rw [QuietNames, names']
    exact quiet
  · rw [names, names']

/-- **A comment declares a word of the code**, which gets the suffix: `by simp` is verified as
`by simp_s5e551d01`. -/
theorem not_codeText_submission_congr : ¬ ∀ (session : Session) (document document' : Text),
    session.uniqueNames = true → codeText document = codeText document' →
      codeText { session with document := document }.submission =
        codeText { session with document := document' }.submission := by
  intro law
  have steered := law (fresh ⟨"5e551d01".toList, []⟩ true)
    "-- the lemma simp is enough\ntheorem t : True := by simp"
    "-- the tactic simp is enough\ntheorem t : True := by simp" rfl (by decide +kernel)
  have names : declaredNames "-- the lemma simp is enough\ntheorem t : True := by simp" =
      ["simp".toList, "t".toList] := by decide +kernel
  have names' : declaredNames "-- the tactic simp is enough\ntheorem t : True := by simp" =
      ["t".toList] := by decide +kernel
  have order := Renaming.searchOrder_of_pairwise (by rw [names]; decide) (by rw [names]; decide)
  have order' := Renaming.searchOrder_of_pairwise (by rw [names']; decide) (by rw [names']; decide)
  rw [names] at order
  rw [names'] at order'
  have unique : (fresh ⟨"5e551d01".toList, []⟩ true).uniqueNames = true := rfl
  rw [submission, submission, if_pos unique, if_pos unique, Renaming.suffixNames,
    Renaming.suffixNames, order, order'] at steered
  exact absurd steered (by decide +kernel)

end Session
end ProofDesk
