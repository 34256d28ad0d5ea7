import ProofDesk.Proofs.Source.Mode

/-!
# The code of a document

The lines of a document are read one after another, each knowing the number of block comments that
are open. The same regions come out when the document is read in one go: a line feed ends remarks and
literals, and block comments go on.

* `layout` — the regions of a document; `layout_eq_layoutLines` says that they are those of its lines.
* `codeText` — the text outside comments, with one blank in the place of each run of comments.
* `stepIn_of_not_silent` and `stepIn_of_silent` — where one character of a document stands.
* `stepIn_of_settled` — a character that is part of no delimiter changes nothing.
-/

namespace ProofDesk
namespace Source

variable {α : Type} {mode : Mode} {line rest : Text} {c : Char} {next : Option Char}

/-! ### Regions -/

/-- Reads `c` in a document, with `next` behind it. -/
def Mode.stepIn (mode : Mode) (c : Char) (next : Option Char) : Region × Mode :=
  if c = '\n' then (if mode.depth = 0 then .code else .comment, .atDepth mode.depth)
  else mode.step c next

theorem stepIn_of_ne (other : c ≠ '\n') : mode.stepIn c next = mode.step c next := if_neg other

/-- Items that stand for characters, with the regions of these. -/
def layout (char : α → Char) : Mode → List α → List (α × Region)
  | _, [] => []
  | mode, a :: rest =>
    (a, (mode.stepIn (char a) (rest.head?.map char)).1) ::
      layout char (mode.stepIn (char a) (rest.head?.map char)).2 rest

/-- A line feed is no delimiter, so the last character of a line is read as before the end. -/
theorem step_newline (mode : Mode) (c : Char) : mode.step c (some '\n') = mode.step c none := by
  cases mode <;> simp [Mode.step]

/-- The regions of lines, with `depth` block comments open before the first one. -/
def layoutLines (depth : Nat) : List Text → List (Char × Region)
  | [] => []
  | [line] => marks (.atDepth depth) line
  | line :: rest => marks (.atDepth depth) line ++
      ('\n', if (scanLine depth line).depth = 0 then .code else .comment) ::
        layoutLines (scanLine depth line).depth rest

/-- Behind a line feed the next line is read at the depth that the line before it leaves. -/
theorem layout_append_newline (single : '\n' ∉ line) (depth : Nat) (rest : Text) :
    layout id (.atDepth depth) (line ++ '\n' :: rest) = marks (.atDepth depth) line ++
      ('\n', if (scanLine depth line).depth = 0 then .code else .comment) ::
        layout id (.atDepth (scanLine depth line).depth) rest := by
  have all : ∀ (mode : Mode) (line : Text), '\n' ∉ line → layout id mode (line ++ '\n' :: rest) =
      marks mode line ++ ('\n', if (mode.after line).depth = 0 then .code else .comment) ::
        layout id (.atDepth (mode.after line).depth) rest := by
    intro mode line
    induction line generalizing mode with
    | nil => exact fun _ => rfl
    | cons c line ih =>
      intro single
      simp only [List.mem_cons, not_or] at single
      have step : mode.stepIn (id c) ((line ++ '\n' :: rest).head?.map id) =
          mode.step c line.head? := by
        rw [id_eq, stepIn_of_ne (Ne.symm single.1), Option.map_id_fun]
        cases line with
        | nil => exact step_newline mode c
        | cons d line => rfl
      rw [List.cons_append, layout, step, ih _ single.2]
      rfl
  exact all _ line single

/-- The last line has no line feed behind it. -/
theorem layout_of_single (single : '\n' ∉ line) (mode : Mode) :
    layout id mode line = marks mode line := by
  induction line generalizing mode with
  | nil => rfl
  | cons c line ih =>
    simp only [List.mem_cons, not_or] at single
    have step : mode.stepIn (id c) (line.head?.map id) = mode.step c line.head? := by
      rw [id_eq, stepIn_of_ne (Ne.symm single.1), Option.map_id_fun]
      rfl
    rw [layout, step, ih single.2]
    rfl

/-- **The regions of a document are those of its lines**, the depth handed on from line to line. -/
theorem layout_eq_layoutLines (document : Text) :
    layout id .code document = layoutLines 0 (Text.lines document) := by
  have all : ∀ (lines : List Text) (depth : Nat), lines ≠ [] → (∀ line ∈ lines, '\n' ∉ line) →
      layout id (.atDepth depth) (Text.joinLines lines) = layoutLines depth lines := by
    intro lines
    induction lines with
    | nil => exact fun _ solid => absurd rfl solid
    | cons line rest ih =>
      intro depth _ single
      have first := single line (List.mem_cons_self ..)
      cases rest with
      | nil =>
        rw [Text.joinLines_singleton]
        exact layout_of_single first _
      | cons second rest =>
        rw [Text.joinLines_cons_cons, layout_append_newline first, ih _ (List.cons_ne_nil _ _)
          fun line member => single line (List.mem_cons_of_mem _ member)]
        rfl
  have whole := all (Text.lines document) 0 (Text.lines_ne_nil document)
    fun line member => Text.not_mem_of_mem_lines member
  rwa [Text.joinLines_lines] at whole

/-! ### Code -/

/-- A region of a comment of either kind. -/
def Region.silent : Region → Bool
  | .comment | .remark => true
  | .code | .literal => false

/-- Inside a comment of either kind. -/
def Mode.silent : Mode → Bool
  | .comment _ | .opening _ | .closing _ | .remark => true
  | .code | .literal | .escape => false

/-- The items outside comments, with one blank in the place of each run of comments; `inside` tells
whether such a run is going on. -/
def withoutComments (blank : α) : (inside : Bool) → List (α × Region) → List α
  | _, [] => []
  | inside, (a, region) :: rest =>
    if region.silent then (if inside then [] else [blank]) ++ withoutComments blank true rest
    else a :: withoutComments blank false rest

/-- The code among items that are read in a mode. -/
def codeOf (char : α → Char) (blank : α) (mode : Mode) (inside : Bool) (items : List α) : List α :=
  withoutComments blank inside (layout char mode items)

/-- The text of a document outside comments. -/
def codeText (document : Text) : Text := codeOf id ' ' .code false document

theorem codeOf_cons (char : α → Char) (blank : α) (mode : Mode) (inside : Bool) (a : α)
    (rest : List α) : codeOf char blank mode inside (a :: rest) =
      if (mode.stepIn (char a) (rest.head?.map char)).1.silent then
        (if inside then [] else [blank]) ++
          codeOf char blank (mode.stepIn (char a) (rest.head?.map char)).2 true rest
      else a :: codeOf char blank (mode.stepIn (char a) (rest.head?.map char)).2 false rest := rfl

theorem codeOf_text_cons (mode : Mode) (inside : Bool) (c : Char) (t : Text) :
    codeOf id ' ' mode inside (c :: t) =
      if (mode.stepIn c t.head?).1.silent then
        (if inside then [] else [' ']) ++ codeOf id ' ' (mode.stepIn c t.head?).2 true t
      else c :: codeOf id ' ' (mode.stepIn c t.head?).2 false t := by
  have read := codeOf_cons id ' ' mode inside c t
  rwa [Option.map_id_fun, id] at read

/-! ### One character of a document -/

/-- A mode before the second character of a delimiter is followed by that character. -/
def Mode.Awaits (mode : Mode) (next : Option Char) : Prop :=
  match mode with
  | .opening _ => next = some '-'
  | .closing _ => next = some '/'
  | _ => True

/-- The second character of a delimiter follows the first one. -/
theorem awaits_stepIn (mode : Mode) (c : Char) (next : Option Char) :
    (mode.stepIn c next).2.Awaits next := by
  have depth : ∀ n, (Mode.atDepth n).Awaits next := by
    intro n
    cases n <;> trivial
  unfold Mode.stepIn
  split
  · exact depth _
  · cases mode with
    | code =>
      rw [Mode.step]
      split
      · trivial
      · split
        · next both => exact both.2
        · split <;> trivial
    | comment outer =>
      rw [Mode.step]
      split
      · next both => exact both.2
      · split
        · next both => exact both.2
        · trivial
    | literal =>
      rw [Mode.step]
      split
      · trivial
      · split <;> trivial
    | closing outer => exact depth outer
    | escape => trivial
    | opening outer => trivial
    | remark => trivial

/-- **Outside comments**, a character is outside too, or begins a comment. -/
theorem stepIn_of_not_silent (outside : mode.silent = false) (c : Char) (next : Option Char) :
    ((mode.stepIn c next).1.silent = false ∧ (mode.stepIn c next).2.silent = false) ∨
      ((mode.stepIn c next).1.silent = true ∧ (mode.stepIn c next).2.silent = true ∧
        (c = '-' ∨ c = '/')) := by
  by_cases newline : c = '\n'
  · subst newline
    cases mode <;> first | exact .inl ⟨rfl, rfl⟩ | cases outside
  · rw [stepIn_of_ne newline]
    cases mode with
    | code =>
      rw [Mode.step]
      split
      · next both => exact .inr ⟨rfl, rfl, .inl both.1⟩
      · split
        · next both => exact .inr ⟨rfl, rfl, .inr both.1⟩
        · split <;> exact .inl ⟨rfl, rfl⟩
    | literal =>
      rw [Mode.step]
      split
      · exact .inl ⟨rfl, rfl⟩
      · split <;> exact .inl ⟨rfl, rfl⟩
    | escape => exact .inl ⟨rfl, rfl⟩
    | comment outer => cases outside
    | opening outer => cases outside
    | closing outer => cases outside
    | remark => cases outside

/-- **Inside a comment**, a character is inside too, or ends the comment; a line feed is outside when
it ends a remark. -/
theorem stepIn_of_silent (inside : mode.silent = true) (awaits : mode.Awaits (some c))
    (next : Option Char) :
    ((mode.stepIn c next).1.silent = true ∧ (mode.stepIn c next).2.silent = true) ∨
      ((mode.stepIn c next).1.silent = true ∧ (mode.stepIn c next).2.silent = false ∧ c = '/') ∨
      ((mode.stepIn c next).1.silent = false ∧ (mode.stepIn c next).2.silent = false ∧ c = '\n') := by
  cases mode with
  | comment outer =>
    by_cases newline : c = '\n'
    · subst newline
      exact .inl ⟨rfl, rfl⟩
    · rw [stepIn_of_ne newline, Mode.step]
      split
      · exact .inl ⟨rfl, rfl⟩
      · split <;> exact .inl ⟨rfl, rfl⟩
  | opening outer =>
    cases awaits
    exact .inl ⟨rfl, rfl⟩
  | closing outer =>
    cases awaits
    cases outer with
    | zero => exact .inr (.inl ⟨rfl, rfl, rfl⟩)
    | succ outer => exact .inl ⟨rfl, rfl⟩
  | remark =>
    by_cases newline : c = '\n'
    · subst newline
      exact .inr (.inr ⟨rfl, rfl, rfl⟩)
    · rw [stepIn_of_ne newline]
      exact .inl ⟨rfl, rfl⟩
  | code => cases inside
  | literal => cases inside
  | escape => cases inside

/-- Behind a character outside comments the reader is outside. -/
theorem silent_of_stepIn (awaits : mode.Awaits (some c))
    (inside : (mode.stepIn c next).2.silent = true) : (mode.stepIn c next).1.silent = true := by
  cases silent : mode.silent with
  | false =>
    rcases stepIn_of_not_silent silent c next with ⟨-, after⟩ | ⟨region, -⟩
    · rw [after] at inside
      cases inside
    · exact region
  | true =>
    rcases stepIn_of_silent silent awaits next with ⟨region, -⟩ | ⟨region, -⟩ | ⟨-, after, -⟩
    · exact region
    · exact region
    · rw [after] at inside
      cases inside

/-! ### Characters that change nothing -/

/-- The character is part of no delimiter and no escape, and does not end its line. -/
structure Quiet (c : Char) : Prop where
  hyphen : c ≠ '-'
  slash : c ≠ '/'
  escape : c ≠ '\\'
  newline : c ≠ '\n'

theorem Quiet.not_delimiter (quiet : Quiet c) : ¬ (c = '-' ∨ c = '/') :=
  fun delimiter => delimiter.elim quiet.hyphen quiet.slash

/-- Behind such a character the reader is not in the middle of a delimiter or an escape. -/
inductive Mode.Settled : Mode → Prop
  | code : Settled .code
  | literal : Settled .literal
  | comment (outer : Nat) : Settled (.comment outer)
  | remark : Settled .remark

theorem stepIn_congr (quiet : Quiet c) (next next' : Option Char) :
    mode.stepIn c next = mode.stepIn c next' := by
  rw [stepIn_of_ne quiet.newline, stepIn_of_ne quiet.newline]
  exact step_congr ⟨quiet.hyphen, quiet.slash⟩ next next'

theorem settled_stepIn (quiet : Quiet c) (awaits : mode.Awaits (some c)) (next : Option Char) :
    (mode.stepIn c next).2.Settled := by
  obtain ⟨hyphen, slash, escape, newline⟩ := quiet
  rw [stepIn_of_ne newline]
  cases mode with
  | code =>
    rw [Mode.step, if_neg fun both => hyphen both.1, if_neg fun both => slash both.1]
    split <;> constructor
  | literal =>
    rw [Mode.step, if_neg escape]
    split <;> constructor
  | comment outer =>
    rw [Mode.step, if_neg fun both => slash both.1, if_neg fun both => hyphen both.1]
    constructor
  | opening outer =>
    cases awaits
    exact absurd rfl hyphen
  | closing outer =>
    cases awaits
    exact absurd rfl slash
  | escape => constructor
  | remark => constructor

/-- Such a character neither begins nor ends a comment. -/
theorem silent_stepIn (quiet : Quiet c) (awaits : mode.Awaits (some c)) (next : Option Char) :
    (mode.stepIn c next).1.silent = mode.silent ∧ (mode.stepIn c next).2.silent = mode.silent := by
  cases silent : mode.silent with
  | false =>
    rcases stepIn_of_not_silent silent c next with both | ⟨-, -, delimiter⟩
    · exact both
    · exact absurd delimiter quiet.not_delimiter
  | true =>
    rcases stepIn_of_silent silent awaits next with both | ⟨-, -, slash⟩ | ⟨-, -, newline⟩
    · exact both
    · exact absurd slash quiet.slash
    · exact absurd newline quiet.newline

/-- A settled mode stays as it is at a character that is no quote either. -/
theorem stepIn_of_settled (settled : mode.Settled) (quiet : Quiet c) (unquoted : c ≠ '"')
    (next : Option Char) :
    (mode.stepIn c next).1.silent = mode.silent ∧ (mode.stepIn c next).2 = mode := by
  obtain ⟨hyphen, slash, escape, newline⟩ := quiet
  rw [stepIn_of_ne newline]
  cases settled with
  | code =>
    rw [Mode.step, if_neg fun both => hyphen both.1, if_neg fun both => slash both.1,
      if_neg unquoted]
    exact ⟨rfl, rfl⟩
  | literal =>
    rw [Mode.step, if_neg escape, if_neg unquoted]
    exact ⟨rfl, rfl⟩
  | comment outer =>
    rw [Mode.step, if_neg fun both => slash both.1, if_neg fun both => hyphen both.1]
    exact ⟨rfl, rfl⟩
  | remark => exact ⟨rfl, rfl⟩

end Source
end ProofDesk
