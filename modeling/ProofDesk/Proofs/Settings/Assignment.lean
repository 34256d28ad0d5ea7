import Mathlib.Data.List.DropRight
import ProofDesk.Proofs.Text.Lines
import ProofDesk.Settings.Dotenv

/-!
# Lines of environment files

What a line of an environment file assigns is told by its first equals sign: the variable stands before
it, the value behind it.

* `Dotenv.Assigns` — a line assigns a value to a variable; `assignment?_eq_some` says that the lines
  are read so.
* `infix_of_assigns` — the variable and the value stand in the line.
* `assigns_writtenLine` — a line that is written from a variable and a value assigns it.
-/

namespace ProofDesk

namespace Text

variable {t piece : Text}

theorem trim_trimStart (t : Text) : trim (trimStart t) = trim t := by
  unfold trim trimStart
  rw [List.dropWhile_idempotent]

theorem trim_append (blank : allBlank piece = true) (t : Text) : trim (t ++ piece) = trim t := by
  induction piece using List.reverseRecOn with
  | nil => rw [List.append_nil]
  | append_singleton front c ih =>
    rw [allBlank, List.all_append, Bool.and_eq_true] at blank
    rw [← List.append_assoc, trim_concat (by simpa using blank.2)]
    exact ih blank.1

theorem trim_trimEnd (t : Text) : trim (trimEnd t) = trim t := by
  obtain ⟨tail, blank, whole⟩ := exists_trimEnd_append t
  rw [← trim_append blank, whole]

theorem isBlank_equals : isBlank '=' = false := by decide

end Text

namespace Dotenv

open Text (trim trimStart trimEnd allBlank)

variable {line front rest key value : Text}

/-! ### The assignment of a line -/

/-- **What is written for a value**: the value in a pair of quotes, or the value itself when there is no
pair of quotes around it. -/
inductive Written (value : Text) : Text → Prop
  | quoted {quote : Char} (known : quote = '"' ∨ quote = '\'') : Written value (quote :: (value ++ [quote]))
  | bare (open' : ∀ quote inner, quote = '"' ∨ quote = '\'' → value ≠ quote :: (inner ++ [quote])) :
      Written value value

/-- **What names a variable** at the beginning of a line: the variable with blanks around it, or the
word `export` and a space in front of that. A number sign begins a remark. -/
inductive Names (key : Text) : Text → Prop
  | plain {front : Text} (trimmed : trim front = key) (code : key.head? ≠ some '#')
      (alone : ¬ ("export " : Text) <+: trimStart front) : Names key front
  | exported {front behind : Text} (word : trimStart front = "export " ++ behind)
      (trimmed : trim behind = key) : Names key front

/-- **The line assigns the value to the variable**: the first equals sign stands between them. -/
def Assigns (line key value : Text) : Prop :=
  key ≠ [] ∧ ∃ front rest, line = front ++ '=' :: rest ∧ '=' ∉ front ∧ Names key front ∧
    Written value (trim rest)

theorem unquote_eq_iff {written : Text} : unquote written = value ↔ Written value written := by
  constructor
  · rintro rfl
    unfold unquote
    split
    · next first rest =>
      split
      · next pair =>
        obtain ⟨inner, rfl⟩ := List.getLast?_eq_some_iff.1 pair.2
        rw [List.dropLast_concat]
        exact .quoted pair.1
      · next single =>
        refine .bare fun quote inner known shape => single ?_
        obtain ⟨rfl, rfl⟩ := List.cons.inj shape
        exact ⟨known, List.getLast?_concat ..⟩
    · exact .bare nofun
  · rintro (known | open')
    · simp only [unquote, known, List.getLast?_concat, List.dropLast_concat, and_self, if_true]
    · unfold unquote
      split
      · next first rest =>
        rw [if_neg]
        rintro ⟨known, last⟩
        obtain ⟨inner, rfl⟩ := List.getLast?_eq_some_iff.1 last
        exact open' first inner known rfl
      · rfl

/-- A beginning of a line without an equals sign, with the word `export` taken off. -/
theorem after?_export_append (rest : Text) :
    Text.after? "export " (front ++ '=' :: rest) =
      (Text.after? "export " front).map (· ++ '=' :: rest) := by
  cases found : Text.after? "export " front with
  | some behind =>
    rw [Text.after?_eq_some.1 found, Option.map_some, Text.after?_eq_some, List.append_assoc]
  | none =>
    rw [Option.map_none, Option.eq_none_iff_forall_ne_some]
    intro behind begins
    rcases List.append_eq_append_iff.1 (Text.after?_eq_some.1 begins) with
      ⟨more, word, shape⟩ | ⟨more, rfl, -⟩
    · cases more with
      | nil =>
        rw [List.append_nil] at word
        have begun : Text.after? "export " front = some [] :=
          Text.after?_eq_some.2 (by rw [← word, List.append_nil])
        rw [begun] at found
        cases found
      | cons c more =>
        obtain ⟨rfl, -⟩ := List.cons.inj shape
        have member : '=' ∈ ("export " : Text) := by simp [word]
        exact absurd member (by decide)
    · rw [Text.after?_eq_some.2 rfl] at found
      cases found

/-- **A line is cut at its first equals sign.** -/
theorem assignment?_append (clear : '=' ∉ front) (rest : Text) :
    assignment? (front ++ '=' :: rest) =
      if (trimStart front).head? = some '#' then none
      else
        let key := trim ((Text.after? "export " (trimStart front)).getD front)
        if key = [] then none else some (key, unquote (trim rest)) := by
  have head : (trimStart front ++ '=' :: trimEnd rest).head? = some '#' ↔
      (trimStart front).head? = some '#' := by
    cases trimStart front <;> simp
  have cut : ∀ {left : Text}, '=' ∉ left → ∀ behind : Text,
      (left ++ '=' :: behind).takeWhile (· != '=') = left ∧
        (left ++ '=' :: behind).dropWhile (· != '=') = '=' :: behind := by
    intro left clear behind
    have before : ∀ c ∈ left, (c != '=') = true := fun c member =>
      bne_iff_ne.2 fun same => clear (same ▸ member)
    rw [List.takeWhile_append_of_pos before, List.dropWhile_append_of_pos before]
    simp
  have clear' : '=' ∉ trimStart front := fun member =>
    clear ((Text.trimStart_suffix front).subset member)
  unfold assignment?
  simp only [Text.trim_append_cons Text.isBlank_equals, head, after?_export_append]
  split
  · rfl
  · cases found : Text.after? "export " (trimStart front) with
    | none =>
      obtain ⟨left, right⟩ := cut clear' (trimEnd rest)
      simp only [Option.map_none, left, right, Option.getD_none, Text.trim_trimStart,
        Text.trim_trimEnd]
    | some behind =>
      have clear'' : '=' ∉ trimStart behind := fun member =>
        clear' ((Text.suffix_of_after? found).subset ((Text.trimStart_suffix behind).subset member))
      obtain ⟨left, right⟩ := cut clear'' (trimEnd rest)
      simp only [Option.map_some, Text.trimStart_append_cons Text.isBlank_equals, left, right,
        Option.getD_some, Text.trim_trimStart, Text.trim_trimEnd]

/-- A line without an equals sign assigns nothing. -/
theorem assignment?_eq_none (clear : '=' ∉ line) : assignment? line = none := by
  have clear' : '=' ∉ trim line := fun member => clear ((Text.trim_infix line).subset member)
  have none_left : ∀ {left : Text}, '=' ∉ left → left.dropWhile (· != '=') = [] := by
    intro left clear
    rw [List.dropWhile_eq_nil_iff]
    exact fun c member => bne_iff_ne.2 fun same => clear (same ▸ member)
  unfold assignment?
  simp only
  split
  · rfl
  · cases found : Text.after? "export " (trim line) with
    | none => simp only [none_left clear']
    | some behind =>
      have clear'' : '=' ∉ trimStart behind := fun member =>
        clear' ((Text.suffix_of_after? found).subset ((Text.trimStart_suffix behind).subset member))
      simp only [none_left clear'']

theorem head?_trimStart_of_trim (trimmed : trim front = key) (solid : key ≠ []) :
    (trimStart front).head? = key.head? := by
  obtain ⟨tail, -, whole⟩ := Text.exists_trim_append front
  rw [whole, trimmed, List.head?_append_of_ne_nil _ solid]

/-- The two ways to name a variable, as the reader tells them apart. -/
theorem names_iff (solid : key ≠ []) : Names key front ↔
    (trimStart front).head? ≠ some '#' ∧
      trim ((Text.after? "export " (trimStart front)).getD front) = key := by
  constructor
  · rintro (⟨trimmed, code, alone⟩ | ⟨word, trimmed⟩)
    · have bare : Text.after? "export " (trimStart front) = none :=
        Option.eq_none_iff_forall_ne_some.2 fun behind begins =>
          alone ⟨behind, (Text.after?_eq_some.1 begins).symm⟩
      rw [head?_trimStart_of_trim trimmed solid, bare]
      exact ⟨code, trimmed⟩
    · rw [Text.after?_eq_some.2 word, word]
      exact ⟨by simp, trimmed⟩
  · rintro ⟨code, named⟩
    cases found : Text.after? "export " (trimStart front) with
    | none =>
      rw [found, Option.getD_none] at named
      rw [head?_trimStart_of_trim named solid] at code
      refine .plain named code ?_
      rintro ⟨behind, begins⟩
      rw [Text.after?_eq_some.2 begins.symm] at found
      cases found
    | some behind =>
      rw [found, Option.getD_some] at named
      exact .exported (Text.after?_eq_some.1 found) named

/-- **What a line assigns**, exactly. -/
theorem assignment?_eq_some : assignment? line = some (key, value) ↔ Assigns line key value := by
  have read : ∀ {front : Text}, '=' ∉ front → ∀ rest : Text,
      assignment? (front ++ '=' :: rest) = some (key, value) ↔
        key ≠ [] ∧ Names key front ∧ Written value (trim rest) := by
    intro front clear rest
    rw [assignment?_append clear, ← unquote_eq_iff]
    constructor
    · intro assigned
      split at assigned
      · cases assigned
      · next code =>
        simp only at assigned
        split at assigned
        · cases assigned
        · next solid =>
          obtain ⟨rfl, rfl⟩ := Prod.mk.inj (Option.some.inj assigned)
          exact ⟨solid, (names_iff solid).2 ⟨code, rfl⟩, rfl⟩
    · rintro ⟨solid, named, rfl⟩
      obtain ⟨code, trimmed⟩ := (names_iff solid).1 named
      simp only [if_neg code, trimmed, if_neg solid]
  constructor
  · intro assigned
    by_cases member : '=' ∈ line
    · obtain ⟨front, rest, rfl, clear⟩ := List.eq_append_cons_of_mem member
      obtain ⟨solid, named, written⟩ := (read clear rest).1 assigned
      exact ⟨solid, front, rest, rfl, clear, named, written⟩
    · rw [assignment?_eq_none member] at assigned
      cases assigned
  · rintro ⟨solid, front, rest, rfl, clear, named, written⟩
    exact (read clear rest).2 ⟨solid, named, written⟩

/-- What a line assigns stands in the line. -/
theorem infix_of_assigns (assigns : Assigns line key value) : key <:+: line ∧ value <:+: line := by
  obtain ⟨-, front, rest, rfl, -, names, written⟩ := assigns
  have early : front <:+: front ++ '=' :: rest := (List.prefix_append front _).isInfix
  have late : rest <:+: front ++ '=' :: rest := ⟨front ++ ['='], [], by simp⟩
  constructor
  · cases names with
    | plain trimmed code alone => exact trimmed ▸ (Text.trim_infix front).trans early
    | exported word trimmed =>
      have behind := (List.suffix_append ("export " : Text) _).trans (word ▸ Text.trimStart_suffix front)
      exact trimmed ▸ ((Text.trim_infix _).trans behind.isInfix).trans early
  · have inside : value <:+: trim rest := by
      generalize trim rest = whole at written
      cases written with
      | quoted known => exact ⟨[_], [_], rfl⟩
      | bare open' => exact List.infix_rfl
    exact (inside.trans (Text.trim_infix rest)).trans late

/-! ### Written lines -/

/-- **What a variable may be called** on a written line. -/
structure IsName (key : Text) : Prop where
  solid : key ≠ []
  trimmed : trim key = key
  single : '\n' ∉ key
  clear : '=' ∉ key
  code : key.head? ≠ some '#'
  alone : ¬ ("export " : Text) <+: key

instance : Decidable (IsName key) :=
  decidable_of_iff (key ≠ [] ∧ trim key = key ∧ '\n' ∉ key ∧ '=' ∉ key ∧ key.head? ≠ some '#' ∧
      ¬ ("export " : Text) <+: key)
    ⟨fun ⟨solid, trimmed, single, clear, code, alone⟩ => ⟨solid, trimmed, single, clear, code, alone⟩,
      fun named => ⟨named.solid, named.trimmed, named.single, named.clear, named.code, named.alone⟩⟩

/-- The line for a variable and its value. -/
def writtenLine (pair : Text × Text) : Text := pair.1 ++ '=' :: '"' :: (pair.2 ++ ['"'])

theorem assigns_writtenLine (named : IsName key) (value : Text) :
    Assigns (writtenLine (key, value)) key value := by
  have start : trimStart key = key := by
    obtain ⟨c, rest, rfl⟩ := List.exists_cons_of_ne_nil named.solid
    exact List.dropWhile_cons_of_neg (by simp [Text.visible_of_trim_eq_self named.trimmed (.inl rfl)])
  have quotes : trim ('"' :: (value ++ ['"'])) = '"' :: (value ++ ['"']) := by
    have visible : Text.isBlank '"' = false := by decide
    rw [← List.nil_append ('"' :: _), Text.trim_append_cons visible, Text.trimEnd_append_cons visible]
    rfl
  refine ⟨named.solid, key, '"' :: (value ++ ['"']), rfl, named.clear, ?_, ?_⟩
  · exact .plain named.trimmed named.code (by rw [start]; exact named.alone)
  · rw [quotes]
    exact .quoted (.inl rfl)

end Dotenv
end ProofDesk
