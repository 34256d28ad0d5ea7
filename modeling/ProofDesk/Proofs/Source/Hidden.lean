import ProofDesk.Proofs.Source.Filling

/-!
# Characters inside comments and literals

A character that stands strictly inside a block comment or a string literal ends neither and begins
neither. When it is exchanged for another such character, every other character of the line keeps its
region, so the scan of the line reports the same placeholders, and the next line is read as before. Only
the code of the line shows the exchange, as comments and literals are part of it.

* `Inner` and `Hides` — the characters that may be exchanged.
* `Secret` — the modes in which they are read; `secret_of_hides` says so.
* `Secret.marksBefore_eq` — what stands in front is read alike.
* `delimiter_mem` — a quote or a slash stands between code and a hidden character.
* `scanLine_exchange` — the scan of a line with a character exchanged.
-/

namespace ProofDesk
namespace Source

variable {mode : Mode} {front rest t : Text} {c c' d : Char} {depth : Nat}

/-- **A character strictly inside** a block comment or a string literal. -/
def Inner (region : Region) (c : Char) : Prop :=
  c.toNat < 128 ∧ c ≠ '\n' ∧
    (region = .comment ∧ c ≠ '-' ∧ c ≠ '/' ∨ region = .literal ∧ c ≠ '"' ∧ c ≠ '\\')

theorem Inner.utf8Size {region : Region} (inner : Inner region c) : c.utf8Size = 1 := by
  rw [Char.utf8Size_eq_one_iff, UInt32.le_iff_toNat_le]
  exact Nat.le_of_lt_succ inner.1

/-- **A hidden character and another one for its place.** The line begins inside `depth` block comments
and has the first character between `front` and `rest`. -/
def Hides (depth : Nat) (front : Text) (c c' : Char) (rest : Text) : Prop :=
  ∃ region, (marks (.atDepth depth) (front ++ c :: rest))[front.length]? = some (c, region) ∧
    Inner region c ∧ Inner region c'

theorem Hides.utf8Size_eq (hides : Hides depth front c c' rest) : c'.utf8Size = c.utf8Size := by
  obtain ⟨region, -, inner, inner'⟩ := hides
  rw [inner.utf8Size, inner'.utf8Size]

/-! ### The modes of hidden characters -/

/-- **The modes in which hidden characters are read**, with what is known of both characters there. -/
inductive Secret (c c' : Char) : Mode → Prop
  | comment (outer : Nat) (closed : Closed c) (closed' : Closed c') : Secret c c' (.comment outer)
  | literal (plain : c ≠ '"' ∧ c ≠ '\\') (plain' : c' ≠ '"' ∧ c' ≠ '\\') : Secret c c' .literal
  | escape : Secret c c' .escape

/-- The second character of a delimiter that a mode is in the middle of. -/
def Mode.awaited? : Mode → Option Char
  | .opening _ => some '-'
  | .closing _ => some '/'
  | .code | .literal | .escape | .comment _ | .remark => none

/-- A delimiter is entered only when its second character follows. -/
theorem next_of_awaited? {next : Option Char} (awaits : (mode.step c next).2.awaited? = some d) :
    next = some d := by
  cases mode with
  | code =>
    rw [Mode.step] at awaits
    split at awaits
    · cases awaits
    · split at awaits
      · next opens => exact opens.2.trans awaits
      · split at awaits <;> cases awaits
  | comment outer =>
    rw [Mode.step] at awaits
    split at awaits
    · next opens => exact opens.2.trans awaits
    · split at awaits
      · next closes => exact closes.2.trans awaits
      · cases awaits
  | literal =>
    rw [Mode.step] at awaits
    repeat' split at awaits
    all_goals cases awaits
  | closing outer => cases outer <;> cases awaits
  | escape => cases awaits
  | opening outer => cases awaits
  | remark => cases awaits

/-- Behind a front part, a delimiter goes on with its second character. -/
theorem head?_of_awaited? (ready : ∀ d, mode.awaited? = some d → (front ++ t).head? = some d)
    (awaits : (mode.through front t).awaited? = some d) : t.head? = some d := by
  induction front generalizing mode with
  | nil => exact ready d awaits
  | cons x front ih => exact ih (fun d => next_of_awaited?) awaits

/-- In a block comment, only its first slash is read in another mode than those of comments. -/
theorem mode_of_comment {next : Option Char} (slash : c ≠ '/')
    (comment : (mode.step c next).1 = .comment) :
    ∃ outer, mode = .comment outer ∨ mode = .opening outer ∨ mode = .closing outer := by
  cases mode with
  | comment outer => exact ⟨outer, .inl rfl⟩
  | opening outer => exact ⟨outer, .inr (.inl rfl)⟩
  | closing outer => exact ⟨outer, .inr (.inr rfl)⟩
  | code =>
    rw [Mode.step] at comment
    split at comment
    · cases comment
    · split at comment
      · next opens => exact absurd opens.1 slash
      · split at comment <;> cases comment
  | literal =>
    rw [Mode.step] at comment
    repeat' split at comment
    all_goals cases comment
  | escape => cases comment
  | remark => cases comment

/-- In a string literal, only its first quote is read in another mode than those of literals. -/
theorem mode_of_literal {next : Option Char} (quote : c ≠ '"')
    (literal : (mode.step c next).1 = .literal) : mode = .literal ∨ mode = .escape := by
  cases mode with
  | literal => exact .inl rfl
  | escape => exact .inr rfl
  | code =>
    rw [Mode.step, if_neg quote] at literal
    repeat' split at literal
    all_goals cases literal
  | comment outer =>
    rw [Mode.step] at literal
    repeat' split at literal
    all_goals cases literal
  | opening outer => cases literal
  | closing outer => cases literal
  | remark => cases literal

/-- **Hidden characters are read in a mode of their own.** -/
theorem secret_of_hides (hides : Hides depth front c c' rest) :
    Secret c c' ((Mode.atDepth depth).through front (c :: rest)) := by
  obtain ⟨region, marked, ⟨-, -, inner⟩, -, -, inner'⟩ := hides
  have ready : ∀ d, (Mode.atDepth depth).awaited? = some d → (front ++ c :: rest).head? = some d := by
    intro d awaits
    cases depth <;> cases awaits
  have complete : ∀ d, ((Mode.atDepth depth).through front (c :: rest)).awaited? = some d → c = d :=
    fun d awaits => Option.some.inj (head?_of_awaited? ready awaits)
  have length : (marksBefore (.atDepth depth) front (c :: rest)).length = front.length := by
    rw [← List.length_map (f := Prod.fst), map_fst_marksBefore]
  rw [marks_append, List.getElem?_append_right (Nat.le_of_eq length), length, Nat.sub_self] at marked
  generalize (Mode.atDepth depth).through front (c :: rest) = mode at marked complete ⊢
  have here : (mode.step c rest.head?).1 = region := congrArg Prod.snd (Option.some.inj marked)
  rcases inner with ⟨rfl, closed⟩ | ⟨rfl, plain⟩
  · have closed' : Closed c' := by simpa [Closed] using inner'
    obtain ⟨outer, rfl | rfl | rfl⟩ := mode_of_comment closed.2 here
    · exact .comment outer closed closed'
    · exact absurd (complete '-' rfl) closed.1
    · exact absurd (complete '/' rfl) closed.2
  · have plain' : c' ≠ '"' ∧ c' ≠ '\\' := by simpa using inner'
    rcases mode_of_literal plain.1 here with rfl | rfl
    · exact .literal plain plain'
    · exact .escape

namespace Secret

/-- Both characters are read alike. -/
theorem step_eq (secret : Secret c c' mode) (next : Option Char) :
    mode.step c' next = mode.step c next := by
  cases secret with
  | comment outer closed closed' => simp [Mode.step, closed.1, closed.2, closed'.1, closed'.2]
  | literal plain plain' => simp [Mode.step, plain.1, plain.2, plain'.1, plain'.2]
  | escape => rfl

/-- Behind a hidden character nothing but a comment or a literal goes on. -/
theorem step_cases (secret : Secret c c' mode) (next : Option Char) :
    (∃ outer, mode.step c next = (.comment, .comment outer)) ∨
      mode.step c next = (.literal, .literal) := by
  cases secret with
  | comment outer closed closed' => exact .inl ⟨outer, by simp [Mode.step, closed.1, closed.2]⟩
  | literal plain plain' => exact .inr (by simp [Mode.step, plain.1, plain.2])
  | escape => exact .inr rfl

/-- The character in front of a hidden one does not tell it from the other. -/
theorem step_before {x : Char} (secret : Secret c c' (mode.step x (some c)).2) :
    mode.step x (some c') = mode.step x (some c) := by
  cases mode with
  | code =>
    by_cases quote : x = '"'
    · subst quote
      rfl
    · -- Neither code nor the beginning of a delimiter hides what follows.
      exfalso
      rw [Mode.step, if_neg quote] at secret
      repeat' split at secret
      all_goals cases secret
  | comment outer =>
    rw [Mode.step] at secret
    split at secret
    · cases secret
    · split at secret
      · cases secret
      · next opens closes =>
        cases secret with
        | comment outer closed closed' =>
          simp [Mode.step, closed.1, closed.2, closed'.1, closed'.2]
  | literal => rfl
  | escape => rfl
  | opening outer => rfl
  | closing outer => rfl
  | remark => rfl

/-- No character in front of a hidden one tells it from the other. -/
theorem step_in_front {x : Char} (secret : Secret c c' (mode.through (x :: front) (c :: rest))) :
    mode.step x (front ++ c' :: rest).head? = mode.step x (front ++ c :: rest).head? := by
  cases front with
  | nil => exact step_before secret
  | cons y front => rfl

/-- **What stands in front of a hidden character is read alike.** -/
theorem marksBefore_eq (secret : Secret c c' (mode.through front (c :: rest))) :
    marksBefore mode front (c' :: rest) = marksBefore mode front (c :: rest) ∧
      mode.through front (c' :: rest) = mode.through front (c :: rest) := by
  induction front generalizing mode with
  | nil => exact ⟨rfl, rfl⟩
  | cons x front ih =>
    obtain ⟨marked, through⟩ := ih secret
    unfold marksBefore Mode.through
    rw [secret.step_in_front]
    exact ⟨congrArg _ marked, through⟩

theorem marks_eq (secret : Secret c c' (mode.through front (c :: rest))) :
    ∃ region later, region ≠ .code ∧ region ≠ .remark ∧
      (∀ mark, later.head? = some mark → mark.2 ≠ .code) ∧
      marks mode (front ++ c :: rest) = marksBefore mode front (c :: rest) ++ (c, region) :: later ∧
      marks mode (front ++ c' :: rest) = marksBefore mode front (c :: rest) ++ (c', region) :: later := by
  obtain ⟨marked, through⟩ := secret.marksBefore_eq
  refine ⟨_, marks _ rest, ?_, ?_, ?_, marks_append .., ?_⟩
  · rcases secret.step_cases rest.head? with ⟨outer, step⟩ | step <;> rw [step] <;> nofun
  · rcases secret.step_cases rest.head? with ⟨outer, step⟩ | step <;> rw [step] <;> nofun
  · intro mark first
    cases rest with
    | nil => cases first
    | cons x rest =>
      cases first
      intro coded
      have mode := eq_code_of_step coded
      rcases secret.step_cases (x :: rest).head? with ⟨outer, step⟩ | step
      · rw [step] at mode
        cases mode
      · rw [step] at mode
        cases mode
  · rw [marks_append, marked, through, marks, secret.step_eq]

theorem after_eq (secret : Secret c c' (mode.through front (c :: rest))) :
    mode.after (front ++ c' :: rest) = mode.after (front ++ c :: rest) := by
  rw [after_append, after_append, secret.marksBefore_eq.2, Mode.after, Mode.after, secret.step_eq]

end Secret

/-! ### Placeholders -/

/-- Only a slash or a quote leads from code into a comment or a literal. -/
theorem through_of_plain (slash : '/' ∉ front) (quote : '"' ∉ front)
    (outside : mode = .code ∨ mode = .remark) (t : Text) :
    mode.through front t = .code ∨ mode.through front t = .remark := by
  induction front generalizing mode with
  | nil => exact outside
  | cons x front ih =>
    refine ih (fun member => slash (List.mem_cons_of_mem _ member))
      (fun member => quote (List.mem_cons_of_mem _ member)) ?_
    have other : x ≠ '/' ∧ x ≠ '"' :=
      ⟨fun same => slash (by simp [same]), fun same => quote (by simp [same])⟩
    rcases outside with rfl | rfl
    · rw [Mode.step, if_neg other.2, if_neg fun opens : x = '/' ∧ _ => other.1 opens.1]
      split
      · exact .inr rfl
      · exact .inl rfl
    · exact .inr rfl

/-- **A slash or a quote stands between code and a hidden character.** -/
theorem Secret.delimiter_mem (secret : Secret c c' (Mode.code.through front (c :: rest))) :
    '/' ∈ front ∨ '"' ∈ front := by
  by_cases slash : '/' ∈ front
  · exact .inl slash
  · by_cases quote : '"' ∈ front
    · exact .inr quote
    · rcases through_of_plain slash quote (.inl rfl) (c :: rest) with mode | mode <;>
        rw [mode] at secret <;> cases secret

/-- Whatever is read as code leaves code to be read. -/
theorem step_eq_of_code {next : Option Char} (region : (mode.step c next).1 = .code) :
    mode.step c next = (.code, .code) := by
  obtain rfl := eq_code_of_step region
  rw [Mode.step] at region ⊢
  split
  · next remark => simp [remark] at region
  · split
    · next opens => simp [opens] at region
    · split
      · next quote => simp [quote] at region
      · rfl

/-- What stands in front of anything but code does not matter to the placeholders. -/
theorem placeholderColumns_of_head? {marked : List (Char × Region)}
    (uncoded : ∀ mark, marked.head? = some mark → mark.2 ≠ .code) (before before' : Option Char)
    (start : Nat) :
    placeholderColumns before start marked = placeholderColumns before' start marked := by
  cases marked with
  | nil => rfl
  | cons mark marked =>
    have other := uncoded mark rfl
    rw [placeholderColumns, placeholderColumns, if_neg fun both => other both.1,
      if_neg fun both => other both.1]

/-- **A hidden character does not matter to the placeholders** of its line. -/
theorem Secret.placeholderColumns_eq (secret : Secret c c' (mode.through front (c :: rest)))
    (sized : c'.utf8Size = c.utf8Size) (before : Option Char) (start : Nat) :
    placeholderColumns before start (marks mode (front ++ c' :: rest)) =
      placeholderColumns before start (marks mode (front ++ c :: rest)) := by
  induction front generalizing mode before start with
  | nil =>
    obtain ⟨region, later, uncoded, -, silent, marked, marked'⟩ := secret.marks_eq
    rw [marked, marked']
    show placeholderColumns before start ((c', region) :: later) =
      placeholderColumns before start ((c, region) :: later)
    rw [placeholderColumns, placeholderColumns, if_neg fun both => uncoded both.1,
      if_neg fun both => uncoded both.1, sized]
    exact placeholderColumns_of_head? silent ..
  | cons x front ih =>
    have later := ih secret (some x) (start + x.utf8Size)
    rw [List.cons_append, List.cons_append, marks, marks, secret.step_in_front, placeholderColumns,
      placeholderColumns, later]
    simp only [List.map_take, List.map_cons, map_fst_marks, beginsPlaceholder_take]
    by_cases region : (mode.step x (front ++ c :: rest).head?).1 = .code
    · -- The word would end before the delimiter, so it does not reach the hidden character.
      have secret : Secret c c' ((mode.step x (front ++ c :: rest).head?).2.through front (c :: rest)) :=
        secret
      rw [step_eq_of_code region] at secret
      have reach : ∀ d ∈ front, bounds (some d) = true →
          beginsPlaceholder before (x :: (front ++ c' :: rest)) =
            beginsPlaceholder before (x :: (front ++ c :: rest)) := by
        intro d member bound
        obtain ⟨first, last, rfl⟩ := List.append_of_mem member
        have cut : ∀ e, beginsPlaceholder before (x :: (first ++ d :: last ++ e :: rest)) =
            beginsPlaceholder before (x :: first) := by
          intro e
          have whole : x :: (first ++ d :: last ++ e :: rest) =
              (x :: first) ++ d :: (last ++ e :: rest) := by simp
          rw [whole]
          exact beginsPlaceholder_append (List.cons_ne_nil x first) (.inr bound)
        rw [cut, cut]
      have begins : beginsPlaceholder before (x :: (front ++ c' :: rest)) =
          beginsPlaceholder before (x :: (front ++ c :: rest)) := by
        rcases secret.delimiter_mem with slash | quote
        · exact reach '/' slash (by decide)
        · exact reach '"' quote (by decide)
      rw [begins]
    · rw [if_neg fun both => region both.1, if_neg fun both => region both.1]

/-! ### The scan of the line -/

theorem through_remark (front t : Text) : Mode.remark.through front t = .remark := by
  induction front with
  | nil => rfl
  | cons x front ih => exact ih

/-- No remark stands in front of what is no remark. -/
theorem ne_remark_of_through (other : mode.through front t ≠ .remark) :
    ∀ mark ∈ marksBefore mode front t, mark.2 ≠ .remark := by
  induction front generalizing mode with
  | nil => nofun
  | cons x front ih =>
    intro mark member
    rcases List.mem_cons.1 member with rfl | later
    · intro region
      apply other
      have remark : (mode.step x (front ++ t).head?).2 = .remark := by
        by_cases already : mode = .remark
        · rw [already]
          rfl
        · obtain ⟨rfl, rfl, next⟩ := begins_of_step already region
          rw [next]
          rfl
      rw [Mode.through, remark, through_remark]
    · exact ih other mark later

/-- Blanks end no comment and no literal. -/
theorem through_blank {blanks : Text} (blank : Text.allBlank blanks = true)
    (inside : (∃ outer, mode = .comment outer) ∨ mode = .literal) (t : Text) :
    mode.through blanks t = mode := by
  induction blanks with
  | nil => rfl
  | cons b blanks ih =>
    rw [Text.allBlank, List.all_cons, Bool.and_eq_true] at blank
    have apart : ∀ x, Text.isBlank x = false → b ≠ x := by
      rintro x visible rfl
      rw [blank.1] at visible
      cases visible
    have step : (mode.step b (blanks ++ t).head?).2 = mode := by
      rcases inside with ⟨outer, rfl⟩ | rfl
      · rw [Mode.step, if_neg fun opens => apart '/' (by decide) opens.1,
          if_neg fun closes => apart '-' (by decide) closes.1]
      · rw [Mode.step, if_neg (apart '\\' (by decide)), if_neg (apart '"' (by decide))]
    rw [Mode.through, step]
    exact ih blank.2

/-- **Two scans that differ in one character of the code.** -/
structure LineScan.Exchanged (scan scan' : LineScan) (front : Text) (c c' : Char) (behind : Text) :
    Prop where
  code : scan.code = front ++ c :: behind
  code' : scan'.code = front ++ c' :: behind
  sorries : scan'.sorries = scan.sorries
  hasCode : scan'.hasCode = scan.hasCode
  depth : scan'.depth = scan.depth

/-- **The scan of a line with a hidden character exchanged** differs in this character of the code and in
nothing else. When only blanks of the code stand behind the character, the code goes on to the end of the
line. -/
theorem scanLine_exchange (hides : Hides depth front c c' rest) :
    ∃ behind, (scanLine depth (front ++ c :: rest)).Exchanged (scanLine depth (front ++ c' :: rest))
        front c c' behind ∧ behind <+: rest ∧ (Text.allBlank behind = true → behind = rest) := by
  have secret := secret_of_hides hides
  have sized := hides.utf8Size_eq
  obtain ⟨region, later, uncoded, unremarked, -, marked, marked'⟩ := secret.marks_eq
  have other : (Mode.atDepth depth).through front (c :: rest) ≠ .remark := by
    intro remark
    rw [remark] at secret
    cases secret
  have visible := ne_remark_of_through other
  let behind := (later.takeWhile fun mark => mark.2 ≠ .remark).map Prod.fst
  -- Both codes go on behind the character in the same way.
  have code : ∀ x, marks (.atDepth depth) (front ++ x :: rest) =
      marksBefore (.atDepth depth) front (c :: rest) ++ (x, region) :: later →
        (scanLine depth (front ++ x :: rest)).code = front ++ x :: behind := by
    intro x marked
    show ((marks (.atDepth depth) (front ++ x :: rest)).takeWhile fun mark =>
      mark.2 ≠ .remark).map Prod.fst = _
    rw [marked, List.takeWhile_append_of_pos fun mark member => by simpa using visible mark member,
      List.takeWhile_cons_of_pos (by simpa using unremarked), List.map_append, map_fst_marksBefore]
    rfl
  have solid : isSolid (c', region) = isSolid (c, region) := by
    cases region with
    | code => exact absurd rfl uncoded
    | literal => rfl
    | comment => rfl
    | remark => rfl
  have hasCode : (scanLine depth (front ++ c' :: rest)).hasCode =
      (scanLine depth (front ++ c :: rest)).hasCode := by
    show (marks _ (front ++ c' :: rest)).any isSolid = (marks _ (front ++ c :: rest)).any isSolid
    rw [marked, marked', List.any_append, List.any_append, List.any_cons, List.any_cons, solid]
  have sorries : (scanLine depth (front ++ c' :: rest)).sorries =
      (scanLine depth (front ++ c :: rest)).sorries := secret.placeholderColumns_eq sized none 0
  have ends : (scanLine depth (front ++ c' :: rest)).depth =
      (scanLine depth (front ++ c :: rest)).depth := congrArg Mode.depth secret.after_eq
  obtain ⟨remark, split⟩ := codeSplit_scanLine depth (front ++ c :: rest)
  rw [code c marked] at split
  have whole : rest = behind ++ remark := by simpa using split.whole
  refine ⟨behind, ⟨code c marked, code c' marked', sorries, hasCode, ends⟩, ⟨remark, whole.symm⟩,
    fun blank => ?_⟩
  rcases split.begins with rfl | ⟨-, coded⟩
  · rw [whole, List.append_nil]
  · -- A remark would begin inside the comment or the literal.
    exfalso
    rw [through_append, List.cons_append, ← whole, Mode.through, ← whole] at coded
    rcases secret.step_cases rest.head? with ⟨outer, step⟩ | step
    · rw [step, through_blank blank (.inl ⟨outer, rfl⟩)] at coded
      cases coded
    · rw [step, through_blank blank (.inr rfl)] at coded
      cases coded

end Source
end ProofDesk
