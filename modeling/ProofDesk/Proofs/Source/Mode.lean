import ProofDesk.Proofs.Source.Placeholder

/-!
# Reading a line in parts

A line is read from left to right, so a front part of it is read before the rest. Of the rest it
sees one character, and that only behind a hyphen or a slash, which may begin a delimiter.

* `Mode.through` and `marksBefore` — the mode after a front part, and the regions of its characters.
* `marks_append` — the regions of a line are those of its front part and those of the rest.
* `marksBefore_congr` — a front part that ends in another character is read alike before any rest.
* `marksBefore_code` — text without quotes and openings is code when it begins in code.
* `CodeSplit` — a line cut where its remark begins; `codeSplit_scanLine` says that the scan cuts it
  there, and `CodeSplit.code_eq` that there is no other such cut.
* `exists_code_of_mem_sorries` — a placeholder lies in the code of its line.
-/

namespace ProofDesk
namespace Source

variable {mode : Mode} {front rest line code remark t : Text} {c : Char} {depth column : Nat}

/-! ### Front parts -/

/-- The mode after a front part of a line, the rest of the line standing behind it. -/
def Mode.through : Mode → (front rest : Text) → Mode
  | mode, [], _ => mode
  | mode, c :: front, rest => (mode.step c (front ++ rest).head?).2.through front rest

/-- The characters of a front part with their regions, the rest of the line standing behind it. -/
def marksBefore : Mode → (front rest : Text) → List (Char × Region)
  | _, [], _ => []
  | mode, c :: front, rest =>
    (c, (mode.step c (front ++ rest).head?).1) ::
      marksBefore (mode.step c (front ++ rest).head?).2 front rest

/-- **The regions of a line** are those of a front part and those of the rest. -/
theorem marks_append (mode : Mode) (front rest : Text) :
    marks mode (front ++ rest) =
      marksBefore mode front rest ++ marks (mode.through front rest) rest := by
  induction front generalizing mode with
  | nil => rfl
  | cons c front ih =>
    rw [List.cons_append, marks, ih]
    rfl

theorem marksBefore_append (mode : Mode) (front middle rest : Text) :
    marksBefore mode (front ++ middle) rest =
      marksBefore mode front (middle ++ rest) ++
        marksBefore (mode.through front (middle ++ rest)) middle rest := by
  induction front generalizing mode with
  | nil => rfl
  | cons c front ih =>
    rw [List.cons_append, marksBefore, ih, List.append_assoc]
    rfl

theorem through_append (mode : Mode) (front middle rest : Text) :
    mode.through (front ++ middle) rest =
      (mode.through front (middle ++ rest)).through middle rest := by
  induction front generalizing mode with
  | nil => rfl
  | cons c front ih =>
    rw [List.cons_append, Mode.through, ih, List.append_assoc]
    rfl

@[simp] theorem map_fst_marksBefore (mode : Mode) (front rest : Text) :
    (marksBefore mode front rest).map Prod.fst = front := by
  induction front generalizing mode with
  | nil => rfl
  | cons c front ih => exact congrArg (c :: ·) (ih _)

/-! ### What a front part sees of the rest -/

/-- The character begins no delimiter of two characters. -/
def Closed (c : Char) : Prop := c ≠ '-' ∧ c ≠ '/'

theorem closed_of_isBlank (blank : Text.isBlank c = true) : Closed c := by
  constructor <;> rintro rfl <;> exact absurd blank (by decide)

theorem closed_of_allBlank (blank : Text.allBlank t = true) : ∀ c ∈ t, Closed c := fun c member =>
  closed_of_isBlank (List.all_eq_true.1 blank c member)

theorem unquoted_of_allBlank (blank : Text.allBlank t = true) : '"' ∉ t := fun member =>
  absurd (List.all_eq_true.1 blank '"' member) (by decide)

/-- Only a hyphen or a slash is read with a look at the next character. -/
theorem step_congr (closed : Closed c) (next next' : Option Char) :
    mode.step c next = mode.step c next' := by
  obtain ⟨hyphen, slash⟩ := closed
  cases mode <;> simp [Mode.step, hyphen, slash]

/-- **A front part that ends in another character** is read alike before any rest. -/
theorem marksBefore_congr (closed : ∀ c, front.getLast? = some c → Closed c) (rest rest' : Text) :
    marksBefore mode front rest = marksBefore mode front rest' ∧
      mode.through front rest = mode.through front rest' := by
  induction front generalizing mode with
  | nil => exact ⟨rfl, rfl⟩
  | cons c front ih =>
    have step : mode.step c (front ++ rest).head? = mode.step c (front ++ rest').head? := by
      cases front with
      | nil => exact step_congr (closed c rfl) _ _
      | cons d front => rfl
    have later : ∀ d, front.getLast? = some d → Closed d := by
      intro d last
      apply closed
      rw [List.getLast?_cons, last]
      rfl
    unfold marksBefore Mode.through
    rw [step]
    exact ⟨congrArg _ (ih later).1, (ih later).2⟩

/-- Two characters in a row, the second of which stands where the text goes on. -/
theorem pair_infix_of_head? {d : Char} (next : (t ++ rest).head? = some d) :
    [c, d] <:+: c :: t ++ rest.take 1 := by
  cases t with
  | nil =>
    obtain ⟨others, rfl⟩ := List.head?_eq_some_iff.1 next
    exact ⟨[], [], rfl⟩
  | cons x t =>
    obtain rfl : x = d := Option.some.inj next
    exact ⟨[], t ++ rest.take 1, rfl⟩

/-- **Text without quotes and openings stays code.** The first character behind it must not complete
an opening. -/
theorem marksBefore_code (unquoted : '"' ∉ t) (noRemark : ¬ ['-', '-'] <:+: t ++ rest.take 1)
    (noComment : ¬ ['/', '-'] <:+: t ++ rest.take 1) :
    marksBefore .code t rest = t.map (·, .code) ∧ Mode.through .code t rest = .code := by
  induction t with
  | nil => exact ⟨rfl, rfl⟩
  | cons c t ih =>
    have step : Mode.step .code c (t ++ rest).head? = (.code, .code) := by
      have quote : c ≠ '"' := fun same => unquoted (by simp [same])
      -- With the next character, an opening would stand at the beginning of the text.
      have hyphens : ¬ (c = '-' ∧ (t ++ rest).head? = some '-') := by
        rintro ⟨rfl, next⟩
        exact noRemark (pair_infix_of_head? next)
      have slash : ¬ (c = '/' ∧ (t ++ rest).head? = some '-') := by
        rintro ⟨rfl, next⟩
        exact noComment (pair_infix_of_head? next)
      rw [Mode.step, if_neg hyphens, if_neg slash, if_neg quote]
    have inside : ∀ pattern : Text, pattern <:+: t ++ rest.take 1 →
        pattern <:+: c :: t ++ rest.take 1 := fun pattern occurs =>
      occurs.trans (List.suffix_cons ..).isInfix
    obtain ⟨marked, mode⟩ := ih (fun member => unquoted (List.mem_cons_of_mem _ member))
      (fun occurs => noRemark (inside _ occurs)) (fun occurs => noComment (inside _ occurs))
    unfold marksBefore Mode.through
    rw [step, marked, mode]
    exact ⟨rfl, rfl⟩

/-- The number of block comments that are open behind lines. -/
def depthAfter : Nat → List Text → Nat
  | depth, [] => depth
  | depth, line :: rest => depthAfter (scanLine depth line).depth rest

/-! ### Where the remark begins -/

/-- **A line cut where its remark begins**: there is no remark before, and the rest is empty or begins
in code with two hyphens. -/
structure CodeSplit (depth : Nat) (line code remark : Text) : Prop where
  whole : line = code ++ remark
  visible : ∀ mark ∈ marksBefore (.atDepth depth) code remark, mark.2 ≠ .remark
  begins : remark = [] ∨
    (∃ tail, remark = '-' :: '-' :: tail) ∧ Mode.through (.atDepth depth) code remark = .code

theorem ne_remark_atDepth (depth : Nat) : Mode.atDepth depth ≠ .remark := by
  cases depth <;> nofun

/-- A mode that is no remark gives the first character of a remark only to two hyphens in code. -/
theorem begins_of_step (other : mode ≠ .remark) {next : Option Char}
    (region : (mode.step c next).1 = .remark) : mode = .code ∧ c = '-' ∧ next = some '-' := by
  cases mode with
  | code =>
    rw [Mode.step] at region
    split at region
    · next both => exact ⟨rfl, both⟩
    · repeat' split at region
      all_goals cases region
  | literal =>
    rw [Mode.step] at region
    repeat' split at region
    all_goals cases region
  | comment outer =>
    rw [Mode.step] at region
    repeat' split at region
    all_goals cases region
  | remark => exact absurd rfl other
  | escape => cases region
  | opening outer => cases region
  | closing outer => cases region

theorem ne_remark_of_step {next : Option Char} (region : (mode.step c next).1 ≠ .remark) :
    (mode.step c next).2 ≠ .remark := by
  cases mode with
  | code =>
    rw [Mode.step] at region ⊢
    split
    · next both => simp [both] at region
    · repeat' split
      all_goals nofun
  | literal =>
    rw [Mode.step]
    repeat' split
    all_goals nofun
  | comment outer =>
    rw [Mode.step]
    repeat' split
    all_goals nofun
  | remark => exact absurd rfl region
  | closing outer => exact ne_remark_atDepth outer
  | escape => nofun
  | opening outer => nofun

theorem marks_remark (t : Text) : marks .remark t = t.map (·, .remark) := by
  induction t with
  | nil => rfl
  | cons c t ih => exact congrArg ((c, .remark) :: ·) ih

/-- Two hyphens in code make all that follows a remark. -/
theorem marks_hyphens (tail : Text) :
    marks .code ('-' :: '-' :: tail) = ('-' :: '-' :: tail).map (·, .remark) :=
  congrArg (fun later => ('-', Region.remark) :: later) (marks_remark ('-' :: tail))

theorem exists_split_of_marks (other : mode ≠ .remark) (line : Text) :
    ∃ code remark, line = code ++ remark ∧
      ((marks mode line).takeWhile fun mark => mark.2 ≠ .remark).map Prod.fst = code ∧
      (∀ mark ∈ marksBefore mode code remark, mark.2 ≠ .remark) ∧
      (remark = [] ∨ (∃ tail, remark = '-' :: '-' :: tail) ∧ mode.through code remark = .code) := by
  induction line generalizing mode with
  | nil => exact ⟨[], [], rfl, rfl, nofun, .inl rfl⟩
  | cons c line ih =>
    by_cases region : (mode.step c line.head?).1 = .remark
    · obtain ⟨rfl, rfl, next⟩ := begins_of_step other region
      obtain ⟨tail, rfl⟩ := List.head?_eq_some_iff.1 next
      refine ⟨[], '-' :: '-' :: tail, rfl, ?_, nofun, .inr ⟨⟨tail, rfl⟩, rfl⟩⟩
      rw [marks_hyphens]
      rfl
    · obtain ⟨code, remark, rfl, taken, visible, begins⟩ := ih (ne_remark_of_step region)
      refine ⟨c :: code, remark, rfl, ?_, ?_, begins⟩
      · have solid : decide ((mode.step c (code ++ remark).head?).1 ≠ .remark) = true :=
          decide_eq_true region
        rw [marks, List.takeWhile_cons, if_pos solid, List.map_cons, taken]
      · intro mark member
        rcases List.mem_cons.1 member with rfl | later
        · exact region
        · exact visible mark later

/-- **The scan of a line cuts it where its remark begins.** -/
theorem codeSplit_scanLine (depth : Nat) (line : Text) :
    ∃ remark, CodeSplit depth line (scanLine depth line).code remark := by
  obtain ⟨code, remark, whole, taken, visible, begins⟩ :=
    exists_split_of_marks (ne_remark_atDepth depth) line
  have same : (scanLine depth line).code = code := taken
  rw [same]
  exact ⟨remark, whole, visible, begins⟩

/-- **There is no other cut**: the code of a scanned line is what stands before its remark. -/
theorem CodeSplit.code_eq (split : CodeSplit depth line code remark) :
    (scanLine depth line).code = code := by
  show ((marks (.atDepth depth) line).takeWhile fun mark => mark.2 ≠ .remark).map Prod.fst = code
  have visible : ∀ mark ∈ marksBefore (.atDepth depth) code remark, decide (mark.2 ≠ .remark) = true :=
    fun mark member => by simpa using split.visible mark member
  rw [split.whole, marks_append, List.takeWhile_append_of_pos visible]
  have nothing : (marks (Mode.through (.atDepth depth) code remark) remark).takeWhile
      (fun mark => mark.2 ≠ .remark) = [] := by
    rcases split.begins with rfl | ⟨⟨tail, rfl⟩, mode⟩
    · rfl
    · rw [mode]
      rfl
  rw [nothing, List.append_nil, map_fst_marksBefore]

/-- A front part without a remark belongs to the code of its line. -/
theorem exists_code_eq_append
    (visible : ∀ mark ∈ marksBefore (.atDepth depth) front rest, mark.2 ≠ .remark) :
    ∃ more, (scanLine depth (front ++ rest)).code = front ++ more := by
  show ∃ more, ((marks (.atDepth depth) (front ++ rest)).takeWhile fun mark =>
    mark.2 ≠ .remark).map Prod.fst = front ++ more
  have visible : ∀ mark ∈ marksBefore (.atDepth depth) front rest, decide (mark.2 ≠ .remark) = true :=
    fun mark member => by simpa using visible mark member
  rw [marks_append, List.takeWhile_append_of_pos visible, List.map_append, map_fst_marksBefore]
  exact ⟨_, rfl⟩

/-- Behind code, a slash and a hyphen begin a block comment, which belongs to the code of the line. -/
theorem exists_code_of_slash {more : Text}
    (visible : ∀ mark ∈ marksBefore (.atDepth depth) front ('/' :: '-' :: more), mark.2 ≠ .remark)
    (coded : Mode.through (.atDepth depth) front ('/' :: '-' :: more) = .code) :
    ∃ extra, (scanLine depth (front ++ '/' :: '-' :: more)).code = front ++ '/' :: '-' :: extra := by
  have comment : ∀ mark ∈ marksBefore (.atDepth depth) (front ++ ['/', '-']) more,
      mark.2 ≠ .remark := by
    intro mark member
    rw [marksBefore_append] at member
    rcases List.mem_append.1 member with before | opening
    · exact visible mark before
    · rw [List.cons_append, List.singleton_append, coded] at opening
      rcases List.mem_cons.1 opening with rfl | opening
      · nofun
      · rw [List.mem_singleton.1 opening]
        nofun
  obtain ⟨extra, code⟩ := exists_code_eq_append comment
  refine ⟨extra, ?_⟩
  rw [List.append_assoc, List.append_assoc] at code
  exact code

/-! ### Placeholders -/

theorem placeholderColumns_eq_nil {silent : List (Char × Region)}
    (uncoded : ∀ mark ∈ silent, mark.2 ≠ .code) (before : Option Char) (start : Nat) :
    placeholderColumns before start silent = [] := by
  induction silent generalizing before start with
  | nil => rfl
  | cons mark silent ih =>
    have here := uncoded mark (List.mem_cons_self ..)
    rw [placeholderColumns, if_neg fun both => here both.1]
    exact ih (fun later member => uncoded later (List.mem_cons_of_mem _ member)) _ _

/-- No placeholder begins in marks that are not code. -/
theorem lt_size_of_mem_placeholderColumns {marked silent : List (Char × Region)}
    (uncoded : ∀ mark ∈ silent, mark.2 ≠ .code) {before : Option Char} {start : Nat}
    (member : column ∈ placeholderColumns before start (marked ++ silent)) :
    column < start + Text.size (marked.map Prod.fst) := by
  induction marked generalizing before start with
  | nil =>
    rw [List.nil_append, placeholderColumns_eq_nil uncoded] at member
    cases member
  | cons mark marked ih =>
    obtain ⟨c, region⟩ := mark
    have wide := c.utf8Size_pos
    rw [List.cons_append, placeholderColumns] at member
    show column < start + (c.utf8Size + Text.size (marked.map Prod.fst))
    split at member
    · rcases List.mem_cons.1 member with rfl | later
      · omega
      · have := ih later
        omega
    · have := ih member
      omega

/-- **A placeholder lies in the code of its line.** -/
theorem exists_code_of_mem_sorries (member : column ∈ (scanLine depth line).sorries) :
    ∃ front behind, (scanLine depth line).code = front ++ sorryWord ++ behind ∧
      column = Text.size front := by
  obtain ⟨remark, split⟩ := codeSplit_scanLine depth line
  obtain ⟨front, behind, text, place, -, -⟩ := mem_placeholderColumns member
  rw [map_fst_marks] at text
  generalize (scanLine depth line).code = code at split ⊢
  -- The word begins in the code, as the remark has none.
  have early : column < Text.size code := by
    have regions : ∀ mark ∈ marks (Mode.through (.atDepth depth) code remark) remark,
        mark.2 ≠ .code := by
      rcases split.begins with rfl | ⟨⟨tail, rfl⟩, mode⟩
      · nofun
      · rw [mode, marks_hyphens]
        intro mark member
        obtain ⟨c, -, rfl⟩ := List.mem_map.1 member
        nofun
    have found : column ∈ placeholderColumns none 0 (marks (.atDepth depth) line) := member
    rw [split.whole, marks_append] at found
    have bound := lt_size_of_mem_placeholderColumns regions found
    rwa [map_fst_marksBefore, Nat.zero_add] at bound
  -- And it ends there, as it has no hyphen.
  have cut := text.symm.trans split.whole
  rw [List.append_assoc] at cut
  rcases List.append_eq_append_iff.1 cut with ⟨more, rfl, reaches⟩ | ⟨gap, rfl, -⟩
  · refine ⟨front, ?_⟩
    rcases List.append_eq_append_iff.1 reaches with ⟨last, rfl, -⟩ | ⟨last, word, rfl⟩
    · exact ⟨last, by rw [List.append_assoc], by omega⟩
    · rcases split.begins with none | ⟨⟨tail, begins⟩, -⟩
      · obtain ⟨rfl, -⟩ := List.append_eq_nil_iff.1 none
        exact ⟨[], by simp [word], by omega⟩
      · cases last with
        | nil => exact ⟨[], by simp [word], by omega⟩
        | cons d last =>
          obtain ⟨rfl, -⟩ := List.cons.inj begins
          have inside : '-' ∈ sorryWord := by simp [word]
          exact absurd inside (by decide)
  · rw [Text.size_append] at place
    omega

end Source
end ProofDesk
