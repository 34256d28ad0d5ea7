import ProofDesk.Proofs.Source.Depth
import ProofDesk.Proofs.Source.Layout

/-!
# Lexemes of a document

A document is a sequence of lexemes: characters of code, remarks up to the end of their line, block
comments, which nest, and string literals, which go on to the next quote that is not escaped. It is a
matter of choice whether a literal goes on over the end of its line as well.

* `Quoted`, `Nested` — the text of a string literal and of block comments.
* `Lexed` — the front of a document is a sequence of whole lexemes.
* `Mode.read` — the mode behind the front of a document, character by character.
* `lexed_iff` — the front is a sequence of whole lexemes exactly when it is read back to code.
-/

namespace ProofDesk
namespace Source

/-- Where a string literal ends that its line does not close. -/
inductive Extent
  /-- With its line. -/
  | line
  /-- With its closing quote, on whatever line. -/
  | quote
  deriving DecidableEq

/-- Literals that go on to their quote may hold line feeds. -/
theorem across {p : Prop} (line : Extent.quote = .line) : p := nomatch line

/-! ### The text of lexemes -/

/-- **The text of a string literal**, without its quotes: a backslash takes the next character with it, and
no other character is a quote. -/
inductive Quoted : Text → Prop
  | nil : Quoted []
  | char {c : Char} {body : Text} (quote : c ≠ '"') (backslash : c ≠ '\\') (later : Quoted body) :
      Quoted (c :: body)
  | escape (c : Char) {body : Text} (later : Quoted body) : Quoted ('\\' :: c :: body)

/-- The text of a string literal that is not closed; the last backslash may have no character to take. -/
def Unclosed (body : Text) : Prop :=
  Quoted body ∨ ∃ shorter, body = shorter ++ ['\\'] ∧ Quoted shorter

/-- **The text that closes `n` block comments**, the last one at its end. -/
inductive Nested : Nat → Text → Prop
  | closed : Nested 0 []
  | opening {n : Nat} {body : Text} (later : Nested (n + 2) body) : Nested (n + 1) ('/' :: '-' :: body)
  | closing {n : Nat} {body : Text} (later : Nested n body) : Nested (n + 1) ('-' :: '/' :: body)
  | char {n : Nat} {c : Char} {body : Text} (opens : ¬ (c = '/' ∧ body.head? = some '-'))
      (closes : ¬ (c = '-' ∧ body.head? = some '/')) (later : Nested (n + 1) body) :
      Nested (n + 1) (c :: body)

/-- **The front of a document is a sequence of whole lexemes**, when `rest` stands behind it. -/
inductive Lexed (extent : Extent) (rest : Text) : Text → Prop
  | nil : Lexed extent rest []
  /-- A character of code, which begins no other lexeme. -/
  | char {c : Char} {front : Text} (remark : ¬ (c = '-' ∧ (front ++ rest).head? = some '-'))
      (comment : ¬ (c = '/' ∧ (front ++ rest).head? = some '-')) (literal : c ≠ '"')
      (later : Lexed extent rest front) : Lexed extent rest (c :: front)
  /-- A remark and the end of its line. -/
  | remark {body front : Text} (single : '\n' ∉ body) (later : Lexed extent rest front) :
      Lexed extent rest ('-' :: '-' :: (body ++ '\n' :: front))
  /-- A block comment. -/
  | comment {body front : Text} (nested : Nested 1 body) (later : Lexed extent rest front) :
      Lexed extent rest ('/' :: '-' :: (body ++ front))
  /-- A string literal. -/
  | literal {body front : Text} (quoted : Quoted body) (within : extent = .line → '\n' ∉ body)
      (later : Lexed extent rest front) : Lexed extent rest ('"' :: (body ++ '"' :: front))
  /-- A string literal that ends with its line. -/
  | cut {body front : Text} (line : extent = .line) (unclosed : Unclosed body) (single : '\n' ∉ body)
      (later : Lexed extent rest front) : Lexed extent rest ('"' :: (body ++ '\n' :: front))

/-! ### Reading a document -/

variable {extent : Extent} {mode : Mode} {front rest rest' body line : Text} {c : Char} {n : Nat}

/-- The mode behind a line feed. -/
def Mode.acrossLine : Extent → Mode → Mode
  | .quote, .literal | .quote, .escape => .literal
  | _, mode => .atDepth mode.depth

/-- The mode behind a character of a document, with `next` behind it. -/
def Mode.readChar (extent : Extent) (mode : Mode) (c : Char) (next : Option Char) : Mode :=
  if c = '\n' then mode.acrossLine extent else (mode.step c next).2

/-- **The mode behind the front of a document**, the rest of it standing behind. -/
def Mode.read (extent : Extent) : Mode → (front rest : Text) → Mode
  | mode, [], _ => mode
  | mode, c :: front, rest => (mode.readChar extent c (front ++ rest).head?).read extent front rest

theorem readChar_newline (extent : Extent) (mode : Mode) (next : Option Char) :
    mode.readChar extent '\n' next = mode.acrossLine extent := if_pos rfl

theorem readChar_of_ne (other : c ≠ '\n') (mode : Mode) (next : Option Char) :
    mode.readChar extent c next = (mode.step c next).2 := if_neg other

/-- A literal that ends with its line leaves no trace. -/
theorem acrossLine_line (mode : Mode) : mode.acrossLine .line = .atDepth mode.depth := by
  cases mode <;> rfl

/-- Outside literals it does not matter how far they go. -/
theorem acrossLine_of_unquoted (unquoted : mode.isQuoted = false) (extent : Extent) :
    mode.acrossLine extent = .atDepth mode.depth := by
  cases extent <;> cases mode <;> first | rfl | cases unquoted

theorem read_append (extent : Extent) (mode : Mode) (front middle rest : Text) :
    mode.read extent (front ++ middle) rest =
      (mode.read extent front (middle ++ rest)).read extent middle rest := by
  induction front generalizing mode with
  | nil => rfl
  | cons c front ih =>
    rw [List.cons_append, Mode.read, ih, List.append_assoc]
    rfl

/-- The reader sees one character of the rest. -/
theorem read_congr (same : rest.head? = rest'.head?) (mode : Mode) (front : Text) :
    mode.read extent front rest = mode.read extent front rest' := by
  induction front generalizing mode with
  | nil => rfl
  | cons c front ih =>
    have next : (front ++ rest).head? = (front ++ rest').head? := by
      cases front with
      | nil => exact same
      | cons d front => rfl
    rw [Mode.read, Mode.read, next]
    exact ih _

/-- Text without line feeds is read as a part of a line. -/
theorem read_of_single (single : '\n' ∉ front) (mode : Mode) (rest : Text) :
    mode.read extent front rest = mode.through front rest := by
  induction front generalizing mode with
  | nil => rfl
  | cons c front ih =>
    rw [List.mem_cons, not_or] at single
    rw [Mode.read, readChar_of_ne (Ne.symm single.1), ih single.2, Mode.through]

/-! ### Whole lexemes are read back to code -/

theorem read_remark (single : '\n' ∉ body) (rest : Text) :
    Mode.remark.read extent (body ++ ['\n']) rest = .code := by
  rw [read_append, read_of_single single, through_remark]
  show Mode.remark.acrossLine extent = .code
  exact acrossLine_of_unquoted rfl extent

theorem Nested.read (nested : Nested n body) (rest : Text) :
    (Mode.atDepth n).read extent body rest = .code := by
  induction nested with
  | closed => rfl
  | opening later ih => exact ih
  | closing later ih => exact ih
  | @char n c body opens closes later ih =>
    have solid : body ≠ [] := by
      rintro rfl
      cases later
    obtain ⟨d, more, rfl⟩ := List.exists_cons_of_ne_nil solid
    have stays : (Mode.comment n).readChar extent c (some d) = .comment n := by
      by_cases newline : c = '\n'
      · rw [newline, readChar_newline]
        exact acrossLine_of_unquoted rfl extent
      · have opens : ¬ (c = '/' ∧ some d = some '-') := opens
        have closes : ¬ (c = '-' ∧ some d = some '/') := closes
        rw [readChar_of_ne newline, Mode.step, if_neg opens, if_neg closes]
    show ((Mode.comment n).readChar extent c (some d)).read extent (d :: more) rest = .code
    rw [stays]
    exact ih

/-- In a literal, a line feed is read like any other character when the literal goes on over it. -/
theorem readChar_literal (inLine : extent = .line → c ≠ '\n') (quote : c ≠ '"') (backslash : c ≠ '\\')
    (next : Option Char) : Mode.literal.readChar extent c next = .literal := by
  by_cases newline : c = '\n'
  · cases extent with
    | line => exact absurd newline (inLine rfl)
    | quote => rw [newline, readChar_newline, Mode.acrossLine]
  · rw [readChar_of_ne newline, Mode.step, if_neg backslash, if_neg quote]

theorem readChar_escape (inLine : extent = .line → c ≠ '\n') (next : Option Char) :
    Mode.escape.readChar extent c next = .literal := by
  by_cases newline : c = '\n'
  · cases extent with
    | line => exact absurd newline (inLine rfl)
    | quote => rw [newline, readChar_newline, Mode.acrossLine]
  · rw [readChar_of_ne newline, Mode.step]

theorem Quoted.read (quoted : Quoted body) (within : extent = .line → '\n' ∉ body) (rest : Text) :
    Mode.literal.read extent body rest = .literal := by
  induction quoted with
  | nil => rfl
  | char quote backslash later ih =>
    simp only [List.mem_cons, not_or] at within
    rw [Mode.read, readChar_literal (fun line => Ne.symm (within line).1) quote backslash]
    exact ih fun line => (within line).2
  | @escape c body later ih =>
    simp only [List.mem_cons, not_or] at within
    show (Mode.escape.readChar extent c _).read extent body rest = .literal
    rw [readChar_escape fun line => Ne.symm (within line).2.1]
    exact ih fun line => (within line).2.2

theorem Unclosed.isQuoted_read (unclosed : Unclosed body) (within : extent = .line → '\n' ∉ body)
    (rest : Text) : (Mode.literal.read extent body rest).isQuoted = true := by
  rcases unclosed with quoted | ⟨shorter, rfl, quoted⟩
  · rw [quoted.read within]
    rfl
  · rw [read_append, quoted.read fun line member => within line (List.mem_append_left _ member)]
    rfl

/-- **Whole lexemes are read back to code.** -/
theorem Lexed.read (lexed : Lexed extent rest front) : Mode.code.read extent front rest = .code := by
  induction lexed with
  | nil => rfl
  | @char c front remark comment literal later ih =>
    have stays : Mode.code.readChar extent c (front ++ rest).head? = .code := by
      by_cases newline : c = '\n'
      · rw [newline, readChar_newline]
        exact acrossLine_of_unquoted rfl extent
      · rw [readChar_of_ne newline, Mode.step, if_neg remark, if_neg comment, if_neg literal]
    rw [Mode.read, stays, ih]
  | @remark body front single later ih =>
    have whole : '-' :: '-' :: (body ++ '\n' :: front) = ['-', '-'] ++ ((body ++ ['\n']) ++ front) := by
      simp
    rw [whole, read_append, read_append]
    show (Mode.remark.read extent (body ++ ['\n']) (front ++ rest)).read extent front rest = .code
    rw [read_remark single, ih]
  | @comment body front nested later ih =>
    show (Mode.atDepth 1).read extent (body ++ front) rest = .code
    rw [read_append, nested.read, ih]
  | @literal body front quoted within later ih =>
    show Mode.literal.read extent (body ++ '"' :: front) rest = .code
    rw [read_append, quoted.read within]
    exact ih
  | @cut body front line unclosed single later ih =>
    subst line
    have quoted : (Mode.literal.read .line body ('\n' :: front ++ rest)).isQuoted = true :=
      unclosed.isQuoted_read (fun _ => single) _
    show Mode.literal.read .line (body ++ '\n' :: front) rest = .code
    rw [read_append, Mode.read, readChar_newline, acrossLine_line, depth_of_isQuoted quoted]
    exact ih

/-! ### What is read back to code are whole lexemes -/

/-- The text closes `n` block comments, and goes on with whole lexemes. -/
def Closes (extent : Extent) (rest : Text) (n : Nat) (front : Text) : Prop :=
  ∃ body later, front = body ++ later ∧ Nested n body ∧ Lexed extent rest later

/-- The text ends a literal, and goes on with whole lexemes. -/
inductive Ends (extent : Extent) (rest : Text) : Text → Prop
  | quote {body later : Text} (quoted : Quoted body) (within : extent = .line → '\n' ∉ body)
      (lexed : Lexed extent rest later) : Ends extent rest (body ++ '"' :: later)
  | line {body later : Text} (line : extent = .line) (unclosed : Unclosed body) (single : '\n' ∉ body)
      (lexed : Lexed extent rest later) : Ends extent rest (body ++ '\n' :: later)

/-- **What finishes the lexeme that a mode is in**, and goes on with whole lexemes. -/
def Mode.Finishes (extent : Extent) (rest : Text) : Mode → Text → Prop
  | .code, front => Lexed extent rest front
  | .remark, front => ∃ body later, front = body ++ '\n' :: later ∧ '\n' ∉ body ∧ Lexed extent rest later
  | .comment outer, front => Closes extent rest (outer + 1) front
  | .opening outer, front => ∃ later, front = '-' :: later ∧ Closes extent rest (outer + 1) later
  | .closing outer, front => ∃ later, front = '/' :: later ∧ Closes extent rest outer later
  | .literal, front => Ends extent rest front
  | .escape, front => ∃ c later, front = c :: later ∧
      if extent = .line ∧ c = '\n' then Lexed extent rest later else Ends extent rest later

theorem Ends.char (inLine : extent = .line → c ≠ '\n') (quote : c ≠ '"') (backslash : c ≠ '\\')
    (ends : Ends extent rest front) : Ends extent rest (c :: front) := by
  cases ends with
  | @quote body later quoted within lexed =>
    refine .quote (.char quote backslash quoted) (fun line member => ?_) lexed
    rcases List.mem_cons.1 member with same | member
    · exact inLine line same.symm
    · exact within line member
  | @line body later line unclosed single lexed =>
    show Ends extent rest ((c :: body) ++ '\n' :: later)
    refine .line line ?_ (fun member => ?_) lexed
    · rcases unclosed with quoted | ⟨shorter, rfl, quoted⟩
      · exact .inl (.char quote backslash quoted)
      · exact .inr ⟨c :: shorter, rfl, .char quote backslash quoted⟩
    · rcases List.mem_cons.1 member with same | member
      · exact inLine line same.symm
      · exact single member

theorem Ends.escape (inLine : extent = .line → c ≠ '\n') (ends : Ends extent rest front) :
    Ends extent rest ('\\' :: c :: front) := by
  have apart : ∀ {body : Text}, extent = .line → '\n' ∉ body → '\n' ∉ '\\' :: c :: body := by
    intro body line single
    simpa [single] using Ne.symm (inLine line)
  cases ends with
  | quote quoted within lexed =>
    exact .quote (.escape c quoted) (fun line => apart line (within line)) lexed
  | @line body later line unclosed single lexed =>
    show Ends extent rest (('\\' :: c :: body) ++ '\n' :: later)
    refine .line line ?_ (apart line single) lexed
    rcases unclosed with quoted | ⟨shorter, rfl, quoted⟩
    · exact .inl (.escape c quoted)
    · exact .inr ⟨'\\' :: c :: shorter, rfl, .escape c quoted⟩

theorem closes_zero_iff : Closes extent rest 0 front ↔ Lexed extent rest front := by
  constructor
  · rintro ⟨body, later, rfl, nested, lexed⟩
    cases nested
    exact lexed
  · exact fun lexed => ⟨[], front, rfl, .closed, lexed⟩

theorem finishes_atDepth : (Mode.atDepth n).Finishes extent rest front ↔ Closes extent rest n front := by
  cases n with
  | zero => exact closes_zero_iff.symm
  | succ outer => exact Iff.rfl

theorem Closes.char (opens : ¬ (c = '/' ∧ (front ++ rest).head? = some '-'))
    (closes : ¬ (c = '-' ∧ (front ++ rest).head? = some '/')) (later : Closes extent rest (n + 1) front) :
    Closes extent rest (n + 1) (c :: front) := by
  obtain ⟨body, later, rfl, nested, lexed⟩ := later
  have next : body.head? = (body ++ later ++ rest).head? := by
    cases nested <;> rfl
  rw [← next] at opens closes
  exact ⟨c :: body, later, rfl, .char opens closes nested, lexed⟩

/-- A line feed in front of what goes on behind it. -/
theorem finishes_newline (awaits : mode.awaited? = none)
    (later : (mode.acrossLine extent).Finishes extent rest front) :
    mode.Finishes extent rest ('\n' :: front) := by
  cases mode with
  | code =>
    rw [acrossLine_of_unquoted rfl] at later
    exact .char (by simp) (by simp) (by decide) later
  | remark =>
    rw [acrossLine_of_unquoted rfl] at later
    exact ⟨[], front, rfl, List.not_mem_nil, later⟩
  | comment outer =>
    rw [acrossLine_of_unquoted rfl] at later
    exact Closes.char (by simp) (by simp) later
  | opening outer => cases awaits
  | closing outer => cases awaits
  | literal =>
    cases extent with
    | line =>
      show Ends .line rest ([] ++ '\n' :: front)
      exact .line rfl (.inl .nil) List.not_mem_nil later
    | quote => exact Ends.char nofun (by decide) (by decide) later
  | escape =>
    refine ⟨'\n', front, rfl, ?_⟩
    cases extent with
    | line => exact later
    | quote => exact later

/-- A character of code begins a lexeme, or is one. -/
theorem lexed_of_step
    (later : (Mode.code.step c (front ++ rest).head?).2.Finishes extent rest front) :
    Lexed extent rest (c :: front) := by
  rw [Mode.step] at later
  split at later
  · next begins =>
    obtain ⟨rfl, hyphen⟩ := begins
    obtain ⟨body, later, rfl, single, lexed⟩ := later
    cases body with
    | nil => cases hyphen
    | cons d body =>
      obtain rfl : d = '-' := Option.some.inj hyphen
      exact .remark (fun member => single (List.mem_cons_of_mem _ member)) lexed
  · split at later
    · next begins =>
      obtain ⟨rfl, -⟩ := begins
      obtain ⟨front, rfl, body, later, rfl, nested, lexed⟩ := later
      exact .comment nested lexed
    · split at later
      · next quote =>
        subst quote
        cases later with
        | quote quoted within lexed => exact .literal quoted within lexed
        | line line unclosed single lexed => exact .cut line unclosed single lexed
      · next remark comment literal => exact .char remark comment literal later

theorem closes_of_step
    (later : ((Mode.comment n).step c (front ++ rest).head?).2.Finishes extent rest front) :
    Closes extent rest (n + 1) (c :: front) := by
  rw [Mode.step] at later
  split at later
  · next opens =>
    obtain ⟨rfl, -⟩ := opens
    obtain ⟨front, rfl, body, later, rfl, nested, lexed⟩ := later
    exact ⟨'/' :: '-' :: body, later, rfl, .opening nested, lexed⟩
  · split at later
    · next closes =>
      obtain ⟨rfl, -⟩ := closes
      obtain ⟨front, rfl, body, later, rfl, nested, lexed⟩ := later
      exact ⟨'-' :: '/' :: body, later, rfl, .closing nested, lexed⟩
    · next opens closes => exact Closes.char opens closes later

theorem ends_of_step (other : c ≠ '\n') {next : Option Char}
    (later : (Mode.literal.step c next).2.Finishes extent rest front) : Ends extent rest (c :: front) := by
  rw [Mode.step] at later
  split at later
  · next backslash =>
    subst backslash
    obtain ⟨d, front, rfl, later⟩ := later
    split at later
    · next cut =>
      rw [cut.2]
      show Ends extent rest (['\\'] ++ '\n' :: front)
      exact .line cut.1 (.inr ⟨[], rfl, .nil⟩) (by decide) later
    · next goes => exact Ends.escape (fun line same => goes ⟨line, same⟩) later
  · split at later
    · next quote =>
      subst quote
      show Ends extent rest ([] ++ '"' :: front)
      exact .quote .nil (fun _ => List.not_mem_nil) later
    · next backslash quote => exact Ends.char (fun _ => other) quote backslash later

/-- **One character back**: what finishes the mode behind a character finishes the mode before it, with
that character in front. -/
theorem finishes_cons (awaits : ∀ d, mode.awaited? = some d → c = d)
    (later : (mode.readChar extent c (front ++ rest).head?).Finishes extent rest front) :
    mode.Finishes extent rest (c :: front) := by
  by_cases newline : c = '\n'
  · subst newline
    rw [readChar_newline] at later
    refine finishes_newline ?_ later
    cases mode with
    | opening outer => cases awaits '-' rfl
    | closing outer => cases awaits '/' rfl
    | code => rfl
    | literal => rfl
    | escape => rfl
    | comment outer => rfl
    | remark => rfl
  · rw [readChar_of_ne newline] at later
    cases mode with
    | code => exact lexed_of_step later
    | comment outer => exact closes_of_step later
    | literal => exact ends_of_step newline later
    | remark =>
      obtain ⟨body, later, rfl, single, lexed⟩ := later
      exact ⟨c :: body, later, rfl, by simpa [single] using Ne.symm newline, lexed⟩
    | opening outer => exact ⟨front, by rw [awaits '-' rfl], later⟩
    | closing outer => exact ⟨front, by rw [awaits '/' rfl], finishes_atDepth.1 later⟩
    | escape => exact ⟨c, front, rfl, by rwa [if_neg fun both => newline both.2]⟩

theorem awaited?_acrossLine (extent : Extent) (mode : Mode) :
    (mode.acrossLine extent).awaited? = none := by
  cases extent <;> cases mode <;> first | rfl | exact awaited?_atDepth _

theorem next_of_awaited?_readChar {next : Option Char} {d : Char}
    (awaits : (mode.readChar extent c next).awaited? = some d) : next = some d := by
  by_cases newline : c = '\n'
  · rw [newline, readChar_newline, awaited?_acrossLine] at awaits
    cases awaits
  · rw [readChar_of_ne newline] at awaits
    exact next_of_awaited? awaits

/-- **What is read back to code finishes the lexeme** that it begins in. -/
theorem finishes_of_read (awaits : ∀ d, mode.awaited? = some d → (front ++ rest).head? = some d)
    (coded : mode.read extent front rest = .code) : mode.Finishes extent rest front := by
  induction front generalizing mode with
  | nil =>
    obtain rfl : mode = .code := coded
    exact Lexed.nil
  | cons c front ih =>
    have here : ∀ d, mode.awaited? = some d → c = d := fun d awaited =>
      Option.some.inj (awaits d awaited)
    exact finishes_cons here (ih (fun d => next_of_awaited?_readChar) coded)

/-- **The front of a document is a sequence of whole lexemes exactly when it is read back to code.** -/
theorem lexed_iff : Lexed extent rest front ↔ Mode.code.read extent front rest = .code :=
  ⟨Lexed.read, finishes_of_read nofun⟩

end Source
end ProofDesk
