import Mathlib.Data.List.Induction
import ProofDesk.Proofs.Source.Occurrence

/-!
# Literals of several lines

A string literal goes on to its closing quote, also over the end of a line. The reader of a line does not
know that it begins in a literal: a literal that its line does not close ends there, and what follows is
read as code. So the placeholders that are reported are those of documents without such literals, and
behind a line feed in a literal they cannot be relied on.

* `Lists` — the list has the places of the word in code, in order.
* `Straddles` — a literal goes on over the end of a line.
* `straddles_iff` — some line feed is read in a literal.
* `placeholders_exact` — the placeholders of a document, for both extents of a literal, and the documents
  for which they can be relied on.
-/

namespace ProofDesk
namespace Source

variable {t front rest body : Text} {mode : Mode} {c : Char}

/-! ### What is asked for -/

/-- **The list has the places of the word in code**, between bounds, in order. What is code is told by the
lexemes in front of the word. -/
structure Lists (extent : Extent) (t : Text) (places : List Position) : Prop where
  ordered : places.Pairwise Position.Before
  mem_iff : ∀ place, place ∈ places ↔ ∃ front behind, WordAt t front behind ∧
    Lexed extent (sorryWord ++ behind) front ∧ place = Position.start.behind front

/-- **A string literal goes on over the end of a line.** -/
def Straddles (t : Text) : Prop :=
  ∃ front body rest, t = front ++ '"' :: (body ++ '\n' :: rest) ∧
    Lexed .quote ('"' :: (body ++ '\n' :: rest)) front ∧ Unclosed body

/-! ### Where a literal begins -/

theorem Quoted.append {later : Text} (quoted : Quoted body) (quoted' : Quoted later) :
    Quoted (body ++ later) := by
  induction quoted with
  | nil => exact quoted'
  | char quote backslash _ ih => exact .char quote backslash ih
  | escape c _ ih => exact .escape c ih

/-- The text of a literal up to a mode in it. -/
inductive Mode.Within : Mode → Text → Prop
  | literal {body : Text} (quoted : Quoted body) : Within .literal body
  | escape {body : Text} (quoted : Quoted body) : Within .escape (body ++ ['\\'])

theorem Mode.Within.unclosed (within : mode.Within body) : Unclosed body := by
  cases within with
  | literal quoted => exact .inl quoted
  | @escape body quoted => exact .inr ⟨body, rfl, quoted⟩

/-- The literal goes on with another character. -/
theorem Mode.Within.readChar (within : mode.Within body) {next : Option Char}
    (quoted : (mode.readChar .quote c next).isQuoted = true) :
    (mode.readChar .quote c next).Within (body ++ [c]) := by
  cases within with
  | literal inside =>
    by_cases quote : c = '"'
    · subst quote
      cases quoted
    · by_cases backslash : c = '\\'
      · subst backslash
        exact .escape inside
      · have stays : Mode.literal.readChar .quote c next = .literal :=
          readChar_literal across quote backslash next
        rw [stays]
        exact .literal (inside.append (.char quote backslash .nil))
  | @escape body inside =>
    have back : Mode.escape.readChar .quote c next = .literal := readChar_escape across next
    rw [back, List.append_assoc]
    exact .literal (inside.append (.escape c .nil))

/-- **A mode in a literal** was entered with a quote in code. -/
theorem exists_within (read : Mode.code.read .quote front rest = mode) (quoted : mode.isQuoted = true) :
    ∃ before body, front = before ++ '"' :: body ∧
      Lexed .quote ('"' :: (body ++ rest)) before ∧ mode.Within body := by
  induction front using List.reverseRecOn generalizing rest mode with
  | nil =>
    subst read
    cases quoted
  | append_singleton front c ih =>
    rw [read_append] at read
    subst read
    generalize inner : Mode.code.read .quote front ([c] ++ rest) = mode at quoted ⊢
    cases inside : mode.isQuoted with
    | true =>
      obtain ⟨before, body, rfl, lexed, within⟩ := ih inner inside
      exact ⟨before, body ++ [c], by simp, by simpa using lexed, within.readChar quoted⟩
    | false =>
      -- The character is the quote that enters the literal.
      have quoted : (mode.readChar .quote c rest.head?).isQuoted = true := quoted
      by_cases newline : c = '\n'
      · rw [newline, readChar_newline, acrossLine_of_unquoted inside] at quoted
        cases depth : mode.depth <;> rw [depth] at quoted <;> cases quoted
      · rw [readChar_of_ne newline] at quoted
        obtain ⟨rfl, rfl⟩ := quote_of_isQuoted inside quoted
        exact ⟨front, [], rfl, lexed_iff.2 inner, .literal .nil⟩

/-- **A literal goes on over the end of a line** when the line feed is read in a literal. -/
theorem straddles_iff : Straddles t ↔ ∃ front rest, t = front ++ '\n' :: rest ∧
    (Mode.code.read .quote front ('\n' :: rest)).isQuoted = true := by
  constructor
  · rintro ⟨front, body, rest, rfl, lexed, unclosed⟩
    refine ⟨front ++ '"' :: body, rest, by simp, ?_⟩
    rw [read_append, List.cons_append, lexed.read]
    exact unclosed.isQuoted_read across _
  · rintro ⟨front, rest, rfl, quoted⟩
    obtain ⟨before, body, rfl, lexed, within⟩ := exists_within rfl quoted
    exact ⟨before, body, rest, by simp, lexed, within.unclosed⟩

instance (t : Text) : Decidable (Straddles t) := by
  refine decidable_of_iff (∃ k < t.length, t[k]? = some '\n' ∧
    (Mode.code.read .quote (t.take k) (t.drop k)).isQuoted = true) ?_
  rw [straddles_iff]
  constructor
  · rintro ⟨k, -, newline, quoted⟩
    obtain ⟨short, newline⟩ := List.getElem?_eq_some_iff.1 newline
    have here : t.drop k = '\n' :: t.drop (k + 1) := by
      rw [List.drop_eq_getElem_cons short, newline]
    rw [here] at quoted
    exact ⟨t.take k, t.drop (k + 1), by rw [← here, List.take_append_drop], quoted⟩
  · rintro ⟨front, rest, rfl, quoted⟩
    refine ⟨front.length, by simp, by simp, ?_⟩
    rwa [List.take_left, List.drop_left]

/-! ### Where line ends do not matter -/

/-- **While no line feed is read in a literal**, it does not matter how far literals go. -/
theorem read_quote_eq (closed : ∀ before after, front = before ++ '\n' :: after →
      (mode.read .quote before ('\n' :: (after ++ rest))).isQuoted = false) :
    mode.read .quote front rest = mode.read .line front rest := by
  induction front generalizing mode with
  | nil => rfl
  | cons c front ih =>
    have here : mode.readChar .quote c (front ++ rest).head? =
        mode.readChar .line c (front ++ rest).head? := by
      by_cases newline : c = '\n'
      · subst newline
        have unquoted : mode.isQuoted = false := closed [] front rfl
        rw [readChar_newline, readChar_newline, acrossLine_of_unquoted unquoted,
          acrossLine_of_unquoted unquoted]
      · rw [readChar_of_ne newline, readChar_of_ne newline]
    rw [Mode.read, Mode.read, ← here]
    refine ih fun before after whole => ?_
    have behind := closed (c :: before) after (by rw [whole]; rfl)
    rw [Mode.read] at behind
    rwa [whole, List.append_assoc]

/-- Of what stands below a line, the reader of the line sees the line feed. -/
theorem read_at_newline {extent : Extent} (rest' : Text) :
    mode.read extent front ('\n' :: rest) = mode.read extent front ('\n' :: rest') := by
  apply read_congr
  rfl

theorem read_quote_of_not_straddles (clear : ¬ Straddles (front ++ rest)) :
    Mode.code.read .quote front rest = Mode.code.read .line front rest := by
  refine read_quote_eq fun before after whole => ?_
  cases quoted : (Mode.code.read .quote before ('\n' :: (after ++ rest))).isQuoted with
  | false => rfl
  | true => exact absurd (straddles_iff.2 ⟨before, after ++ rest, by simp [whole], quoted⟩) clear

/-! ### The placeholders of a document -/

theorem lists_line (t : Text) : Lists .line t (placeholders t) :=
  ⟨pairwise_placeholders t, fun _ => mem_placeholders_iff⟩

theorem lists_quote (clear : ¬ Straddles t) : Lists .quote t (placeholders t) := by
  refine ⟨pairwise_placeholders t, fun place => mem_placeholders_iff.trans ?_⟩
  refine exists_congr fun front => exists_congr fun behind => and_congr_right fun word =>
    and_congr_left fun _ => ?_
  rw [lexed_iff, lexed_iff, read_quote_of_not_straddles (word.whole ▸ clear)]

/-- **An occurrence of the word** is listed exactly when it stands in code. -/
theorem Lists.lexed_iff {extent : Extent} {places : List Position} {behind : Text}
    (lists : Lists extent t places) (word : WordAt t front behind) :
    Position.start.behind front ∈ places ↔ Lexed extent (sorryWord ++ behind) front := by
  rw [lists.mem_iff]
  constructor
  · rintro ⟨front', behind', word', lexed, place⟩
    have same := word.whole.symm.trans word'.whole
    obtain rfl := Position.behind_inj same place
    obtain rfl := List.append_cancel_left (List.append_cancel_left same)
    exact lexed
  · exact fun lexed => ⟨front, behind, word, lexed, rfl⟩

/-- **A probe**: a document up to the end of a line, and the word on the next one. -/
def probe (front : Text) : Text := front ++ '\n' :: sorryWord

theorem wordAt_probe (front : Text) : WordAt (probe front) (front ++ ['\n']) [] :=
  ⟨by simp [probe], by rw [List.getLast?_concat]; decide, rfl⟩

/-- Whether the word of a probe stands in code is decided at the line feed. -/
theorem lexed_concat_newline {extent : Extent} : Lexed extent rest (front ++ ['\n']) ↔
    (Mode.code.read extent front ('\n' :: rest)).acrossLine extent = .code := by
  rw [lexed_iff, read_append]
  rfl

/-- **A literal that goes on over the end of a line** makes the probe behind that line fail, when all
lines before it end outside literals. -/
theorem not_lists_probe (quoted : (Mode.code.read .quote front ('\n' :: sorryWord)).isQuoted = true)
    (same : Mode.code.read .quote front ('\n' :: sorryWord) =
      Mode.code.read .line front ('\n' :: sorryWord)) :
    ¬ Lists .quote (probe front) (placeholders (probe front)) := by
  intro lists
  have coded : Lexed .line (sorryWord ++ []) (front ++ ['\n']) := by
    rw [List.append_nil, lexed_concat_newline, ← same, acrossLine_line, depth_of_isQuoted quoted]
    rfl
  have listed := ((lists_line (probe front)).lexed_iff (wordAt_probe front)).2 coded
  have lexed := (lists.lexed_iff (wordAt_probe front)).1 listed
  rw [List.append_nil, lexed_concat_newline] at lexed
  generalize Mode.code.read .quote front ('\n' :: sorryWord) = mode at quoted lexed
  have still : mode.acrossLine .quote = .literal := by
    cases mode <;> first | rfl | cases quoted
  rw [still] at lexed
  cases lexed

/-- **When all probes succeed**, no line feed is read in a literal. -/
theorem not_isQuoted_of_probes (succeeds : ∀ front rest, t = front ++ '\n' :: rest →
      Lists .quote (probe front) (placeholders (probe front)))
    (whole : t = front ++ '\n' :: rest) :
    (Mode.code.read .quote front ('\n' :: rest)).isQuoted = false := by
  induction length : front.length using Nat.strongRecOn generalizing front rest with
  | ind n ih =>
    have same : Mode.code.read .quote front ('\n' :: sorryWord) =
        Mode.code.read .line front ('\n' :: sorryWord) := by
      refine read_quote_eq fun before after cut => ?_
      have shorter : before.length < n := by
        rw [← length, cut]
        simp
      have earlier : t = before ++ '\n' :: (after ++ '\n' :: rest) := by simp [whole, cut]
      rw [read_at_newline (after ++ '\n' :: rest)]
      exact ih before.length shorter earlier rfl
    rw [read_at_newline sorryWord]
    cases quoted : (Mode.code.read .quote front ('\n' :: sorryWord)).isQuoted with
    | false => rfl
    | true => exact absurd (succeeds front rest whole) (not_lists_probe quoted same)

/-- A probe adds no literal. -/
theorem Straddles.of_probe (straddles : Straddles (probe front)) (rest : Text) :
    Straddles (front ++ '\n' :: rest) := by
  obtain ⟨before, after, whole, quoted⟩ := straddles_iff.1 straddles
  refine straddles_iff.2 ?_
  suffices ∃ later, front ++ '\n' :: rest = before ++ '\n' :: later by
    obtain ⟨later, whole⟩ := this
    exact ⟨before, later, whole, read_at_newline after ▸ quoted⟩
  rcases List.append_eq_append_iff.1 whole with ⟨gap, rfl, cut⟩ | ⟨gap, rfl, cut⟩
  · cases gap with
    | nil => exact ⟨rest, by simp⟩
    | cons d gap =>
      have inside : '\n' ∈ sorryWord := by simp [(List.cons.inj cut).2]
      exact absurd inside (by decide)
  · cases gap with
    | nil => exact ⟨rest, by simp⟩
    | cons d gap =>
      obtain ⟨rfl, -⟩ := List.cons.inj cut
      exact ⟨gap ++ '\n' :: rest, by simp⟩

/-- **The placeholders of a document** are the occurrences of the word in code, between bounds and in
order, where a literal ends with its line. They are also those in code where a literal goes on to its
quote, unless a literal goes on over the end of a line; and then the probe behind some line fails. -/
theorem placeholders_exact (t : Text) :
    Lists .line t (placeholders t) ∧ (¬ Straddles t → Lists .quote t (placeholders t)) ∧
      (¬ Straddles t ↔ ∀ front rest, t = front ++ '\n' :: rest →
        Lists .quote (probe front) (placeholders (probe front))) := by
  refine ⟨lists_line t, lists_quote, ?_, ?_⟩
  · rintro clear front rest rfl
    exact lists_quote fun straddles => clear (straddles.of_probe rest)
  · intro succeeds straddles
    obtain ⟨front, rest, whole, quoted⟩ := straddles_iff.1 straddles
    rw [not_isQuoted_of_probes succeeds whole] at quoted
    cases quoted

/-- A word in a literal, one in a remark, and one in code below them. -/
theorem placeholders_exact_two_lines :
    let document := Text.joinLines ["def s := \"sorry\" -- sorry", "  sorry"]
    ¬ Straddles document ∧ placeholders document = [⟨1, 2⟩] ∧ Lists .quote document [⟨1, 2⟩] := by
  intro document
  have clear : ¬ Straddles document := by decide +kernel
  have found : placeholders document = [⟨1, 2⟩] := by decide +kernel
  exact ⟨clear, found, found ▸ (placeholders_exact document).2.1 clear⟩

/-- **A word in a literal of two lines is reported.** -/
theorem not_lists_quote :
    let document := Text.joinLines ["def s := \"a", "sorry\""]
    Straddles document ∧ placeholders document = [⟨1, 0⟩] ∧
      ¬ Lists .quote document (placeholders document) := by
  intro document
  have found : placeholders document = [⟨1, 0⟩] := by decide +kernel
  refine ⟨by decide +kernel, found, fun lists => ?_⟩
  have word : WordAt document "def s := \"a\n" "\"" := ⟨by decide +kernel, by decide, by decide⟩
  have listed : Position.start.behind "def s := \"a\n" ∈ placeholders document := by
    rw [found]
    decide
  have lexed := (lists.lexed_iff word).1 listed
  rw [lexed_iff] at lexed
  exact absurd lexed (by decide)

end Source
end ProofDesk
