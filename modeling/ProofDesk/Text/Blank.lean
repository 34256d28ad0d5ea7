import ProofDesk.Text.Basic

/-!
# Blank characters and trimming

Two notions of blank space are in use. `isBlank` is the Unicode property `White_Space`, by which
texts are trimmed; `isAsciiBlank` is the narrower set of space, tab, line feed, form feed and
carriage return, by which a line is judged to hold code.

* `trim` — a text without the blanks at both ends; `trim_idem` and `blank_ends_trim` say so.
* `isBlank_of_isAsciiBlank` — the narrow notion implies the wide one.
-/

namespace ProofDesk
namespace Text

/-- The Unicode property `White_Space`. -/
def isBlank (c : Char) : Bool :=
  let n := c.toNat
  (9 ≤ n && n ≤ 13) || n == 0x20 || n == 0x85 || n == 0xA0 || n == 0x1680 ||
    (0x2000 ≤ n && n ≤ 0x200A) || n == 0x2028 || n == 0x2029 || n == 0x202F || n == 0x205F ||
    n == 0x3000

/-- Space, tab, line feed, form feed and carriage return; the vertical tab is not among them. -/
def isAsciiBlank (c : Char) : Bool :=
  c == ' ' || c == '\t' || c == '\n' || c == '\x0c' || c == '\r'

theorem isBlank_of_isAsciiBlank {c : Char} (blank : isAsciiBlank c = true) : isBlank c = true := by
  simp only [isAsciiBlank, Bool.or_eq_true, beq_iff_eq] at blank
  rcases blank with (((rfl | rfl) | rfl) | rfl) | rfl <;> decide

theorem isBlank_of_isWhitespace {c : Char} (blank : c.isWhitespace = true) : isBlank c = true := by
  simp only [Char.isWhitespace, Bool.or_eq_true, decide_eq_true_eq] at blank
  rcases blank with ((rfl | rfl) | rfl) | rfl <;> decide

/-- Without the blanks in front. -/
def trimStart (t : Text) : Text := t.dropWhile isBlank

/-- Without the blanks at the end. -/
def trimEnd (t : Text) : Text := (t.reverse.dropWhile isBlank).reverse

/-- Without the blanks at both ends. -/
def trim (t : Text) : Text := trimEnd (trimStart t)

/-- The blanks in front. -/
def indentation (t : Text) : Text := t.takeWhile isBlank

/-- Nothing but blanks. -/
def allBlank (t : Text) : Bool := t.all isBlank

/-- The last characters for which `p` holds taken off. -/
def trimEndOf (p : Char → Bool) (t : Text) : Text := (t.reverse.dropWhile p).reverse

@[simp] theorem indentation_append_trimStart (t : Text) : indentation t ++ trimStart t = t :=
  List.takeWhile_append_dropWhile

theorem trimEnd_eq_self {t : Text} (solid : ∀ c, t.getLast? = some c → isBlank c = false) :
    trimEnd t = t := by
  unfold trimEnd
  cases h : t.reverse with
  | nil => simpa using h
  | cons c r =>
    have last : t.getLast? = some c := by rw [← List.head?_reverse, h]; rfl
    rw [List.dropWhile_cons_of_neg (by simp [solid c last]), ← h, List.reverse_reverse]

theorem getLast?_trimEnd {t : Text} {c : Char} (last : (trimEnd t).getLast? = some c) :
    isBlank c = false := by
  have first : (t.reverse.dropWhile isBlank).head? = some c := by
    rw [← last, trimEnd, List.getLast?_reverse]
  have := List.head?_dropWhile_not isBlank t.reverse
  rw [first] at this
  simpa using this

theorem head?_trimStart {t : Text} {c : Char} (first : (trimStart t).head? = some c) :
    isBlank c = false := by
  have := List.head?_dropWhile_not isBlank t
  unfold trimStart at first
  rw [first] at this
  simpa using this

theorem trimEnd_concat {t : Text} {c : Char} (blank : isBlank c = true) :
    trimEnd (t ++ [c]) = trimEnd t := by
  rw [trimEnd, List.reverse_append, List.reverse_singleton, List.singleton_append,
    List.dropWhile_cons_of_pos blank, ← trimEnd]

/-- What `trimEnd` takes off is blank. -/
theorem exists_trimEnd_append (t : Text) :
    ∃ tail : Text, allBlank tail = true ∧ trimEnd t ++ tail = t := by
  refine ⟨(t.reverse.takeWhile isBlank).reverse, ?_, ?_⟩
  · rw [allBlank, List.all_reverse, List.all_takeWhile]
  · rw [trimEnd, ← List.reverse_append, List.takeWhile_append_dropWhile, List.reverse_reverse]

theorem trimStart_suffix (t : Text) : trimStart t <:+ t := List.dropWhile_suffix _

theorem trim_infix (t : Text) : trim t <:+: t := by
  obtain ⟨tail, -, whole⟩ := exists_trimEnd_append (trimStart t)
  have front : trim t <+: trimStart t := ⟨tail, whole⟩
  exact front.isInfix.trans (trimStart_suffix t).isInfix

theorem head?_trim {t : Text} {c : Char} (first : (trim t).head? = some c) : isBlank c = false := by
  obtain ⟨tail, -, whole⟩ := exists_trimEnd_append (trimStart t)
  apply head?_trimStart (t := t)
  rw [← whole]
  unfold trim at first
  cases h : trimEnd (trimStart t) with
  | nil => simp [h] at first
  | cons d r => simpa [h] using first

/-- Neither end of a trimmed text is blank. -/
theorem blank_ends_trim {t : Text} {c : Char}
    (atEnd : (trim t).head? = some c ∨ (trim t).getLast? = some c) : isBlank c = false :=
  atEnd.elim head?_trim getLast?_trimEnd

theorem trim_idem (t : Text) : trim (trim t) = trim t := by
  have start : trimStart (trim t) = trim t := by
    cases h : trim t with
    | nil => rfl
    | cons c r =>
      have := head?_trim (t := t) (c := c) (by rw [h]; rfl)
      simp [trimStart, this]
  rw [trim, start]
  exact trimEnd_eq_self fun c last => blank_ends_trim (.inr last)

/-- A blank at the end of a text is trimmed. -/
theorem trim_concat {t : Text} {c : Char} (blank : isBlank c = true) :
    trim (t ++ [c]) = trim t := by
  unfold trim trimStart
  rw [List.dropWhile_append]
  split
  · next empty =>
    rw [List.isEmpty_iff.1 empty, List.dropWhile_cons_of_pos blank]
    rfl
  · exact trimEnd_concat blank

end Text
end ProofDesk
