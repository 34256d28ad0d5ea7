import ProofDesk.Clause.Scan
import ProofDesk.Proofs.Source.Site
import ProofDesk.Proofs.Text.Piece
import ProofDesk.Proofs.Text.Search

/-!
# What the readings look at

A reading of the beginning of a line does not look at all of the line. A colon ends what it says about
declarations, and the first tactic proof is found without a look at anything but the character behind
its `by`.

* `startsDeclaration_congr` — what stands behind a colon does not matter to declarations.
* `enter_of_proofWord` — a line that begins with `have` or `by` stays in its context.
* `firstProof?_eq_some` — the first tactic proof of a text.
* `HaveHead` — the code of a `have` line up to the type; `HaveHead.exists_of_ofCode?` finds one, and
  `HaveHead.ofCode?_before` reads any text behind it.
-/

namespace ProofDesk
namespace Clause

open Source (Stops byWord proofSign)
open Text (after?_append_cons after?_eq_some allBlank isBlank isWordChar)

variable {t rest code word body : Text} {b : Char}

/-! ### First words -/

/-- What a line says about declarations is seen before a character that none of their words has. -/
theorem startsDeclaration_append_cons {mark : Char}
    (absent : mark ∉ "private ".toList ∧ mark ∉ "protected ".toList)
    (unmarked : ∀ word ∈ declarationWords, mark ∉ word) (front rest rest' : Text) :
    startsDeclaration (front ++ mark :: rest) = startsDeclaration (front ++ mark :: rest') := by
  have head : ∀ rest : Text, ((Text.after? "private " (front ++ mark :: rest)).or
      (Text.after? "protected " (front ++ mark :: rest))).getD (front ++ mark :: rest) =
        ((Text.after? "private " front).or (Text.after? "protected " front)).getD front ++
          mark :: rest := by
    intro rest
    rw [after?_append_cons absent.1, after?_append_cons absent.2]
    cases Text.after? "private " front <;> cases Text.after? "protected " front <;> rfl
  unfold startsDeclaration
  dsimp only
  rw [head rest, head rest', Bool.eq_iff_iff, List.any_eq_true, List.any_eq_true]
  refine exists_congr fun word => and_congr_right fun member => ?_
  rw [after?_append_cons (unmarked word member), after?_append_cons (unmarked word member)]
  cases Text.after? word _ with
  | none => rfl
  | some behind => cases behind <;> rfl

/-- **A colon ends what a line says about declarations.** -/
theorem startsDeclaration_congr (front rest rest' : Text) :
    startsDeclaration (front ++ ':' :: rest) = startsDeclaration (front ++ ':' :: rest') :=
  startsDeclaration_append_cons (by decide) (by decide) front rest rest'

/-- The first letters of declarations, and of the words before them. -/
theorem head?_of_startsDeclaration (starts : startsDeclaration t = true) :
    t.head? ∈ [some 'p', some 't', some 'l', some 'e'] := by
  unfold startsDeclaration at starts
  obtain ⟨word, member, begins⟩ := List.any_eq_true.1 starts
  obtain ⟨behind, found, -⟩ := (Option.any_eq_true ..).1 begins
  have first : word ≠ [] ∧ word.head? ∈ [some 't', some 'l', some 'e'] := by
    have all : declarationWords.all (fun word => !word.isEmpty &&
        [some 't', some 'l', some 'e'].contains word.head?) = true := by decide
    simpa using List.all_eq_true.1 all word member
  cases modifier : (Text.after? "private " t).or (Text.after? "protected " t) with
  | none =>
    rw [modifier] at found
    have found : Text.after? word t = some behind := found
    rw [Text.head?_of_after? found first.1]
    exact List.mem_cons_of_mem _ first.2
  | some _ =>
    have letter : t.head? = some 'p' := by
      rcases Option.or_eq_some_iff.1 modifier with found | ⟨-, found⟩
      · exact Text.head?_of_after? found (by decide)
      · exact Text.head?_of_after? found (by decide)
    rw [letter]
    exact List.mem_cons_self ..

theorem firstWord_append_cons (inside : ∀ c ∈ word, endsWord c = false) (ends : endsWord b = true)
    (rest : Text) : firstWord (word ++ b :: rest) = word := by
  refine Source.takeWhile_append (fun c member => by simp [inside c member]) ?_
  rintro c ⟨⟩
  simp [ends]

/-- A word that a proof line begins with. -/
def IsProofWord (word : Text) : Prop := word = "have".toList ∨ word = byWord

/-- **A line that begins with a proof word** is read in the context in which it stands. -/
theorem enter_of_proofWord (known : IsProofWord word) (blank : isBlank b = true)
    (stripped : Text.trim code = word ++ b :: rest) (context : Context) :
    context.enter code = context := by
  have words : ["have".toList, byWord].all (fun word => !word.isEmpty &&
      !List.contains [some 'p', some 't', some 'l', some 'e', some '@'] word.head? &&
        word.all (fun c => !endsWord c) && !commandWords.contains word) = true := by
    decide +kernel
  have facts := List.all_eq_true.1 words word (by rcases known with rfl | rfl <;> simp)
  simp only [Bool.and_eq_true, Bool.not_eq_true', List.all_eq_true, List.isEmpty_eq_false_iff]
    at facts
  obtain ⟨⟨⟨solid, first⟩, inside⟩, command⟩ := facts
  have head : (word ++ b :: rest).head? = word.head? := by
    obtain ⟨c, others, rfl⟩ := List.exists_cons_of_ne_nil solid
    rfl
  have noDeclaration : startsDeclaration (word ++ b :: rest) = false := by
    rw [Bool.eq_false_iff]
    intro starts
    have member := head?_of_startsDeclaration starts
    rw [head] at member
    simp_all
  have noCommand : isTopLevelCommand (word ++ b :: rest) = false := by
    have ends : endsWord b = true := by simp [endsWord, blank]
    have noAttribute : Text.after? "@[" (word ++ b :: rest) = none := by
      cases found : Text.after? "@[" (word ++ b :: rest) with
      | none => rfl
      | some _ =>
        have same := Text.head?_of_after? found (by decide)
        have letter : "@[".toList.head? = some '@' := by decide
        rw [head, letter] at same
        simp [same] at first
    rw [isTopLevelCommand, noAttribute, firstWord_append_cons inside ends, command]
    rfl
  unfold Context.enter
  dsimp only
  rw [stripped, noDeclaration, noCommand]
  simp

/-! ### The first tactic proof -/

theorem proofAfterAssign?_append_cons (c : Char) (front more : Text) :
    proofAfterAssign? (c :: front ++ ':' :: more) =
      (proofAfterAssign? (c :: front)).map (· ++ ':' :: more) := by
  have sign : Text.after? proofSign (c :: front ++ ':' :: more) =
      (Text.after? proofSign (c :: front)).map (· ++ ':' :: more) := by
    cases front with
    | nil => simp [Text.after?, proofSign]
    | cons d front =>
      by_cases here : c = ':' ∧ d = '='
      · obtain ⟨rfl, rfl⟩ := here
        rfl
      · have other : ¬ (':' = c ∧ '=' = d) := fun same => here ⟨same.1.symm, same.2.symm⟩
        simp [Text.after?, proofSign, other]
  unfold proofAfterAssign?
  rw [sign]
  cases Text.after? proofSign (c :: front) with
  | none => rfl
  | some behind =>
    show (Text.after? byWord (Text.trimStart (behind ++ ':' :: more))).bind _ =
      Option.map _ ((Text.after? byWord (Text.trimStart behind)).bind _)
    rw [Text.trimStart_append_cons (by decide), after?_append_cons (by decide)]
    cases Text.after? byWord (Text.trimStart behind) with
    | none => rfl
    | some body =>
      cases body with
      | nil => rfl
      | cons d body =>
        show (if isWordChar d = true then none else some _) =
          Option.map _ (if isWordChar d = true then none else some _)
        split <;> rfl

/-- The search for a tactic proof does not look behind a colon before it. -/
theorem firstProof?_append_cons (front more : Text) :
    firstProof? (front ++ ':' :: more) =
      ((firstProof? front).map (· ++ ':' :: more)).or (firstProof? (':' :: more)) := by
  induction front with
  | nil => rfl
  | cons c front ih =>
    have here := proofAfterAssign?_append_cons c front more
    have split : firstProof? (c :: front) = (proofAfterAssign? (c :: front)).or (firstProof? front) :=
      rfl
    rw [split, List.cons_append, firstProof?, ← List.cons_append, here, ih]
    cases proofAfterAssign? (c :: front) <;> rfl

theorem proofAfterAssign?_eq_some : proofAfterAssign? t = some body ↔
    ∃ gap, t = proofSign ++ (gap ++ (byWord ++ body)) ∧ allBlank gap = true ∧
      Stops isWordChar body := by
  constructor
  · intro found
    obtain ⟨behind, sign, found⟩ := Option.bind_eq_some_iff.1 found
    obtain ⟨body', word, found⟩ := Option.bind_eq_some_iff.1 found
    split at found
    · cases found
    · next ends =>
      cases found
      refine ⟨Text.indentation behind, ?_, ?_, ?_⟩
      · rw [← after?_eq_some.1 word, Text.indentation_append_trimStart]
        exact after?_eq_some.1 sign
      · exact List.all_takeWhile
      · intro c first
        rw [first] at ends
        simpa using ends
  · rintro ⟨gap, rfl, blank, stops⟩
    have skipped : Text.trimStart (gap ++ (byWord ++ body)) = byWord ++ body := by
      rw [Text.trimStart_append blank]
      rfl
    have ends : ¬ body.head?.any isWordChar = true := by
      cases body with
      | nil => nofun
      | cons c body => simpa using stops c rfl
    unfold proofAfterAssign?
    rw [after?_eq_some.2 rfl]
    show (Text.after? byWord (Text.trimStart (gap ++ (byWord ++ body)))).bind _ = _
    rw [skipped, after?_eq_some.2 rfl]
    exact if_neg ends

/-- **The first tactic proof of a text**, with nothing said about what follows it. -/
theorem firstProof?_eq_some : firstProof? t = some body ↔
    ∃ front gap, t = front ++ (proofSign ++ (gap ++ (byWord ++ body))) ∧
      firstProof? front = none ∧ allBlank gap = true ∧ Stops isWordChar body := by
  constructor
  · intro found
    induction t with
    | nil => cases found
    | cons c t ih =>
      rw [firstProof?, Option.or_eq_some_iff] at found
      rcases found with here | ⟨miss, later⟩
      · obtain ⟨gap, whole, blank, stops⟩ := proofAfterAssign?_eq_some.1 here
        exact ⟨[], gap, whole, rfl, blank, stops⟩
      · obtain ⟨front, gap, rfl, none, blank, stops⟩ := ih later
        refine ⟨c :: front, gap, rfl, ?_, blank, stops⟩
        have here := proofAfterAssign?_append_cons c front ('=' :: (gap ++ (byWord ++ body)))
        have same : c :: front ++ ':' :: '=' :: (gap ++ (byWord ++ body)) =
            c :: (front ++ (proofSign ++ (gap ++ (byWord ++ body)))) := rfl
        rw [same, miss] at here
        rw [firstProof?, none, Option.map_eq_none_iff.1 here.symm]
        rfl
  · rintro ⟨front, gap, rfl, none, blank, stops⟩
    have here : proofAfterAssign? (proofSign ++ (gap ++ (byWord ++ body))) = some body :=
      proofAfterAssign?_eq_some.2 ⟨gap, rfl, blank, stops⟩
    have found : firstProof? (':' :: '=' :: (gap ++ (byWord ++ body))) = some body := by
      rw [firstProof?, Option.or_eq_some_iff]
      exact .inl here
    show firstProof? (front ++ ':' :: '=' :: (gap ++ (byWord ++ body))) = _
    rw [firstProof?_append_cons, none, found]
    rfl

/-! ### Lines that prove an intermediate fact -/

/-- **The code of a `have` line up to the type**: the word, the name and the colon. -/
structure HaveHead where
  indent : Text
  blanks : Text
  name : Text
  gap : Text
  indented : allBlank indent = true
  apart : blanks ≠ []
  blank : allBlank blanks = true
  solid : name ≠ []
  named : ∀ c ∈ name, isHaveNameChar c = true
  between : allBlank gap = true

namespace HaveHead

variable (head : HaveHead)

/-- The head with `rest` behind its colon. -/
def before (rest : Text) : Text :=
  head.indent ++ ("have".toList ++ (head.blanks ++ (head.name ++ (head.gap ++ ':' :: rest))))

theorem visible_name : ∃ c others, head.name = c :: others ∧ isBlank c = false := by
  obtain ⟨c, others, whole⟩ := List.exists_cons_of_ne_nil head.solid
  have named := head.named c (by simp [whole])
  refine ⟨c, others, whole, ?_⟩
  unfold isHaveNameChar at named
  simp_all

theorem stops_gap (rest : Text) : Stops isHaveNameChar (head.gap ++ ':' :: rest) := by
  have between := head.between
  intro c first
  cases shape : head.gap with
  | nil =>
    rw [shape] at first
    cases first
    decide
  | cons d gap =>
    rw [shape] at first between
    cases first
    have white : isBlank c = true := List.all_eq_true.1 between c (List.mem_cons_self ..)
    simp [isHaveNameChar, white]

/-- The word of the line and all behind it, without blanks in front. -/
theorem trimStart_before (rest : Text) : Text.trimStart (head.before rest) =
    "have".toList ++ (head.blanks ++ (head.name ++ (head.gap ++ ':' :: rest))) := by
  have letters : "have".toList = ['h', 'a', 'v', 'e'] := by decide
  rw [before, Text.trimStart_append head.indented, letters]
  rfl

theorem before_append (rest tail : Text) : head.before rest ++ tail = head.before (rest ++ tail) := by
  simp [before]

/-- A `have` line begins with the word and a blank. -/
theorem trim_before (rest : Text) :
    ∃ b tail, isBlank b = true ∧ Text.trim (head.before rest) = "have".toList ++ b :: tail := by
  obtain ⟨n, others, name, visible⟩ := head.visible_name
  obtain ⟨b, white, blanks⟩ := List.exists_cons_of_ne_nil head.apart
  have blank : isBlank b = true := List.all_eq_true.1 head.blank b (by simp [blanks])
  have whole : Text.trimStart (head.before rest) =
      ("have".toList ++ b :: white) ++ n :: (others ++ (head.gap ++ ':' :: rest)) := by
    rw [trimStart_before, blanks, name]
    simp only [List.append_assoc, List.cons_append]
  rw [Text.trim, whole, Text.trimEnd_append_cons visible, List.append_assoc]
  exact ⟨b, _, blank, rfl⟩

/-- **Behind the head of a `have` line** the first tactic proof is the proof of the fact. -/
theorem ofCode?_before (typed : Text) :
    HaveLine.ofCode? (head.before typed) = (firstProof? typed).map (HaveLine.mk head.name) := by
  obtain ⟨n, others, name, visible⟩ := head.visible_name
  have stops := head.stops_gap typed
  have skipped : Text.trimStart (head.blanks ++ (head.name ++ (head.gap ++ ':' :: typed))) =
      head.name ++ (head.gap ++ ':' :: typed) := by
    rw [Text.trimStart_append head.blank, name]
    simp [Text.trimStart, visible]
  have colon : Text.trimStart (head.gap ++ ':' :: typed) = ':' :: typed := by
    rw [Text.trimStart_append head.between]
    rfl
  have apart : (Text.indentation (head.blanks ++ (head.name ++ (head.gap ++ ':' :: typed)))).isEmpty =
      false := by
    obtain ⟨b, white, blanks⟩ := List.exists_cons_of_ne_nil head.apart
    have blank : isBlank b = true :=
      List.all_eq_true.1 head.blank b (by simp [blanks])
    simp [Text.indentation, blanks, blank]
  have solid : head.name.isEmpty = false := by simp [name]
  unfold HaveLine.ofCode?
  rw [trimStart_before, after?_eq_some.2 rfl]
  show (Text.after? [':'] (Text.trimStart ((Text.trimStart _).dropWhile isHaveNameChar))).bind _ = _
  rw [skipped, Source.dropWhile_append head.named stops, colon,
    Source.takeWhile_append head.named stops]
  show (firstProof? typed).bind _ = _
  cases firstProof? typed with
  | none => rfl
  | some proof =>
    show (if _ then none else some _) = some _
    rw [apart, solid]
    rfl

/-- **Every `have` line has a head**, behind which its proof is the first one. -/
theorem exists_of_ofCode? {fact : HaveLine} (found : HaveLine.ofCode? code = some fact) :
    ∃ head : HaveHead, ∃ typed, head.name = fact.name ∧ code = head.before typed ∧
      firstProof? typed = some fact.proof := by
  unfold HaveLine.ofCode? at found
  obtain ⟨afterHave, keyword, found⟩ := Option.bind_eq_some_iff.1 found
  obtain ⟨typed, colon, found⟩ := Option.bind_eq_some_iff.1 found
  obtain ⟨proof, assigned, found⟩ := Option.bind_eq_some_iff.1 found
  split at found
  · cases found
  · next solid =>
    cases found
    simp only [Bool.or_eq_true, List.isEmpty_iff, not_or] at solid
    let named := Text.trimStart afterHave
    let head : HaveHead :=
      { indent := Text.indentation code
        blanks := Text.indentation afterHave
        name := named.takeWhile isHaveNameChar
        gap := Text.indentation (named.dropWhile isHaveNameChar)
        indented := List.all_takeWhile
        apart := solid.1
        blank := List.all_takeWhile
        solid := solid.2
        named := List.all_eq_true.1 List.all_takeWhile
        between := List.all_takeWhile }
    refine ⟨head, typed, rfl, ?_, assigned⟩
    have behindName : named.dropWhile isHaveNameChar = head.gap ++ ':' :: typed := by
      have cut : Text.trimStart (named.dropWhile isHaveNameChar) = ':' :: typed :=
        after?_eq_some.1 colon
      rw [← cut]
      exact (Text.indentation_append_trimStart _).symm
    calc code = Text.indentation code ++ Text.trimStart code :=
          (Text.indentation_append_trimStart code).symm
      _ = Text.indentation code ++ ("have".toList ++ (Text.indentation afterHave ++ named)) := by
          rw [after?_eq_some.1 keyword, Text.indentation_append_trimStart]
      _ = Text.indentation code ++ ("have".toList ++ (Text.indentation afterHave ++
            (named.takeWhile isHaveNameChar ++ named.dropWhile isHaveNameChar))) := by
          rw [List.takeWhile_append_dropWhile]
      _ = head.before typed := by rw [behindName]; rfl

/-- The head, the type up to the first tactic proof, and the signs that introduce the proof. -/
def assign (typed gap : Text) : Text := head.before (typed ++ (proofSign ++ (gap ++ byWord)))

theorem assign_append (typed gap rest : Text) : head.assign typed gap ++ rest =
    head.before (typed ++ (proofSign ++ (gap ++ (byWord ++ rest)))) := by
  rw [assign, before_append]
  simp only [List.append_assoc]

theorem getLast?_assign (typed gap : Text) : (head.assign typed gap).getLast? = some 'y' := by
  have whole : head.assign typed gap = head.before (typed ++ (proofSign ++ gap)) ++ byWord := by
    rw [assign, before_append]
    simp only [List.append_assoc]
  rw [whole, List.getLast?_append]
  rfl

/-- **The proof of a `have` line** is what stands behind its signs. -/
theorem ofCode?_assign {typed gap rest : Text} (none : firstProof? typed = none)
    (blank : allBlank gap = true) (stops : Stops isWordChar rest) :
    HaveLine.ofCode? (head.assign typed gap ++ rest) = some ⟨head.name, rest⟩ := by
  rw [assign_append, ofCode?_before, firstProof?_eq_some.2 ⟨typed, gap, rfl, none, blank, stops⟩]
  rfl

/-- **Every `have` line** has a head, a type and signs in front of its proof. -/
theorem exists_assign_of_ofCode? {fact : HaveLine} (found : HaveLine.ofCode? code = some fact) :
    ∃ head : HaveHead, ∃ typed gap, head.name = fact.name ∧ code = head.assign typed gap ++ fact.proof ∧
      firstProof? typed = none ∧ allBlank gap = true ∧ Stops isWordChar fact.proof := by
  obtain ⟨head, behind, name, rfl, assigned⟩ := exists_of_ofCode? found
  obtain ⟨typed, gap, rfl, none, blank, stops⟩ := firstProof?_eq_some.1 assigned
  exact ⟨head, typed, gap, name, (head.assign_append ..).symm, none, blank, stops⟩

end HaveHead

end Clause
end ProofDesk
