import ProofDesk.Proofs.Clause.Reading
import ProofDesk.Proofs.Source.Hidden

/-!
# The readings of a line with a character exchanged

The readings of a line look at its code with the comments and literals in it. So a hidden character is
read in four ways: as part of the words at the beginning of the line, as part of the name of a fact, as
part of the signs in front of a proof, and as a blank at the end. Where it is read in none of them, the
line holds the same clauses whatever character it is.

* `Guards` — a character that ends what is read as the beginning of a line.
* `NamesFact` and `FollowsSign` — what stands in front of a character that is read as part of a name or
  of the signs of a proof.
* `Unread` — the character is read in none of these ways.
* `headerClauses_exchange` and `proofClauses_exchange` — the clauses of a line with the character
  exchanged.
-/

namespace ProofDesk
namespace Clause

open Source (LineScan byWord proofSign tacticSign)
open Text (Misses after?_append_cons after?_eq_some after?_of_misses allBlank indentation isBlank size
  trim trimEnd trimStart)

variable {front part rest behind : Text} {c c' d : Char}

/-! ### The beginning of a line -/

/-- The words by which the beginning of a line is read. -/
def leadingWords : List Text :=
  let others : List Text := ["private ", "protected ", "@[", "have", "by "]
  declarationWords ++ commandWords ++ tacticWords ++ others

/-- **A character of none of these words.** The beginning of a line is read without a look behind it. -/
structure Guards (d : Char) : Prop where
  visible : isBlank d = false
  absent : ∀ word ∈ leadingWords, d ∉ word

section Words

variable {p : Char → Bool} {literal literal' : String} {word t : Text}

theorem all_toList {chars : List Char} (same : literal = String.ofList chars)
    (all : chars.all p = true) : literal.toList.all p = true := by
  rw [same, String.toList_ofList]
  exact all

theorem all_toList_append (all : literal.toList.all p = true) (all' : literal'.toList.all p = true) :
    (literal ++ literal').toList.all p = true := by
  rw [String.toList_append, List.all_append, all, all']
  rfl

/-- The words of a text have its characters. -/
theorem all_of_mem_splitOn {mark : Char} (all : t.all p = true) (member : word ∈ Text.splitOn mark t) :
    word.all p = true := by
  induction t generalizing word with
  | nil =>
    obtain rfl := List.mem_singleton.1 member
    rfl
  | cons c t ih =>
    rw [List.all_cons, Bool.and_eq_true] at all
    obtain ⟨first, others, pieces⟩ := List.exists_cons_of_ne_nil (Text.splitOn_ne_nil mark t)
    rw [pieces] at ih
    simp only [Text.splitOn, pieces] at member
    split at member
    · rcases List.mem_cons.1 member with rfl | later
      · rfl
      · exact ih all.2 later
    · rcases List.mem_cons.1 member with rfl | later
      · rw [List.all_cons, all.1, ih all.2 (List.mem_cons_self ..)]
        rfl
      · exact ih all.2 (List.mem_cons_of_mem _ later)

/-- The characters of the words at the beginning of a line. -/
def isLeadingChar (c : Char) : Bool :=
  c.isLower || c == ' ' || c == '_' || c == '#' || c == '@' || c == '['

theorem all_isLeadingChar (member : word ∈ leadingWords) : word.all isLeadingChar = true := by
  rw [leadingWords, List.mem_append, List.mem_append, List.mem_append] at member
  rcases member with ((declaration | command) | tactic) | other
  · exact all_of_mem_splitOn (all_toList rfl (by decide)) declaration
  · exact all_of_mem_splitOn
      (all_toList_append (all_toList rfl (by decide)) (all_toList rfl (by decide))) command
  · exact all_of_mem_splitOn (all_toList_append (all_toList_append (all_toList_append
      (all_toList rfl (by decide)) (all_toList rfl (by decide))) (all_toList rfl (by decide)))
      (all_toList rfl (by decide))) tactic
  · have all : ["private ".toList, "protected ".toList, "@[".toList, "have".toList,
        "by ".toList].all (fun word => word.all isLeadingChar) = true := by decide
    exact List.all_eq_true.1 all word other

end Words

theorem guards_of_visible (visible : isBlank d = false) (other : isLeadingChar d = false) : Guards d :=
  ⟨visible, fun word member inside => by
    have leading := List.all_eq_true.1 (all_isLeadingChar member) d inside
    rw [other] at leading
    cases leading⟩

theorem guards_slash : Guards '/' := guards_of_visible (by decide) (by decide)

theorem guards_quote : Guards '"' := guards_of_visible (by decide) (by decide)

theorem indentation_of_visible (member : d ∈ front) (visible : isBlank d = false) (rest : Text) :
    indentation (front ++ rest) = indentation front := by
  unfold indentation
  rw [List.takeWhile_append, if_neg]
  intro lengths
  have whole : front.takeWhile isBlank = front :=
    (List.takeWhile_prefix _).eq_of_length lengths
  have blank := List.all_eq_true.1 (whole ▸ List.all_takeWhile) d member
  rw [visible] at blank
  cases blank

theorem trimStart_of_visible (member : d ∈ front) (visible : isBlank d = false) (rest : Text) :
    trimStart (front ++ rest) = trimStart front ++ rest := by
  obtain ⟨first, last, rfl⟩ := List.append_of_mem member
  rw [List.append_assoc, List.cons_append, Text.trimStart_append_cons visible,
    Text.trimStart_append_cons visible, List.append_assoc, List.cons_append]

/-- A visible character stays when the line is trimmed, with what stands in front of it. -/
theorem exists_trim (member : d ∈ front) (visible : isBlank d = false) :
    ∃ first, ∀ rest, ∃ tail, trim (front ++ rest) = first ++ d :: tail := by
  obtain ⟨first, last, rfl⟩ := List.append_of_mem member
  refine ⟨trimStart first, fun rest => ⟨trimEnd (last ++ rest), ?_⟩⟩
  rw [List.append_assoc, List.cons_append, Text.trim_append_cons visible]

/-- The first word of a line does not reach over a character of none of the words. -/
theorem contains_firstWord {words : List Text} (absent : ∀ word ∈ words, d ∉ word)
    (front rest rest' : Text) : words.contains (firstWord (front ++ d :: rest)) =
      words.contains (firstWord (front ++ d :: rest')) := by
  have missing : ∀ front rest : Text, words.contains (front ++ d :: rest) = false := by
    intro front rest
    rw [Bool.eq_false_iff]
    intro inside
    exact absent _ (List.contains_iff_mem.1 inside) (by simp)
  unfold firstWord
  rw [List.takeWhile_append, List.takeWhile_append]
  split
  · rw [List.takeWhile_cons, List.takeWhile_cons]
    split
    · rw [missing, missing]
    · rfl
  · rfl

namespace Guards

theorem enter_eq (guards : Guards d) (member : d ∈ front) (context : Context) (rest rest' : Text) :
    context.enter (front ++ rest) = context.enter (front ++ rest') := by
  obtain ⟨first, trimmed⟩ := exists_trim member guards.visible
  obtain ⟨tail, whole⟩ := trimmed rest
  obtain ⟨tail', whole'⟩ := trimmed rest'
  have absent := guards.absent
  simp only [leadingWords, List.mem_append] at absent
  have starts : startsDeclaration (first ++ d :: tail) = startsDeclaration (first ++ d :: tail') :=
    startsDeclaration_append_cons ⟨absent _ (.inr (by simp)), absent _ (.inr (by simp))⟩
      (fun word member => absent word (.inl (.inl (.inl member)))) first tail tail'
  have command : isTopLevelCommand (first ++ d :: tail) = isTopLevelCommand (first ++ d :: tail') := by
    have sign : d ∉ "@[".toList := absent _ (.inr (by simp))
    unfold isTopLevelCommand
    rw [after?_append_cons sign, after?_append_cons sign, Option.isSome_map, Option.isSome_map,
      contains_firstWord (fun word member => absent word (.inl (.inl (.inr member)))) first tail tail']
  unfold Context.enter
  dsimp only
  rw [whole, whole', starts, command, indentation_of_visible member guards.visible,
    indentation_of_visible member guards.visible]

theorem isTacticLine_eq (guards : Guards d) (member : d ∈ front) (rest rest' : Text) :
    isTacticLine (trim (front ++ rest)) = isTacticLine (trim (front ++ rest')) := by
  obtain ⟨first, trimmed⟩ := exists_trim member guards.visible
  obtain ⟨tail, whole⟩ := trimmed rest
  obtain ⟨tail', whole'⟩ := trimmed rest'
  rw [whole, whole']
  refine contains_firstWord (fun word member => guards.absent word ?_) first tail tail'
  exact List.mem_append_left _ (List.mem_append_right _ member)

end Guards

/-! ### Trimming -/

theorem size_exchange (sized : c'.utf8Size = c.utf8Size) (before after : Text) :
    size (before ++ c' :: after) = size (before ++ c :: after) := by
  rw [Text.size_append, Text.size_append, Text.size_cons, Text.size_cons, sized]

theorem drop_length_indentation (t rest : Text) :
    (t ++ rest).drop (indentation t).length = trimStart t ++ rest := by
  calc (t ++ rest).drop (indentation t).length =
        ((indentation t ++ trimStart t) ++ rest).drop (indentation t).length := by
        rw [Text.indentation_append_trimStart]
    _ = trimStart t ++ rest := by rw [List.append_assoc, List.drop_left]

/-- **A segment with a character exchanged** is trimmed at the same places. -/
theorem trimmedAt_exchange (solid : allBlank front = false) (sized : c'.utf8Size = c.utf8Size)
    (ends : isBlank c = isBlank c' ∨ allBlank rest = false) (column : Nat) :
    (trimmedAt column (front ++ c' :: rest)).1 = (trimmedAt column (front ++ c :: rest)).1 ∧
      size (trimmedAt column (front ++ c' :: rest)).2 =
        size (trimmedAt column (front ++ c :: rest)).2 := by
  obtain ⟨d, member, visible⟩ := Text.allBlank_eq_false.1 solid
  have shows : ∀ t, allBlank (front ++ t) = false := fun t =>
    Text.allBlank_eq_false.2 ⟨d, List.mem_append_left t member, visible⟩
  -- What is cut off at the end does not depend on the character.
  have cut : ∀ first, size (trimEnd (first ++ c' :: rest)) = size (trimEnd (first ++ c :: rest)) := by
    intro first
    cases blank : allBlank rest with
    | false =>
      obtain ⟨e, inside, shown⟩ := Text.allBlank_eq_false.1 blank
      obtain ⟨gap, last, rfl⟩ := List.append_of_mem inside
      have split : ∀ x, trimEnd (first ++ x :: (gap ++ e :: last)) =
          first ++ x :: (gap ++ e :: trimEnd last) := by
        intro x
        have line : ∀ last, first ++ x :: (gap ++ e :: last) = (first ++ x :: gap) ++ e :: last := by
          simp
        rw [line, line, Text.trimEnd_append_cons shown]
      rw [split, split]
      exact size_exchange sized ..
    | true =>
      have same := ends.resolve_right (by simp [blank])
      cases white : isBlank c with
      | true =>
        have line : ∀ x, isBlank x = true → trimEnd (first ++ x :: rest) = trimEnd first := by
          intro x white
          refine Text.trimEnd_append ?_ first
          rw [allBlank, List.all_cons, white, ← allBlank, blank, Bool.true_and]
        rw [line c white, line c' (same ▸ white)]
      | false =>
        rw [Text.trimEnd_append_cons white, Text.trimEnd_append_cons (same ▸ white)]
        exact size_exchange sized ..
  unfold trimmedAt
  rw [if_neg (by simp [shows]), if_neg (by simp [shows]), indentation_of_visible member visible,
    indentation_of_visible member visible, trim, trim, trimStart_of_visible member visible,
    trimStart_of_visible member visible]
  exact ⟨rfl, cut _⟩

/-! ### The signs of a proof -/

/-- The text ends in a proof sign, or in a proof sign and a part of the word `by` behind it, with any
blanks around that word. -/
def FollowsSign (front : Text) : Prop :=
  ∃ text gap part, front = text ++ (proofSign ++ (gap ++ part)) ∧ allBlank gap = true ∧
    (part = [] ∨ part = ['b'] ∨ ∃ blanks, part = byWord ++ blanks ∧ allBlank blanks = true)

theorem FollowsSign.of_suffix (follows : FollowsSign part) (suffix : part <:+ front) :
    FollowsSign front := by
  obtain ⟨text, gap, begun, rfl, blank, ends⟩ := follows
  obtain ⟨more, rfl⟩ := suffix
  exact ⟨more ++ text, gap, begun, by simp, blank, ends⟩

/-- A text that ends so ends in a blank or in a character of the signs. -/
theorem FollowsSign.getLast? (follows : FollowsSign front) :
    ∃ x, front.getLast? = some x ∧ (isBlank x = true ∨ x ∈ ['=', 'b', 'y']) := by
  obtain ⟨text, gap, begun, rfl, blank, ends⟩ := follows
  have last : ∀ {t : Text} {y : Char}, allBlank t = true → isBlank y = true ∨ y ∈ ['=', 'b', 'y'] →
      ∃ x, (y :: t).getLast? = some x ∧ (isBlank x = true ∨ x ∈ ['=', 'b', 'y']) := by
    intro t y blank known
    refine ⟨t.getLast?.getD y, List.getLast?_cons, ?_⟩
    cases shape : t.getLast? with
    | none => exact known
    | some x => exact .inl (List.all_eq_true.1 blank x (List.mem_of_getLast? shape))
  rcases ends with rfl | rfl | ⟨blanks, rfl, blank'⟩
  · obtain ⟨x, same, known⟩ := last (y := '=') blank (by decide)
    exact ⟨x, by simp [proofSign, same], known⟩
  · exact ⟨'b', by simp, by decide⟩
  · obtain ⟨x, same, known⟩ := last (y := 'y') blank' (by decide)
    exact ⟨x, by simp [byWord, same], known⟩

theorem misses_tacticSign (misses : Misses proofSign front c rest) (apart : ¬ FollowsSign front) :
    Misses tacticSign front c rest := by
  intro begun more inside whole reaches
  rcases begun with _ | ⟨x, _ | ⟨y, _ | ⟨z, _ | ⟨w, _ | ⟨v, begun⟩⟩⟩⟩⟩
  · cases whole
    exact misses [] ['='] inside rfl (List.IsPrefix.trans (by decide) reaches)
  · cases whole
    exact misses [':'] [] inside rfl (List.nil_prefix)
  · cases whole
    exact apart (FollowsSign.of_suffix ⟨[], [], [], rfl, rfl, .inl rfl⟩ inside)
  · cases whole
    exact apart (FollowsSign.of_suffix ⟨[], [' '], [], rfl, rfl, .inl rfl⟩ inside)
  · cases whole
    exact apart (FollowsSign.of_suffix ⟨[], [' '], ['b'], rfl, rfl, .inr (.inl rfl)⟩ inside)
  · cases begun <;> cases whole

/-- Behind a tactic sign in front of the character, something visible stands before it. -/
theorem solid_of_breakOn? (apart : ¬ FollowsSign front) {before inside : Text}
    (found : Text.breakOn? tacticSign front = some (before, inside)) : allBlank inside = false := by
  rw [Bool.eq_false_iff]
  intro blank
  obtain rfl := Text.eq_of_breakOn? found
  exact apart ⟨before, [' '], byWord ++ inside, by simp [tacticSign, proofSign, byWord], rfl,
    .inr (.inr ⟨inside, rfl, blank⟩)⟩

/-- A proof sign in front of the character introduces a proof by itself, or none. -/
theorem proofAfterAssign?_exchange (misses : Misses proofSign front c rest)
    (apart : ¬ FollowsSign front) :
    proofAfterAssign? (front ++ c :: rest) = (proofAfterAssign? front).map (· ++ c :: rest) := by
  unfold proofAfterAssign?
  rw [after?_of_misses misses]
  cases sign : Text.after? proofSign front with
  | none => rfl
  | some inside =>
    obtain rfl := after?_eq_some.1 sign
    show (Text.after? byWord (trimStart (inside ++ c :: rest))).bind _ =
      Option.map _ ((Text.after? byWord (trimStart inside)).bind _)
    have shows : allBlank inside = false := by
      rw [Bool.eq_false_iff]
      intro blank
      exact apart ⟨[], inside, [], by simp, blank, .inl rfl⟩
    obtain ⟨d, member, visible⟩ := Text.allBlank_eq_false.1 shows
    rw [trimStart_of_visible member visible]
    have whole : proofSign ++ inside = [] ++ (proofSign ++ (indentation inside ++ trimStart inside)) := by
      rw [Text.indentation_append_trimStart, List.nil_append]
    have blank : allBlank (indentation inside) = true := List.all_takeWhile
    have short : ∀ more, byWord = trimStart inside ++ c :: more → ¬ more <+: rest := by
      intro more word
      exfalso
      rcases begun : trimStart inside with _ | ⟨b, _ | ⟨y, others⟩⟩
      · rw [begun] at whole
        exact apart ⟨[], _, _, whole, blank, .inl rfl⟩
      · rw [begun] at whole word
        obtain ⟨rfl, -⟩ := List.cons.inj word
        exact apart ⟨[], _, _, whole, blank, .inr (.inl rfl)⟩
      · rw [begun] at word
        cases others <;> cases word
    rw [Text.after?_append_of_apart short]
    cases word : Text.after? byWord (trimStart inside) with
    | none => rfl
    | some body =>
      have more : body ≠ [] := by
        rintro rfl
        refine apart ⟨[], _, _, whole, blank, .inr (.inr ⟨[], ?_, rfl⟩)⟩
        exact after?_eq_some.1 word
      obtain ⟨e, body, rfl⟩ := List.exists_cons_of_ne_nil more
      show (if Text.isWordChar e = true then none else some _) =
        Option.map _ (if Text.isWordChar e = true then none else some _)
      split <;> rfl

/-- **The first tactic proof of a text** begins in front of the character, or else behind it. -/
theorem firstProof?_exchange (misses : Misses proofSign front c rest) (apart : ¬ FollowsSign front) :
    firstProof? (front ++ c :: rest) =
      ((firstProof? front).map (· ++ c :: rest)).or (firstProof? rest) := by
  induction front with
  | nil =>
    have here : proofAfterAssign? (c :: rest) = none := proofAfterAssign?_exchange misses apart
    show (proofAfterAssign? (c :: rest)).or (firstProof? rest) = _
    rw [here]
    rfl
  | cons e front ih =>
    have suffix : front <:+ e :: front := List.suffix_cons ..
    have later := ih (misses.of_suffix suffix) fun follows => apart (follows.of_suffix suffix)
    have here := proofAfterAssign?_exchange misses apart
    have split : firstProof? (e :: front) = (proofAfterAssign? (e :: front)).or (firstProof? front) :=
      rfl
    rw [List.cons_append] at here ⊢
    rw [firstProof?, here, later, split]
    cases proofAfterAssign? (e :: front) <;> rfl

theorem solid_of_firstProof? (apart : ¬ FollowsSign front) {body : Text}
    (found : firstProof? front = some body) : allBlank body = false := by
  rw [Bool.eq_false_iff]
  intro blank
  obtain ⟨before, gap, rfl, -, white, -⟩ := firstProof?_eq_some.1 found
  exact apart ⟨before, gap, byWord ++ body, rfl, white, .inr (.inr ⟨body, rfl, blank⟩)⟩

/-! ### The names of facts -/

/-- The text is the beginning of a `have` line, up to a place in the name of the fact or in the blanks
behind it. -/
def NamesFact (front : Text) : Prop :=
  ∃ indent blanks name gap, front = indent ++ ("have".toList ++ (blanks ++ (name ++ gap))) ∧
    allBlank indent = true ∧ blanks ≠ [] ∧ allBlank blanks = true ∧
    (∀ x ∈ name, isHaveNameChar x = true) ∧ allBlank gap = true

/-- There is no colon up to such a place. -/
theorem NamesFact.not_mem (names : NamesFact front) : ':' ∉ front := by
  obtain ⟨indent, blanks, name, gap, rfl, indented, -, blank, named, between⟩ := names
  have visible : ∀ {t : Text}, allBlank t = true → ':' ∉ t := fun blank inside =>
    absurd (List.all_eq_true.1 blank ':' inside) (by decide)
  have word : ':' ∉ "have".toList := by decide
  simp only [List.mem_append, not_or]
  exact ⟨visible indented, word, visible blank, fun inside => absurd (named ':' inside) (by decide),
    visible between⟩

theorem prefix_append_cases {first last : Text} (begins : part <+: first ++ last) :
    part <+: first ∨ ∃ more, part = first ++ more ∧ more <+: last := by
  rcases List.prefix_or_prefix_of_prefix begins (List.prefix_append first last) with short | ⟨more, rfl⟩
  · exact .inl short
  · exact .inr ⟨more, rfl, (List.prefix_append_right_inj first).1 begins⟩

/-- A front part of a `have` line that reaches behind the word ends in the name or behind the colon. -/
theorem namesFact_of_front (guards : Guards d) (member : d ∈ front) {head : HaveHead}
    (begins : front <+:
      head.indent ++ ("have".toList ++ (head.blanks ++ (head.name ++ head.gap)))) :
    NamesFact front := by
  have visible : ∀ {t : Text}, allBlank t = true → d ∉ t := by
    intro t blank inside
    rw [Text.allBlank_eq_false.2 ⟨d, inside, guards.visible⟩] at blank
    cases blank
  have word : d ∉ "have".toList :=
    guards.absent _ (List.mem_append_right _ (by simp))
  have indent := visible head.indented
  have blanks := visible head.blank
  rcases prefix_append_cases begins with short | ⟨first, rfl, inLine⟩
  · exact absurd (short.subset member) indent
  have member := (List.mem_append.1 member).resolve_left indent
  rcases prefix_append_cases inLine with short | ⟨second, rfl, behindWord⟩
  · exact absurd (short.subset member) word
  have member := (List.mem_append.1 member).resolve_left word
  rcases prefix_append_cases behindWord with short | ⟨third, rfl, inName⟩
  · exact absurd (short.subset member) blanks
  rcases prefix_append_cases inName with short | ⟨last, rfl, behindName⟩
  · exact ⟨head.indent, head.blanks, third, [], by simp, head.indented, head.apart, head.blank,
      fun x inside => head.named x (short.subset inside), rfl⟩
  · refine ⟨head.indent, head.blanks, head.name, last, rfl, head.indented, head.apart, head.blank,
      head.named, ?_⟩
    exact List.all_eq_true.2 fun x inside =>
      List.all_eq_true.1 head.between x (behindName.subset inside)

/-- **A `have` line around a character**: its head stands in front of the character, or the line is none
whatever the character is. -/
theorem have_cases (guards : Guards d) (member : d ∈ front) (unnamed : ¬ NamesFact front) :
    (∃ head : HaveHead, ∃ typed, front = head.before typed) ∨
      ∀ x rest, HaveLine.ofCode? (front ++ x :: rest) = none := by
  by_cases headed : ∃ head : HaveHead, ∃ typed, front = head.before typed
  · exact .inl headed
  · refine .inr fun x rest => ?_
    cases found : HaveLine.ofCode? (front ++ x :: rest) with
    | none => rfl
    | some fact =>
      exfalso
      obtain ⟨head, behind, -, whole, -⟩ := HaveHead.exists_of_ofCode? found
      have cut : front ++ x :: rest =
          (head.indent ++ ("have".toList ++ (head.blanks ++ (head.name ++ head.gap)))) ++
            ':' :: behind := by
        rw [whole, HaveHead.before]
        simp only [List.append_assoc]
      rcases List.append_eq_append_iff.1 cut with ⟨more, same, -⟩ | ⟨more, same, reaches⟩
      · exact unnamed (namesFact_of_front guards member ⟨more, same.symm⟩)
      · cases more with
        | nil =>
          rw [List.append_nil] at same
          exact unnamed (namesFact_of_front guards member ⟨[], by rw [List.append_nil, same]⟩)
        | cons e typed =>
          obtain ⟨rfl, -⟩ := List.cons.inj reaches
          refine headed ⟨head, typed, ?_⟩
          rw [same, HaveHead.before]
          simp only [List.append_assoc]

/-! ### The clauses of the line -/

/-- What the map of clauses tells of a clause besides its text. -/
def entry (clause : Clause) : Text × Category × Position × Position :=
  (clause.id, clause.category, clause.start, clause.stop)

theorem entry_place {id : Text} {category : Category} {n column column' : Nat} {content content' : Text}
    (start : column' = column) (sized : size content' = size content) :
    entry (place id category n column' content') = entry (place id category n column content) := by
  unfold entry place
  rw [start, sized]

/-- **The readings of a line pass over a character** that stands between `front` and `rest`, and over
another one in its place: neither is read as part of a name or of the signs of a proof, and both are
blank or none is, unless something visible stands behind. -/
structure Unread (front : Text) (c c' : Char) (rest : Text) : Prop where
  unnamed : ¬ NamesFact front
  unsigned : ¬ FollowsSign front
  misses : Misses proofSign front c rest
  misses' : Misses proofSign front c' rest
  ends : isBlank c = isBlank c' ∨ allBlank rest = false

theorem Unread.of_front (unread : Unread front c c' rest) (begins : behind <+: rest)
    (reaches : allBlank behind = true → behind = rest) : Unread front c c' behind where
  unnamed := unread.unnamed
  unsigned := unread.unsigned
  misses begun more suffix whole inside := unread.misses begun more suffix whole (inside.trans begins)
  misses' begun more suffix whole inside := unread.misses' begun more suffix whole (inside.trans begins)
  ends := unread.ends.imp_right fun solid => by
    rw [Bool.eq_false_iff]
    intro blank
    rw [← reaches blank, blank] at solid
    cases solid

variable {scan scan' : LineScan} {n count : Nat}

theorem headerClauses_exchange (exchanged : scan.Exchanged scan' front c c' behind)
    (unread : Unread front c c' behind) (sized : c'.utf8Size = c.utf8Size) (count n : Nat) :
    (headerClauses count n scan').1 = (headerClauses count n scan).1 ∧
      (headerClauses count n scan').2.map entry = (headerClauses count n scan).2.map entry := by
  have solid : tacticSign ≠ [] := by decide
  unfold headerClauses
  rw [exchanged.code, exchanged.code', exchanged.sorries,
    Text.breakOn?_of_misses solid (misses_tacticSign unread.misses unread.unsigned),
    Text.breakOn?_of_misses solid (misses_tacticSign unread.misses' unread.unsigned),
    Text.contains_of_misses (by decide) unread.misses, Text.contains_of_misses (by decide) unread.misses']
  cases early : Text.breakOn? tacticSign front with
  | some cut =>
    obtain ⟨before, inside⟩ := cut
    have shows := solid_of_breakOn? unread.unsigned early
    obtain ⟨start, wide⟩ :=
      trimmedAt_exchange shows sized unread.ends (size before + size tacticSign)
    dsimp only [Option.map_some, Option.some_or]
    split
    · have empty : (trimmedAt (size before + size tacticSign) (inside ++ c' :: behind)).2 = [] ↔
          (trimmedAt (size before + size tacticSign) (inside ++ c :: behind)).2 = [] := by
        rw [← Text.size_eq_zero, ← Text.size_eq_zero, wide]
      refine ⟨rfl, ?_⟩
      dsimp only
      by_cases none : (trimmedAt (size before + size tacticSign) (inside ++ c :: behind)).2 = []
      · rw [if_pos none, if_pos (empty.2 none)]
      · rw [if_neg none, if_neg fun same => none (empty.1 same)]
        exact congrArg (fun line => [line]) (entry_place start wide)
    · exact ⟨rfl, rfl⟩
  | none =>
    cases late : Text.breakOn? tacticSign behind with
    | some cut =>
      dsimp only [Option.map_some, Option.map_none, Option.none_or]
      rw [size_exchange sized]
      exact ⟨rfl, rfl⟩
    | none => exact ⟨rfl, rfl⟩

/-- The fact that a `have` line proves, with the character exchanged. -/
theorem haveLine_exchange (guards : Guards d) (member : d ∈ front) (unread : Unread front c c' rest) :
    (HaveLine.ofCode? (front ++ c :: rest) = HaveLine.ofCode? (front ++ c' :: rest)) ∨
      ∃ name inside, allBlank inside = false ∧
        HaveLine.ofCode? (front ++ c :: rest) = some ⟨name, inside ++ c :: rest⟩ ∧
        HaveLine.ofCode? (front ++ c' :: rest) = some ⟨name, inside ++ c' :: rest⟩ := by
  rcases have_cases guards member unread.unnamed with ⟨head, typed, rfl⟩ | none
  · have suffix : typed <:+ head.before typed :=
      ⟨head.indent ++ ("have".toList ++ (head.blanks ++ (head.name ++ (head.gap ++ [':'])))),
        by simp [HaveHead.before]⟩
    have apart : ¬ FollowsSign typed := fun follows => unread.unsigned (follows.of_suffix suffix)
    rw [head.before_append, head.before_append, head.ofCode?_before, head.ofCode?_before,
      firstProof?_exchange (unread.misses.of_suffix suffix) apart,
      firstProof?_exchange (unread.misses'.of_suffix suffix) apart]
    cases early : firstProof? typed with
    | some inside => exact .inr ⟨head.name, inside, solid_of_firstProof? apart early, rfl, rfl⟩
    | none => exact .inl rfl
  · rw [none, none]
    exact .inl rfl

/-- A line begins with `by` or not, whatever stands behind a character of none of the words. -/
theorem afterBy_cases (guards : Guards d) (member : d ∈ front) :
    (∀ t, Text.after? (byWord ++ [' ']) (trim (front ++ t)) = none) ∨
      ∃ inside, allBlank inside = false ∧ ∀ t,
        (Text.after? (byWord ++ [' ']) (trim (front ++ t))).isSome = true ∧
          (trimStart (front ++ t)).drop 3 = inside ++ t := by
  obtain ⟨first, last, rfl⟩ := List.append_of_mem member
  have word : d ∉ byWord ++ [' '] := guards.absent _ (List.mem_append_right _ (by simp [byWord]))
  have line : ∀ t, Text.after? (byWord ++ [' ']) (trim (first ++ d :: last ++ t)) =
      (Text.after? (byWord ++ [' ']) (trimStart first)).map (· ++ d :: trimEnd (last ++ t)) := by
    intro t
    rw [List.append_assoc, List.cons_append, Text.trim_append_cons guards.visible,
      after?_append_cons word]
  cases begins : Text.after? (byWord ++ [' ']) (trimStart first) with
  | none => exact .inl fun t => by rw [line, begins, Option.map_none]
  | some inside =>
    have shows : allBlank (inside ++ d :: last) = false :=
      Text.allBlank_eq_false.2 ⟨d, by simp, guards.visible⟩
    refine .inr ⟨inside ++ d :: last, shows, fun t => ⟨?_, ?_⟩⟩
    · rw [line, begins]
      rfl
    · rw [List.append_assoc, List.cons_append, Text.trimStart_append_cons guards.visible,
        after?_eq_some.1 begins, List.append_assoc, List.append_assoc inside, List.cons_append]
      rfl

theorem proofClauses_exchange (exchanged : scan.Exchanged scan' front c c' behind)
    (unread : Unread front c c' behind) (guards : Guards d) (member : d ∈ front)
    (sized : c'.utf8Size = c.utf8Size) (ends : isBlank c = isBlank c' ∨ allBlank rest = false)
    (taken : List Text) (n : Nat) :
    (proofClauses taken n (front ++ c' :: rest) scan').map entry =
      (proofClauses taken n (front ++ c :: rest) scan).map entry := by
  have indent := indentation_of_visible member guards.visible
  unfold proofClauses
  dsimp only
  rw [exchanged.code, exchanged.code', exchanged.sorries, indent, indent]
  rcases haveLine_exchange guards member unread with same | ⟨name, inside, shows, proved, proved'⟩
  · rw [← same]
    cases HaveLine.ofCode? (front ++ c :: behind) with
    | some fact =>
      dsimp only
      rw [size_exchange sized]
    | none =>
      dsimp only
      split
      · rcases afterBy_cases guards member with plain | ⟨inside, shows, block⟩
        · -- The whole line is replaced, with the remark at its end.
          have shows : allBlank (trimStart front) = false := by
            obtain ⟨first, last, rfl⟩ := List.append_of_mem member
            rw [Text.trimStart_append_cons guards.visible]
            exact Text.allBlank_eq_false.2 ⟨d, by simp, guards.visible⟩
          obtain ⟨start, wide⟩ := trimmedAt_exchange shows sized ends (size (indentation front))
          rw [plain, plain]
          dsimp only
          rw [guards.isTacticLine_eq member (c' :: behind) (c :: behind),
            drop_length_indentation, drop_length_indentation]
          exact congrArg (fun line => [line]) (entry_place start wide)
        · obtain ⟨start, wide⟩ :=
            trimmedAt_exchange shows sized unread.ends (size (indentation front) + 3)
          obtain ⟨tail, begins⟩ := Option.isSome_iff_exists.1 (block (c :: behind)).1
          obtain ⟨tail', begins'⟩ := Option.isSome_iff_exists.1 (block (c' :: behind)).1
          rw [begins, begins']
          dsimp only
          rw [(block _).2, (block _).2]
          exact congrArg (fun line => [line]) (entry_place start wide)
      · rfl
  · rw [proved, proved']
    dsimp only
    obtain ⟨start, wide⟩ := trimmedAt_exchange shows sized unread.ends
      (size (front ++ c :: behind) - size (inside ++ c :: behind))
    rw [size_exchange sized front, size_exchange sized inside]
    exact congrArg (fun line => [line]) (entry_place start wide)

end Clause
end ProofDesk
