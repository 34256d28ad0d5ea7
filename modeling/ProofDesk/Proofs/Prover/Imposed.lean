import ProofDesk.Proofs.Prover.Conversation
import ProofDesk.Proofs.Prover.Signature
import ProofDesk.Proofs.Source.Site
import ProofDesk.Proofs.Text.Piece

/-!
# Statements imposed on themselves

The name of a statement is read by one reader and found again by another one, in the statement and
in the code. The second reader does not know that a strict-implicit binder may follow a name
directly. Where both find the name, the text is cut behind the first proof sign, and what follows
the sign does not move the cut.

* `splitAtLine?_eq_some` — a text is cut at the first line of a kind.
* `DeclaredAt` and `FirstDeclaration` — the declarations that begin lines; `declaresHere_iff` says
  which of them the second reader finds.
* `imposedText_self_iff` — a statement imposed on itself is itself exactly when such a declaration
  with a proof sign behind it stands in the statement.
* `cutAtProof?_append` — what follows the sign does not move the cut.
* `imposedText_idem` — imposing a statement twice is imposing it once, so cleaned code that is sent
  back is verified as the same text.
-/

namespace ProofDesk
namespace Statement

open Source (Stops isNameChar proofSign)

variable {atStart : Bool} {p : Text → Bool} {statement code name t front here rest behind signature
  proof : Text} {c : Char}

/-! ### The first line of a kind -/

/-- A line begins behind `front`; `atStart` tells whether one begins where the text does. -/
def BeginsLine (atStart : Bool) (front : Text) : Prop :=
  front.getLast?.elim atStart (· == '\n') = true

theorem beginsLine_cons : BeginsLine atStart (c :: front) ↔ BeginsLine (c == '\n') front := by
  unfold BeginsLine
  rw [List.getLast?_cons]
  cases front.getLast? <;> rfl

/-- What a text is cut at begins a line, and no earlier line is of the kind. -/
theorem first_of_splitAtLine? (found : splitAtLine? p atStart t = some (front, rest)) :
    BeginsLine atStart front ∧ ∀ front' rest', t = front' ++ rest' → BeginsLine atStart front' →
      p rest' = true → front.length ≤ front'.length := by
  induction t generalizing atStart front with
  | nil =>
    unfold splitAtLine? at found
    split at found
    · next here =>
      cases found
      exact ⟨(Bool.and_eq_true_iff.1 here).1, fun _ _ _ _ _ => Nat.zero_le _⟩
    · cases found
  | cons c t ih =>
    unfold splitAtLine? at found
    split at found
    · next here =>
      cases found
      exact ⟨(Bool.and_eq_true_iff.1 here).1, fun _ _ _ _ _ => Nat.zero_le _⟩
    · next other =>
      obtain ⟨⟨front, rest⟩, deeper, same⟩ := Option.map_eq_some_iff.1 found
      cases same
      obtain ⟨begins, first⟩ := ih deeper
      refine ⟨beginsLine_cons.2 begins, fun front' rest' whole begins' holds => ?_⟩
      cases front' with
      | nil =>
        obtain rfl : c :: t = rest' := whole
        exact absurd (Bool.and_eq_true_iff.2 ⟨begins', holds⟩) other
      | cons d front' =>
        obtain ⟨rfl, tails⟩ := List.cons.inj whole
        exact Nat.succ_le_succ (first front' rest' tails (beginsLine_cons.1 begins') holds)

theorem isSome_splitAtLine? (begins : BeginsLine atStart front) (holds : p rest = true) :
    (splitAtLine? p atStart (front ++ rest)).isSome = true := by
  induction front generalizing atStart with
  | nil =>
    have start : atStart = true := begins
    rw [start, List.nil_append, splitAtLine?_of_here holds]
    rfl
  | cons c front ih =>
    rw [List.cons_append, splitAtLine?]
    split
    · rfl
    · rw [Option.isSome_map]
      exact ih (beginsLine_cons.1 begins)

/-- **A text is cut at the first line of a kind.** -/
theorem splitAtLine?_eq_some : splitAtLine? p atStart t = some (front, rest) ↔
    t = front ++ rest ∧ BeginsLine atStart front ∧ p rest = true ∧
      ∀ front' rest', t = front' ++ rest' → BeginsLine atStart front' → p rest' = true →
        front.length ≤ front'.length := by
  constructor
  · intro found
    obtain ⟨whole, holds⟩ := eq_of_splitAtLine? found
    obtain ⟨begins, first⟩ := first_of_splitAtLine? found
    exact ⟨whole, begins, holds, first⟩
  · rintro ⟨rfl, begins, holds, first⟩
    obtain ⟨⟨front', rest'⟩, found⟩ := Option.isSome_iff_exists.1 (isSome_splitAtLine? begins holds)
    obtain ⟨whole, holds'⟩ := eq_of_splitAtLine? found
    obtain ⟨begins', first'⟩ := first_of_splitAtLine? found
    have lengths : front.length = front'.length :=
      Nat.le_antisymm (first front' rest' whole begins' holds') (first' front rest rfl begins holds)
    obtain ⟨rfl, rfl⟩ := List.append_inj whole lengths
    exact found

/-- A text of one line that is not of the kind is not cut. -/
theorem splitAtLine?_eq_none (single : '\n' ∉ t) (other : p t = false) :
    splitAtLine? p true t = none := by
  refine Option.eq_none_iff_forall_ne_some.2 fun sides found => ?_
  obtain ⟨rfl, begins, holds, -⟩ := splitAtLine?_eq_some.1 found
  cases last : sides.1.getLast? with
  | none =>
    rw [List.getLast?_eq_none_iff.1 last, List.nil_append, holds] at other
    cases other
  | some d =>
    rw [BeginsLine, last] at begins
    obtain rfl : d = '\n' := of_decide_eq_true begins
    exact single (List.mem_append_left _ (List.mem_of_getLast? last))

/-! ### Declarations that begin lines -/

/-- A declaration of the name begins a line behind `front`, blanks skipped; `behind` follows the
name. -/
def DeclaredAt (t name front behind : Text) : Prop :=
  ∃ here, t = front ++ here ∧ BeginsLine true front ∧
    Source.nameHere? (Text.trimStart here) = some (name, behind)

/-- The declaration is the first one that begins a line. -/
def FirstDeclaration (t name front behind : Text) : Prop :=
  DeclaredAt t name front behind ∧
    ∀ other front' behind', DeclaredAt t other front' behind' → front.length ≤ front'.length

/-- The first declaration is where a text is cut at the first line that declares something. -/
theorem firstDeclaration_iff : FirstDeclaration t name front behind ↔
    ∃ here, splitAtLine? (fun rest => (nameHere? rest).isSome) true t = some (front, here) ∧
      Source.nameHere? (Text.trimStart here) = some (name, behind) := by
  constructor
  · rintro ⟨⟨here, whole, begins, read⟩, first⟩
    refine ⟨here, splitAtLine?_eq_some.2 ⟨whole, begins, by rw [nameHere?, read]; rfl, ?_⟩, read⟩
    intro front' here' whole' begins' declares
    obtain ⟨other, named⟩ := Option.isSome_iff_exists.1 declares
    obtain ⟨⟨other, behind'⟩, read', rfl⟩ := Option.map_eq_some_iff.1 named
    exact first other front' behind' ⟨here', whole', begins', read'⟩
  · rintro ⟨here, found, read⟩
    obtain ⟨whole, begins, -, first⟩ := splitAtLine?_eq_some.1 found
    refine ⟨⟨here, whole, begins, read⟩, ?_⟩
    rintro other front' behind' ⟨here', whole', begins', read'⟩
    exact first front' here' whole' begins' (by rw [nameHere?, read']; rfl)

/-- **The declared name** is that of the first declaration. -/
theorem declaredName?_eq_some :
    declaredName? t = some name ↔ ∃ front behind, FirstDeclaration t name front behind := by
  constructor
  · intro declared
    obtain ⟨⟨front, here⟩, found, named⟩ := Option.bind_eq_some_iff.1 declared
    obtain ⟨⟨name, behind⟩, read, rfl⟩ := Option.map_eq_some_iff.1 named
    exact ⟨front, behind, firstDeclaration_iff.2 ⟨here, found, read⟩⟩
  · rintro ⟨front, behind, first⟩
    obtain ⟨here, found, read⟩ := firstDeclaration_iff.1 first
    unfold declaredName?
    rw [found]
    show nameHere? here = some name
    rw [nameHere?, read]
    rfl

/-- A character ends the name of the declaration that is looked for when it separates names, unless
it opens a strict-implicit binder. -/
theorem endsName_iff : endsName c = true ↔ isNameChar c = false ∧ c ≠ '⦃' := by
  unfold endsName isNameChar
  cases blank : Text.isBlank c with
  | true =>
    have apart : c ≠ '⦃' := by
      rintro rfl
      exact absurd blank (by decide)
    simp [apart]
  | false => simp; grind

/-- **The declarations that are found** are those that no strict-implicit binder follows directly.
-/
theorem declaresHere_iff (solid : name ≠ []) (named : ∀ c ∈ name, isNameChar c = true) :
    declaresHere name t = true ↔ ∃ behind,
      Source.nameHere? (Text.trimStart t) = some (name, behind) ∧ behind.head? ≠ some '⦃' := by
  unfold declaresHere Source.nameHere?
  cases Source.afterKeyword? (Text.trimStart t) with
  | none => simp
  | some tail =>
    constructor
    · intro found
      obtain ⟨behind, after, ends⟩ := (Option.any_eq_true ..).1 found
      obtain rfl := Text.after?_eq_some.1 after
      have stops : Stops isNameChar behind := fun c first =>
        (endsName_iff.1 (by simpa [first] using ends)).1
      refine ⟨behind, ?_, fun first => absurd ends (by rw [first]; decide)⟩
      show (if _ then none else some (_, _)) = _
      rw [Source.takeWhile_append named stops, Source.dropWhile_append named stops,
        if_neg (by simpa using solid)]
    · rintro ⟨behind, found, plain⟩
      change (if _ then none else some (_, _)) = _ at found
      split at found
      · cases found
      · cases found
        have after : Text.after? (tail.takeWhile isNameChar) tail =
            some (tail.dropWhile isNameChar) :=
          Text.after?_eq_some.2 List.takeWhile_append_dropWhile.symm
        rw [Option.bind_some, after]
        show (tail.dropWhile isNameChar).head?.all endsName = true
        cases first : (tail.dropWhile isNameChar).head? with
        | none => rfl
        | some c =>
          refine endsName_iff.2 ⟨Source.stops_dropWhile tail c first, ?_⟩
          rintro rfl
          exact plain first

/-! ### Proof signs behind declarations -/

theorem colon_not_mem (named : ∀ c ∈ name, isNameChar c = true) : ':' ∉ name := fun member =>
  Source.ne_colon_of_isNameChar (named ':' member) rfl

theorem newline_not_mem (named : ∀ c ∈ name, isNameChar c = true) : '\n' ∉ name := fun member =>
  Source.ne_newline_of_isNameChar (named '\n' member) rfl

/-- No colon stands in a declaration up to its name. -/
theorem exists_lead_of_nameHere?
    (named : Source.nameHere? (Text.trimStart here) = some (name, behind)) :
    ∃ lead, here = lead ++ behind ∧ ':' ∉ lead := by
  obtain ⟨keyword, blanks, declaration⟩ := Source.nameHere?_eq_some.1 named
  refine ⟨Text.indentation here ++ (keyword ++ (blanks ++ name)), ?_, ?_⟩
  · have whole := Text.indentation_append_trimStart here
    rw [declaration.whole] at whole
    simpa using whole.symm
  · have blank : ∀ c, Text.isBlank c = true → c ≠ ':' := by
      rintro c blank rfl
      exact absurd blank (by decide)
    have word := (Source.isWordChar_of_mem_keyword declaration.keyword).2
    simp only [List.mem_append, not_or]
    refine ⟨fun member => ?_, fun member => ?_, fun member => ?_, colon_not_mem declaration.named⟩
    · exact blank ':' (List.all_eq_true.1 List.all_takeWhile ':' member) rfl
    · exact Source.ne_colon_of_isNameChar (Source.isNameChar_of_isWordChar (word ':' member)) rfl
    · exact blank ':' (declaration.blank ':' member) rfl

/-- A proof sign behind the beginning of a declaration is behind its name. -/
theorem proofSign_infix_iff (named : Source.nameHere? (Text.trimStart here) = some (name, behind)) :
    proofSign <:+: here ↔ proofSign <:+: behind := by
  obtain ⟨lead, rfl, clear⟩ := exists_lead_of_nameHere? named
  unfold proofSign
  rw [Text.pair_infix_append]
  constructor
  · rintro (inside | inside | ⟨last, -⟩)
    · exact absurd (inside.subset (List.mem_cons_self ..)) clear
    · exact inside
    · exact absurd (List.mem_of_getLast? last) clear
  · exact fun inside => .inr (.inl inside)

/-- **A text is cut** where the name is found and a proof sign follows. -/
theorem isSome_cutAtProof? (begins : BeginsLine true front)
    (declares : declaresHere name rest = true) (signed : proofSign <:+: rest) :
    (cutAtProof? name (front ++ rest)).isSome = true := by
  obtain ⟨⟨front', rest'⟩, found⟩ :=
    Option.isSome_iff_exists.1 (isSome_splitAtLine? begins declares)
  obtain ⟨whole, -, -, first⟩ := splitAtLine?_eq_some.1 found
  -- The first place where the name is found is no later, so the sign follows it too.
  have early := first front rest rfl begins declares
  obtain ⟨gap, -, rfl⟩ : ∃ gap, front = front' ++ gap ∧ rest' = gap ++ rest := by
    rcases List.append_eq_append_iff.1 whole with ⟨gap, longer, rfl⟩ | both
    · obtain rfl : gap = [] := by
        have lengths := congrArg List.length longer
        rw [List.length_append] at lengths
        exact List.eq_nil_of_length_eq_zero (by omega)
      exact ⟨[], by simpa using longer.symm, rfl⟩
    · exact both
  have breaks := Text.contains_iff.2 (signed.trans (List.suffix_append gap rest).isInfix)
  obtain ⟨⟨before, proof⟩, broken⟩ := Option.isSome_iff_exists.1 breaks
  unfold cutAtProof?
  rw [found]
  show ((Text.breakOn? proofSign (gap ++ rest)).bind _).isSome = true
  rw [broken]
  rfl

/-- **The name is found**: a declaration of it begins a line, no strict-implicit binder follows it
directly, and a proof sign stands behind it. -/
def Findable (t name : Text) : Prop :=
  ∃ front behind, DeclaredAt t name front behind ∧ behind.head? ≠ some '⦃' ∧ proofSign <:+: behind

/-- **When a text is cut**: a declaration of the name is found, and a proof sign follows it. -/
theorem isSome_cutAtProof?_iff (solid : name ≠ []) (named : ∀ c ∈ name, isNameChar c = true) :
    (cutAtProof? name t).isSome = true ↔ Findable t name := by
  constructor
  · intro cut
    obtain ⟨⟨signature, proof⟩, cut⟩ := Option.isSome_iff_exists.1 cut
    obtain ⟨⟨front, here⟩, found, cut⟩ := Option.bind_eq_some_iff.1 cut
    obtain ⟨sides, broken, -⟩ := Option.bind_eq_some_iff.1 cut
    obtain ⟨whole, begins, declares, -⟩ := splitAtLine?_eq_some.1 found
    obtain ⟨behind, read, plain⟩ := (declaresHere_iff solid named).1 declares
    have signed : proofSign <:+: here := Text.contains_iff.1 (by rw [Text.contains, broken]; rfl)
    exact ⟨front, behind, ⟨here, whole, begins, read⟩, plain, (proofSign_infix_iff read).1 signed⟩
  · rintro ⟨front, behind, ⟨here, rfl, begins, read⟩, plain, signed⟩
    exact isSome_cutAtProof? begins ((declaresHere_iff solid named).2 ⟨behind, read, plain⟩)
      ((proofSign_infix_iff read).2 signed)

/-! ### Texts of mismatches -/

/-- The text of a mismatch about a name is one line. -/
theorem newline_not_mem_message {mismatch : Mismatch} (named : ∀ c ∈ name, isNameChar c = true)
    (about : mismatch = .noProofSign name ∨ mismatch = .notDeclared name) :
    '\n' ∉ mismatch.message := by
  rcases about with rfl | rfl
  all_goals
    rw [Mismatch.message]
    simp only [List.mem_append, not_or]
    exact ⟨⟨⟨by decide, by decide⟩, newline_not_mem named⟩, by decide⟩

/-- The text of a mismatch declares nothing. -/
theorem nameHere?_message (mismatch : Mismatch) : nameHere? mismatch.message = none := by
  cases mismatch <;> rfl

theorem declaresHere_message (mismatch : Mismatch) (name : Text) :
    declaresHere name mismatch.message = false := by
  cases mismatch <;> rfl

/-! ### What follows a proof sign -/

theorem isBlank_colon : Text.isBlank ':' = false := by decide

theorem afterKeyword?_append_colon (front rest : Text) :
    Source.afterKeyword? (front ++ ':' :: rest) =
      (Source.afterKeyword? front).map (· ++ ':' :: rest) := by
  have behind : ∀ tail : Text,
      (if (tail ++ ':' :: rest).head?.any Text.isBlank then
        some (Text.trimStart (tail ++ ':' :: rest)) else none) =
      (if tail.head?.any Text.isBlank then some (Text.trimStart tail) else none).map
        (· ++ ':' :: rest) := by
    intro tail
    rw [Text.trimStart_append_cons isBlank_colon]
    cases tail with
    | nil => rfl
    | cons c tail =>
      show (if Text.isBlank c = true then _ else _) =
        (if Text.isBlank c = true then _ else _ : Option Text).map _
      split <;> rfl
  unfold Source.afterKeyword?
  rw [Text.after?_append_cons (by decide), Text.after?_append_cons (by decide)]
  cases Text.after? "theorem" front with
  | some tail => exact behind tail
  | none =>
    cases Text.after? "lemma" front with
    | some tail => exact behind tail
    | none => rfl

/-- What follows a colon says nothing about a declaration in front of it. -/
theorem declaresHere_append_colon (clear : ':' ∉ name) (front rest : Text) :
    declaresHere name (front ++ ':' :: rest) = declaresHere name front := by
  unfold declaresHere
  rw [Text.trimStart_append_cons isBlank_colon, afterKeyword?_append_colon]
  cases Source.afterKeyword? (Text.trimStart front) with
  | none => rfl
  | some tail =>
    rw [Option.map_some, Option.bind_some, Option.bind_some, Text.after?_append_cons clear]
    cases Text.after? name tail with
    | none => rfl
    | some behind => cases behind <;> rfl

/-- A declaration that is repeated up to a proof sign is found again. -/
theorem isSome_cutAtProof?_repeated {head : Text} (clear : ':' ∉ name) (sign : proofSign <:+ head)
    (declares : declaresHere name (head ++ proof) = true) (begins : BeginsLine true front)
    (proof' : Text) : (cutAtProof? name (front ++ (head ++ proof'))).isSome = true := by
  obtain ⟨before, rfl⟩ := sign
  have signed : proofSign <:+: before ++ proofSign ++ proof' := ⟨before, proof', rfl⟩
  refine isSome_cutAtProof? begins ?_ signed
  rw [List.append_assoc, proofSign, List.cons_append, declaresHere_append_colon clear] at declares ⊢
  exact declares

/-- **What follows the sign does not move the cut.** -/
theorem cutAtProof?_append (clear : ':' ∉ name)
    (cut : cutAtProof? name t = some (signature, proof)) (proof' : Text) :
    cutAtProof? name (signature ++ proof') = some (signature, proof') := by
  obtain ⟨⟨front, here⟩, found, cut⟩ := Option.bind_eq_some_iff.1 cut
  obtain ⟨⟨before, behind⟩, broken, same⟩ := Option.bind_eq_some_iff.1 cut
  cases same
  obtain ⟨rfl, begins, declares, first⟩ := splitAtLine?_eq_some.1 found
  obtain rfl := Text.eq_of_breakOn? broken
  have swap : ∀ gap, declaresHere name (gap ++ (before ++ proofSign ++ proof')) =
      declaresHere name (gap ++ (before ++ proofSign ++ proof)) := by
    intro gap
    have whole : ∀ rest, gap ++ (before ++ proofSign ++ rest) =
        gap ++ before ++ ':' :: '=' :: rest :=
      fun rest => by simp [proofSign]
    rw [whole, whole, declaresHere_append_colon clear, declaresHere_append_colon clear]
  have again : splitAtLine? (declaresHere name) true (front ++ (before ++ proofSign ++ proof')) =
      some (front, before ++ proofSign ++ proof') := by
    refine splitAtLine?_eq_some.2 ⟨rfl, begins, (swap []).trans declares, ?_⟩
    intro front' rest' whole begins' declares'
    -- What is found earlier is also found in the other text.
    rcases List.append_eq_append_iff.1 whole with ⟨gap, rfl, -⟩ | ⟨gap, rfl, rfl⟩
    · rw [List.length_append]
      exact Nat.le_add_right ..
    · rw [swap gap] at declares'
      exact first front' _ (List.append_assoc ..) begins' declares'
  have text : front ++ before ++ proofSign ++ proof' =
      front ++ (before ++ proofSign ++ proof') := by
    simp
  unfold cutAtProof?
  rw [text, again]
  show (Text.breakOn? proofSign (before ++ proofSign ++ proof')).bind _ = _
  rw [Text.breakOn?_append broken proof']
  rfl

/-! ### A statement imposed on itself -/

/-- A statement whose name is not found rejects all code. -/
theorem imposedText_of_uncut (declared : declaredName? statement = some name)
    (uncut : cutAtProof? name statement = none) (code : Text) :
    imposedText statement code = (Mismatch.noProofSign name).message := by
  rw [imposedText, imposeStatement, declared]
  dsimp only
  rw [uncut]

/-- Code that is cut is put under the statement. -/
theorem imposeStatement_of_cuts {front : Text} (declared : declaredName? statement = some name)
    (cut : cutAtProof? name statement = some (signature, rest))
    (cutCode : cutAtProof? name code = some (front, proof)) :
    imposeStatement statement code = .ok (signature ++ proof) := by
  rw [imposeStatement, declared]
  dsimp only
  rw [cut]
  dsimp only
  rw [cutCode]

/-- Code that does not declare the name is rejected. -/
theorem imposedText_of_undeclared (declared : declaredName? statement = some name)
    (cut : cutAtProof? name statement = some (signature, rest))
    (undeclared : cutAtProof? name code = none) :
    imposedText statement code = (Mismatch.notDeclared name).message := by
  rw [imposedText, imposeStatement, declared]
  dsimp only
  rw [cut]
  dsimp only
  rw [undeclared]

/-- The text of a mismatch about a name is not cut. -/
theorem cutAtProof?_message {mismatch : Mismatch} (named : ∀ c ∈ name, isNameChar c = true)
    (about : mismatch = .noProofSign name ∨ mismatch = .notDeclared name) :
    cutAtProof? name mismatch.message = none := by
  unfold cutAtProof?
  rw [splitAtLine?_eq_none (newline_not_mem_message named about)
    (declaresHere_message mismatch name)]
  rfl

/-- A text that declares something is not the text of a mismatch about a name. -/
theorem ne_message {mismatch : Mismatch} (declared : declaredName? statement = some name)
    (about : mismatch = .noProofSign name ∨ mismatch = .notDeclared name) :
    mismatch.message ≠ statement := by
  rintro rfl
  have named := (isNameChar_of_declaredName? declared).2
  obtain ⟨sides, found, -⟩ := Option.bind_eq_some_iff.1 declared
  rw [splitAtLine?_eq_none (newline_not_mem_message named about)
    (by rw [nameHere?_message]; rfl)] at found
  cases found

/-- **When a statement imposed on itself is itself**: exactly when its name can be found. Otherwise
all code is rejected. When no strict-implicit binder follows the name of the first declaration
directly, the name can be found, and so it can be in all code that repeats the declaration up to its
proof sign. -/
theorem imposedText_self_iff (first : FirstDeclaration statement name front behind)
    (signed : proofSign <:+: behind) :
    declaredName? statement = some name ∧
    (imposedText statement statement = statement ↔ Findable statement name) ∧
    (¬ Findable statement name →
      ∀ code, imposedText statement code = (Mismatch.noProofSign name).message) ∧
    (behind.head? ≠ some '⦃' → Findable statement name ∧
      ∀ indent head proof before proof', statement = front ++ (indent ++ (head ++ proof)) →
        Text.allBlank indent = true → proofSign <:+ head → BeginsLine true before →
        ∃ text, imposeStatement statement (before ++ (head ++ proof')) = .ok text) := by
  have declared := declaredName?_eq_some.2 ⟨front, behind, first⟩
  obtain ⟨solid, named⟩ := isNameChar_of_declaredName? declared
  have found := isSome_cutAtProof?_iff (t := statement) solid named
  refine ⟨declared, ?_, fun lost => ?_, fun plain => ?_⟩
  · rw [← found]
    cases cut : cutAtProof? name statement with
    | none =>
      rw [imposedText_of_uncut declared cut]
      exact iff_of_false (ne_message declared (.inl rfl)) nofun
    | some sides =>
      rw [imposedText, imposeStatement_of_cuts declared cut cut]
      exact iff_of_true (eq_of_cutAtProof? cut).1.symm rfl
  · rw [← found, Option.not_isSome_iff_eq_none] at lost
    exact imposedText_of_uncut declared lost
  · have here : Findable statement name := ⟨front, behind, first.1, plain, signed⟩
    refine ⟨here, fun indent head proof before proof' whole blank sign begins => ?_⟩
    obtain ⟨sides, cut⟩ := Option.isSome_iff_exists.1 (found.2 here)
    obtain ⟨place, whole', -, read⟩ := first.1
    obtain rfl : indent ++ (head ++ proof) = place :=
      List.append_cancel_left (whole.symm.trans whole')
    rw [Text.trimStart_append blank] at read
    have repeated := (declaresHere_iff solid named).2 ⟨behind, read, plain⟩
    obtain ⟨sides', cutCode⟩ := Option.isSome_iff_exists.1
      (isSome_cutAtProof?_repeated (colon_not_mem named) sign repeated begins proof')
    exact ⟨_, imposeStatement_of_cuts declared cut cutCode⟩

/-- A lemma behind an import, with an implicit binder on the next line. -/
theorem imposedText_self_iff_two_lines :
    let statement : Text :=
      "import Mathlib\n\nlemma zero_add'\n    {n : Nat} : 0 + n = n := by sorry"
    FirstDeclaration statement "zero_add'" "import Mathlib\n"
        "\n    {n : Nat} : 0 + n = n := by sorry" ∧
      proofSign <:+: "\n    {n : Nat} : 0 + n = n := by sorry".toList ∧
      imposedText statement statement = statement ∧
      ∃ text, imposeStatement statement
        "lemma zero_add'\n    {n : Nat} : 0 + n = n := by\n  simp" = .ok text := by
  intro statement
  have first : FirstDeclaration statement "zero_add'" "import Mathlib\n"
      "\n    {n : Nat} : 0 + n = n := by sorry" := firstDeclaration_iff.2 ⟨_, rfl, by decide⟩
  have signed : proofSign <:+: "\n    {n : Nat} : 0 + n = n := by sorry".toList :=
    Text.contains_iff.1 (by decide)
  obtain ⟨-, same, -, plain⟩ := imposedText_self_iff first signed
  obtain ⟨found, repeated⟩ := plain (by decide)
  exact ⟨first, signed, same.2 found, repeated "\n" "lemma zero_add'\n    {n : Nat} : 0 + n = n :="
    " by sorry" [] " by\n  simp" (by decide) (by decide) (by decide) rfl⟩

/-- **A strict-implicit binder directly behind the name.** The name is read and not found again, so
all code is rejected, also the statement itself. -/
theorem not_imposedText_self :
    let statement : Text := "theorem t⦃n : Nat⦄ : n = n := by sorry"
    let rejection : Text := "**Error**: formal statement for `t` has no `:=`"
    FirstDeclaration statement "t" [] "⦃n : Nat⦄ : n = n := by sorry" ∧
      proofSign <:+: "⦃n : Nat⦄ : n = n := by sorry".toList ∧
      imposedText statement statement ≠ statement ∧
      (∀ code, imposedText statement code = rejection) ∧
      ∀ generation code text,
        Prover.Reading.ofGeneration statement generation ≠ .checked code text := by
  intro statement rejection
  have declared : declaredName? statement = some ['t'] := by decide
  have uncut : cutAtProof? ['t'] statement = none := by decide
  have rejects : ∀ code, imposedText statement code = rejection :=
    imposedText_of_uncut declared uncut
  have first : FirstDeclaration statement "t" [] "⦃n : Nat⦄ : n = n := by sorry" :=
    firstDeclaration_iff.2 ⟨statement, by decide, by decide⟩
  refine ⟨first, Text.contains_iff.1 (by decide), ?_, rejects, ?_⟩
  · rw [rejects]
    decide
  · intro generation code text checked
    obtain ⟨-, -, name, _, _, _, _, declared', cut, -, -⟩ :=
      Prover.exists_signature_of_checked checked
    rw [declared] at declared'
    cases declared'
    rw [uncut] at cut
    cases cut

/-! ### Imposing twice -/

/-- **Imposing a statement on what it was imposed on** changes nothing, whether that is code or the
text of a mismatch. -/
theorem imposedText_imposedText (statement code : Text) :
    imposedText statement (imposedText statement code) = imposedText statement code := by
  cases declared : declaredName? statement with
  | none => rw [imposedText, imposedText, imposeStatement, imposeStatement, declared]
  | some name =>
    have named := (isNameChar_of_declaredName? declared).2
    cases cut : cutAtProof? name statement with
    | none => rw [imposedText_of_uncut declared cut, imposedText_of_uncut declared cut]
    | some sides =>
      obtain ⟨signature, rest⟩ := sides
      cases cutCode : cutAtProof? name code with
      | none =>
        have again := cutAtProof?_message named (.inr rfl)
        rw [imposedText_of_undeclared declared cut cutCode,
          imposedText_of_undeclared declared cut again]
      | some sides =>
        obtain ⟨front, proof⟩ := sides
        have once : imposedText statement code = signature ++ proof := by
          rw [imposedText, imposeStatement_of_cuts declared cut cutCode]
        have again := cutAtProof?_append (colon_not_mem named) cut proof
        rw [once, imposedText, imposeStatement_of_cuts declared cut again]

end Statement

namespace Prover

open Dialogue (Exchange Held Respondent)
open Statement (imposedText)

variable {config : Config} {formalStatement statement generation code text : Text}

/-! ### Cleaned code that is sent back -/

/-- The first character does not depend on what stands behind a sign. -/
theorem head?_append_sign {sign : Text} (solid : sign ≠ []) (front rest rest' : Text) :
    (front ++ sign ++ rest).head? = (front ++ sign ++ rest').head? := by
  obtain ⟨c, sign, rfl⟩ := List.exists_cons_of_ne_nil solid
  simp [List.head?_append]

theorem head?_refineBySorry (solid : statement ≠ [])
    (trimmed : Text.trimEnd statement = statement) :
    (Statement.refineBySorry statement).head? = statement.head? := by
  unfold Statement.refineBySorry
  rw [trimmed]
  dsimp only
  split
  · next front rest found =>
    rw [Text.eq_of_breakOn? found]
    exact head?_append_sign (by decide) front _ rest
  · split
    · next front rest found =>
      rw [Text.eq_of_breakOn? found]
      exact head?_append_sign (by decide) front _ rest
    · obtain ⟨c, others, rfl⟩ := List.exists_cons_of_ne_nil solid
      rfl

/-- A statement that declares something begins with a visible character. -/
theorem visible_of_head?_normalStatement {name : Text} {c : Char}
    (declared : Statement.declaredName? (normalStatement formalStatement) = some name)
    (first : (normalStatement formalStatement).head? = some c) : Text.isBlank c = false := by
  unfold normalStatement at declared first
  cases empty : Text.trim formalStatement with
  | nil =>
    rw [empty] at declared
    exact absurd declared nofun
  | cons d others =>
    have trimmed : Text.trimEnd (Text.trim formalStatement) = Text.trim formalStatement :=
      Text.trimEnd_eq_self fun c last => Text.blank_ends_trim (.inr last)
    rw [head?_refineBySorry (by simp [empty]) trimmed] at first
    exact Text.head?_trim first

/-- **A text that is verified has no blanks around it**: in front it is the statement, and behind it
is the code of a generation. -/
theorem trim_of_checked
    (checked : Reading.ofGeneration (normalStatement formalStatement) generation =
      .checked code text) : Text.trim text = text := by
  obtain ⟨found, -, name, signature, proof, rest, front, declared, cut, cutCode, rfl⟩ :=
    exists_signature_of_checked checked
  obtain ⟨whole, ⟨before, rfl⟩, -⟩ := Statement.eq_of_cutAtProof? cut
  have start : Text.trimStart (before ++ Source.proofSign ++ proof) =
      before ++ Source.proofSign ++ proof := by
    cases shape : before ++ Source.proofSign ++ proof with
    | nil => rfl
    | cons c others =>
      have first : (normalStatement formalStatement).head? = some c := by
        rw [whole, head?_append_sign (by decide) before rest proof, shape]
        rfl
      have visible := visible_of_head?_normalStatement declared first
      rw [Text.trimStart, List.dropWhile_cons_of_neg (by simp [visible])]
  rw [Text.trim, start]
  refine Text.trimEnd_eq_self fun c last => ?_
  rcases List.eq_nil_or_concat proof with rfl | ⟨proof, final, rfl⟩
  · rw [List.append_nil, List.getLast?_append] at last
    cases last
    decide
  · obtain rfl : final = c := by simpa using last
    have ends : code.getLast? = some final := by
      rw [(Statement.eq_of_cutAtProof? cutCode).1]
      simp
    exact Text.visible_of_trim_eq_self (Generation.trim_of_code? found) (.inr ends)

/-- A record with code is about the text that the code was made into. -/
theorem Judged.imposed {turn : Nat} {record : Record}
    {checks : List (Exchange Inquiry Inquiry.Answer)}
    (judged : Judged statement generation turn record checks) (coded : record.code = some code) :
    record.fullCode = imposedText statement code := by
  rw [judged.fullCode]
  rw [judged.code] at coded
  unfold Reading.ofGeneration at coded ⊢
  split at coded
  · cases coded
  · dsimp only at coded ⊢
    split at coded
    · next marked =>
      cases coded
      rw [if_pos marked]
      rfl
    · next unmarked =>
      cases coded
      rw [if_neg unmarked]
      rfl

/-- A record that was checked is about code that was read as such. -/
theorem Judged.exists_code_of_checked {turn : Nat} {record : Record}
    {checks : List (Exchange Inquiry Inquiry.Answer)}
    (judged : Judged statement generation turn record checks) (checked : record.checked = true) :
    ∃ code, Reading.ofGeneration statement generation = .checked code record.fullCode := by
  rw [Record.checked, judged.code, judged.fullCode] at checked
  rw [judged.fullCode]
  cases reading : Reading.ofGeneration statement generation with
  | unparsed =>
    rw [reading] at checked
    cases checked
  | unmatched code text =>
    rw [reading] at checked
    have marked := contains_errorMarker_of_ofGeneration.1 reading
    simp [Reading.fullCode, marked] at checked
  | checked code text => exact ⟨code, rfl⟩

/-- **Code that is imposed twice.** Imposing a statement on what it was imposed on changes nothing,
whether that is code or the text of a mismatch. So in every attempt, when a generation has the
cleaned code of a record that was verified, its record is verified as the same text. -/
theorem imposedText_idem :
    (∀ statement code, imposedText statement (imposedText statement code) =
      imposedText statement code) ∧
    ∀ (config : Config) (formalStatement : Text) (respondent : Respondent Inquiry Inquiry.Answer)
      (attempt : Attempt),
      ((Prover.attempt config formalStatement).heldWith respondent []).1 = .ok attempt →
      ∀ earlier ∈ attempt.records, earlier.checked = true →
        ∀ later ∈ attempt.records, later.code = some (Text.trim earlier.fullCode) →
          later.checked = true ∧ later.fullCode = earlier.fullCode := by
  refine ⟨Statement.imposedText_imposedText, ?_⟩
  intro config formalStatement respondent attempt finished earlier member checked later member'
    again
  have talked : Held (Prover.attempt config formalStatement) _ (.ok attempt) :=
    finished ▸ Dialogue.held_heldWith respondent _
  obtain ⟨generation, turn, checks, judged⟩ := exists_judged_of_mem talked member
  obtain ⟨generation', turn', checks', judged'⟩ := exists_judged_of_mem talked member'
  obtain ⟨code, reading⟩ := judged.exists_code_of_checked checked
  rw [trim_of_checked reading] at again
  have once : earlier.fullCode = imposedText (normalStatement formalStatement) code :=
    judged.imposed (by rw [judged.code, reading]; rfl)
  have same : later.fullCode = earlier.fullCode := by
    rw [judged'.imposed again, once, Statement.imposedText_imposedText]
  refine ⟨?_, same⟩
  rw [Record.checked, again, same]
  exact (Bool.and_eq_true_iff.1 checked).2

/-- A generator that writes a signature of its own and then sends back the code under the signature
of the statement, and a verifier that is never content. -/
def returning : Respondent Inquiry Inquiry.Answer
  | [], .generate _ => .ok "```lean4\ntheorem t : 1 = 1 := by skip\n```"
  | _ :: _, .generate _ => .ok "```lean4\ntheorem t : True := by skip\n```"
  | _, .verify _ => ⟨"failed", none, false, none, false⟩

/-- Two turns that have the same text verified. -/
theorem imposedText_idem_returning :
    let config :=
      { Config.standard with refinement := true, prompt := problemHole, refinePrompt := errorHole }
    let held := (Prover.attempt config "theorem t : True := by sorry").heldWith returning []
    ∃ attempt earlier later, held.1 = .ok attempt ∧ attempt.records = [earlier, later] ∧
      earlier.checked = true ∧ later.code = some (Text.trim earlier.fullCode) ∧
      later.checked = true ∧ later.fullCode = earlier.fullCode := by
  intro config held
  have run : ∃ attempt earlier later, held.1 = .ok attempt ∧ attempt.records = [earlier, later] ∧
      earlier.checked = true ∧ later.code = some (Text.trim earlier.fullCode) :=
    ⟨_, _, _, rfl, rfl, by decide, by decide⟩
  obtain ⟨attempt, earlier, later, finished, records, checked, again⟩ := run
  have both := imposedText_idem.2 config "theorem t : True := by sorry" returning attempt finished
    earlier (by simp [records]) checked later (by simp [records]) again
  exact ⟨attempt, earlier, later, finished, records, checked, again, both⟩

end Prover
end ProofDesk
