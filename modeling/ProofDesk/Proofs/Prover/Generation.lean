import ProofDesk.Prover.Attempt
import ProofDesk.Proofs.Text.Piece
import ProofDesk.Proofs.Text.Search

/-!
# Code that was generated

* `not_infix_of_code?` — the code of a generation never has the sign that closes a block.
* `written` — generations in which prose and blocks take turns; `blocks_written` reads the bodies of
  the blocks back, and `code?_last_block` says which of them is the code.
* `code?_fenced` — a generator can have any code read that lacks the sign and is trimmed.
* `code?_codeTurn` — a turn that keeps only the code is read back as the code.
-/

namespace ProofDesk
namespace Generation

variable {generation code body t : Text}

theorem fence_ne_nil : fence ≠ [] := by decide

/-- The body of a block ends at the first sign. -/
theorem not_infix_of_mem_blocksFrom {skip : Nat} (member : body ∈ blocksFrom skip t) :
    ¬ fence <:+: body := by
  induction t generalizing skip with
  | nil => cases skip <;> cases member
  | cons c rest ih =>
    cases skip with
    | succ skip => exact ih member
    | zero =>
      unfold blocksFrom at member
      split at member
      · next first behind found =>
        rcases List.mem_cons.1 member with rfl | later
        · rintro ⟨front, tail, rfl⟩
          obtain ⟨inside, -, broken⟩ := Option.bind_eq_some_iff.1 found
          have whole : inside = front ++ fence ++ (tail ++ (fence ++ behind)) := by
            simp [Text.eq_of_breakOn? broken]
          have early := Text.length_le_of_breakOn? broken whole
          have sign := List.length_pos_iff.2 fence_ne_nil
          simp only [List.length_append] at early
          omega
        · exact ih later
      · exact ih member

/-- **The code of a generation has no closing sign.** -/
theorem not_infix_of_code? (found : code? generation = some code) : ¬ fence <:+: code := by
  obtain ⟨body, last, trimmed⟩ := Option.bind_eq_some_iff.1 found
  dsimp only at trimmed
  split at trimmed
  · cases trimmed
  · cases trimmed
    intro occurs
    have member : body ∈ blocks generation := List.mem_of_getLast? last
    exact not_infix_of_mem_blocksFrom member (occurs.trans (Text.trim_infix body))

/-- The code of a generation is trimmed. -/
theorem trim_of_code? (found : code? generation = some code) : Text.trim code = code := by
  obtain ⟨body, -, trimmed⟩ := Option.bind_eq_some_iff.1 found
  dsimp only at trimmed
  split at trimmed
  · cases trimmed
  · cases trimmed
    exact Text.trim_idem body

/-! ### Written generations -/

/-- Text that holds no sign. -/
structure Prose where
  text : Text
  unfenced : ¬ fence <:+: text

/-- A block as a generator may write it. -/
structure Block where
  /-- The opening line says `lean4`, not `lean`. -/
  numbered : Bool
  /-- What stands behind the language. -/
  gap : Text
  /-- The opening line ends with a carriage return and a newline. -/
  returned : Bool
  body : Text
  gap_plain : ∀ c ∈ gap, c = ' ' ∨ c = '\t'
  unfenced : ¬ fence <:+: body
  closed : body = [] ∨ body.getLast? = some '\n'

namespace Block

/-- The end of the opening line, from the language on. -/
def lineEnd (block : Block) : Text :=
  block.gap ++ ((if block.returned then ['\r'] else []) ++ ['\n'])

def text (block : Block) : Text :=
  fence ++ "lean" ++ ((if block.numbered then ['4'] else []) ++
    (block.lineEnd ++ (block.body ++ fence)))

end Block

/-- A generation in which prose and blocks take turns; the prose may be empty. -/
def written (opening : Prose) (parts : List (Block × Prose)) : Text :=
  opening.text ++ parts.flatMap fun part => part.1.text ++ part.2.text

namespace Block

variable (block : Block) (rest : Text)

theorem dropWhile_lineEnd :
    (block.lineEnd ++ rest).dropWhile (fun c => c == ' ' || c == '\t') =
      (if block.returned then ['\r'] else []) ++ '\n' :: rest := by
  have passed : ∀ c ∈ block.gap, (c == ' ' || c == '\t') = true := fun c member => by
    simpa using block.gap_plain c member
  rw [lineEnd, List.append_assoc, List.dropWhile_append_of_pos passed]
  cases block.returned <;> rfl

/-- The number behind the language is passed over. -/
theorem after?_number :
    let line := (if block.numbered then ['4'] else []) ++ (block.lineEnd ++ rest)
    (Text.after? ['4'] line).getD line = block.lineEnd ++ rest := by
  cases block.numbered with
  | true => exact congrArg (Option.getD · _) (Text.after?_eq_some.2 rfl)
  | false =>
    -- Neither a blank nor the end of a line is the number.
    suffices missing : Text.after? ['4'] (block.lineEnd ++ rest) = none by
      exact congrArg (Option.getD · _) missing
    refine Option.eq_none_iff_forall_ne_some.2 fun tail found => ?_
    have first := Text.head?_of_after? found (by simp)
    unfold lineEnd at first
    cases gap : block.gap with
    | nil =>
      rw [gap] at first
      cases returned : block.returned <;> simp [returned] at first
    | cons c more =>
      obtain rfl : c = '4' := by simpa [gap] using first
      simpa using block.gap_plain '4' (gap ▸ List.mem_cons_self ..)

theorem afterOpener?_text :
    afterOpener? (block.text ++ rest) = some (block.body ++ fence ++ rest) := by
  have opened : Text.after? (fence ++ "lean") (block.text ++ rest) =
      some ((if block.numbered then ['4'] else []) ++
        (block.lineEnd ++ (block.body ++ fence ++ rest))) :=
    Text.after?_eq_some.2 (by simp [text])
  unfold afterOpener?
  simp only [opened, after?_number, dropWhile_lineEnd, Option.bind_eq_bind, Option.bind_some]
  cases block.returned <;> rfl

/-- The body ends at the sign behind it. -/
theorem breakOn?_body :
    Text.breakOn? fence (block.body ++ fence ++ rest) = some (block.body, rest) := by
  rcases block.closed with empty | last
  · exact Text.breakOn?_eq_some.2 ⟨rfl, fun front tail _ => by simp [empty]⟩
  · obtain ⟨body, whole⟩ : ∃ body, block.body = body ++ ['\n'] := List.getLast?_eq_some_iff.1 last
    have absent : ¬ fence <:+: body := fun occurs =>
      block.unfenced (occurs.trans ⟨[], ['\n'], whole.symm⟩)
    have atEnd : Text.breakOn? fence (block.body ++ fence ++ []) = some (block.body, []) := by
      rw [whole, List.append_nil, List.append_assoc]
      exact Text.breakOn?_append_cons_self (by decide) absent
    exact Text.breakOn?_append atEnd rest

theorem block?_text : block? (block.text ++ rest) = some (block.body, rest) := by
  unfold block?
  rw [afterOpener?_text]
  exact block.breakOn?_body rest

end Block

theorem blocksFrom_append (front t : Text) :
    blocksFrom front.length (front ++ t) = blocks t := by
  induction front with
  | nil => rfl
  | cons c front ih => exact ih

/-- A block that is read in front of a text. -/
theorem blocks_append {front : Text} (solid : front ≠ [])
    (found : block? (front ++ t) = some (body, t)) : blocks (front ++ t) = body :: blocks t := by
  obtain ⟨c, front, rfl⟩ := List.exists_cons_of_ne_nil solid
  rw [List.cons_append] at found ⊢
  unfold blocks
  rw [blocksFrom, found]
  refine congrArg (body :: ·) ?_
  rw [List.length_append, Nat.add_sub_cancel]
  exact blocksFrom_append front t

theorem Block.blocks_text (block : Block) (rest : Text) :
    blocks (block.text ++ rest) = block.body :: blocks rest :=
  blocks_append (List.append_ne_nil_of_left_ne_nil (by decide) _) (block.block?_text rest)

/-- No block begins in prose: its last characters and the sign behind it do not make an opener. -/
theorem afterOpener?_prose {c : Char} {prose rest : Text} (unfenced : ¬ fence <:+: c :: prose)
    (begins : rest = [] ∨ ∃ tail, rest = fence ++ "lean" ++ tail) :
    afterOpener? (c :: prose ++ rest) = none := by
  suffices unopened : Text.after? (fence ++ "lean") (c :: prose ++ rest) = none by
    unfold afterOpener?
    rw [unopened]
    rfl
  refine Option.eq_none_iff_forall_ne_some.2 fun tail found => ?_
  have whole : c :: prose ++ rest = fence ++ ("lean" ++ tail) := by
    rw [Text.after?_eq_some.1 found, List.append_assoc]
  rcases List.append_eq_append_iff.1 whole with ⟨gap, sign, reaches⟩ | ⟨more, sign, -⟩
  · have short : gap.length < fence.length := by
      rw [sign, List.length_append]
      exact Nat.lt_add_of_pos_left (Nat.succ_pos _)
    rcases begins with rfl | ⟨next, rfl⟩
    · cases gap <;> cases reaches
    · -- The language would begin inside the sign of the block behind.
      rw [List.append_assoc] at reaches
      rcases List.append_eq_append_iff.1 reaches with ⟨middle, rfl, -⟩ | ⟨middle, cut, language⟩
      · rw [List.length_append] at short
        exact Nat.not_lt_of_le (Nat.le_add_right ..) short
      · cases middle with
        | nil =>
          rw [cut, List.append_nil] at short
          exact Nat.lt_irrefl _ short
        | cons d middle =>
          obtain rfl : 'l' = d := (List.cons.inj language).1
          have member : 'l' ∈ fence := cut ▸ List.mem_append_right _ (List.mem_cons_self ..)
          exact absurd member (by decide)
  · exact unfenced ⟨[], more, sign.symm⟩

theorem blocks_prose (prose : Prose) {rest : Text}
    (begins : rest = [] ∨ ∃ tail, rest = fence ++ "lean" ++ tail) :
    blocks (prose.text ++ rest) = blocks rest := by
  obtain ⟨t, unfenced⟩ := prose
  dsimp only
  induction t with
  | nil => rfl
  | cons c t ih =>
    have missed : block? (c :: (t ++ rest)) = none := by
      unfold block?
      rw [← List.cons_append, afterOpener?_prose unfenced begins]
      rfl
    rw [List.cons_append, blocks, blocksFrom, missed]
    exact ih fun occurs => unfenced (List.infix_cons occurs)

theorem blocks_written (opening : Prose) (parts : List (Block × Prose)) :
    blocks (written opening parts) = parts.map fun part => part.1.body := by
  unfold written
  induction parts generalizing opening with
  | nil => exact blocks_prose opening (.inl rfl)
  | cons part parts ih =>
    have begins {rest : Text} : part.1.text ++ rest = [] ∨
        ∃ tail, part.1.text ++ rest = fence ++ "lean" ++ tail := .inr ⟨_, List.append_assoc ..⟩
    rw [List.flatMap_cons, List.append_assoc, blocks_prose opening begins, Block.blocks_text,
      List.map_cons]
    exact congrArg _ (ih part.2)

/-- **The code of a written generation** is the body of its last block. -/
theorem code?_written (opening : Prose) (parts : List (Block × Prose)) :
    code? (written opening parts) =
      match parts.getLast? with
      | none => none
      | some (block, _) =>
        if Text.allBlank block.body then none else some (Text.trim block.body) := by
  unfold code?
  rw [blocks_written, List.getLast?_map]
  cases parts.getLast? with
  | none => rfl
  | some part =>
    show (if (Text.trim part.1.body).isEmpty then none else _) = _
    simp only [List.isEmpty_iff, Text.trim_eq_nil]

/-! ### One block -/

namespace Block

/-- A block with this code and nothing behind the language. -/
def ofCode (numbered : Bool) (code : Text) (absent : ¬ fence <:+: code) : Block where
  numbered
  gap := []
  returned := false
  body := code ++ ['\n']
  gap_plain := by simp
  unfenced occurs := (Text.infix_of_infix_append_cons (by decide) occurs).elim absent (by decide)
  closed := .inr (List.getLast?_concat ..)

/-- **Code without the closing sign** is read back from its block, trimmed. -/
theorem code?_ofCode (numbered : Bool) (absent : ¬ fence <:+: code)
    (visible : Text.allBlank code = false) :
    code? (ofCode numbered code absent).text = some (Text.trim code) := by
  have alone : (ofCode numbered code absent).text =
      written ⟨[], by decide⟩ [(ofCode numbered code absent, ⟨[], by decide⟩)] := by
    simp [written]
  have shown : Text.allBlank (code ++ ['\n']) = false := by
    rw [Text.allBlank, List.all_append, Bool.and_eq_false_iff]
    exact .inl visible
  rw [alone, code?_written]
  show (if Text.allBlank (code ++ ['\n']) then none else some (Text.trim (code ++ ['\n']))) = _
  rw [shown, Text.trim_concat (by decide), if_neg Bool.false_ne_true]

end Block

/-- A generation that is one block with this code. -/
def fenced (code : Text) : Text := fence ++ "lean\n" ++ (code ++ '\n' :: fence)

/-- **Trimmed code without the closing sign** is read back from its block as it is. -/
theorem code?_fenced (nonempty : code ≠ []) (trimmed : Text.trim code = code)
    (absent : ¬ fence <:+: code) : code? (fenced code) = some code := by
  have visible : Text.allBlank code = false := by
    refine Bool.eq_false_iff.2 fun blank => nonempty ?_
    rw [← trimmed, Text.trim_eq_nil.2 blank]
  have block : fenced code = (Block.ofCode false code absent).text := by
    simp [fenced, Block.text, Block.lineEnd, Block.ofCode]
  rw [block, Block.code?_ofCode false absent visible, trimmed]

/-- **A turn that keeps only the code** is read back as the code. -/
theorem code?_codeTurn (visible : Text.allBlank code = false) (absent : ¬ fence <:+: code) :
    code? (Prover.codeTurn code).content = some (Text.trim code) := by
  have absent' : ¬ fence <:+: Text.trim code := fun occurs =>
    absent (occurs.trans (Text.trim_infix code))
  have visible' : Text.allBlank (Text.trim code) = false := by
    refine Bool.eq_false_iff.2 fun blank => ?_
    have empty := Text.trim_eq_nil.2 blank
    rw [Text.trim_idem, Text.trim_eq_nil, visible] at empty
    cases empty
  have block : (Prover.codeTurn code).content =
      (Block.ofCode true (Text.trim code) absent').text := by
    simp [Prover.codeTurn, fence, Block.text, Block.lineEnd, Block.ofCode]
  rw [block, Block.code?_ofCode true absent' visible', Text.trim_idem]

/-- **The last block is what is read**, trimmed and unless it is blank, whatever prose and blocks
stand before and behind it; and so is the code that stays in a conversation. -/
theorem code?_last_block (opening : Prose) (parts : List (Block × Prose)) :
    (code? (written opening parts) =
      match parts.getLast? with
      | none => none
      | some (block, _) =>
        if Text.allBlank block.body then none else some (Text.trim block.body)) ∧
    ∀ (config : Prover.Config) (base : List Turn) (talk : Prover.Conversation)
      (generation code fullCode : Text), config.codeOnly = true →
      Text.allBlank fullCode = false → ¬ fence <:+: fullCode →
      ∃ turn, (talk.hear config base generation (.checked code fullCode)).transcript.getLast? =
        some turn ∧ turn.role = .assistant ∧ code? turn.content = some (Text.trim fullCode) := by
  refine ⟨code?_written opening parts, ?_⟩
  intro config base talk generation code fullCode codeOnly visible absent
  refine ⟨Prover.codeTurn fullCode, ?_, rfl, code?_codeTurn visible absent⟩
  unfold Prover.Conversation.hear
  simp only [codeOnly, if_true]
  exact List.getLast?_concat ..

/-- Backticks next to the signs of two blocks do not matter. -/
theorem code?_last_block_beside_backticks :
    code? "a ```lean4 \t\r\nh\n```` or ``\n`````lean\n rfl\n\n`````".toList = some "rfl".toList ∧
      ∃ turn, ((Prover.Conversation.ofTurns []).hear
          { Prover.Config.standard with codeOnly := true } [] "Done.".toList
          (.checked "rfl".toList " theorem t : 0 = 0 := rfl".toList)).transcript.getLast? =
        some turn ∧ turn.role = .assistant ∧
          code? turn.content = some "theorem t : 0 = 0 := rfl".toList := by
  have unfenced {t : Text} (missed : Text.contains fence t = false) : ¬ fence <:+: t :=
    fun occurs => Bool.false_ne_true (missed.symm.trans (Text.contains_iff.2 occurs))
  let first : Block :=
    ⟨true, [' ', '\t'], true, "h\n".toList, by simp, unfenced rfl, .inr rfl⟩
  let last : Block :=
    ⟨false, [], false, " rfl\n\n".toList, by simp, unfenced rfl, .inr rfl⟩
  have both := code?_last_block ⟨"a ".toList, unfenced rfl⟩
    [(first, ⟨"` or ``\n``".toList, unfenced rfl⟩),
      (last, ⟨"``".toList, unfenced rfl⟩)]
  have kept := both.2 { Prover.Config.standard with codeOnly := true } [] (.ofTurns [])
    "Done.".toList "rfl".toList " theorem t : 0 = 0 := rfl".toList rfl rfl (unfenced rfl)
  have trimmed : Text.trim " theorem t : 0 = 0 := rfl".toList =
      "theorem t : 0 = 0 := rfl".toList := by decide
  rw [trimmed] at kept
  exact ⟨both.1, kept⟩

end Generation
end ProofDesk
