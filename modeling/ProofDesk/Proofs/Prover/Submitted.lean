import ProofDesk.Proofs.Prover.Accounting
import ProofDesk.Proofs.Prover.Imposed

/-!
# Code that declares the theorem

Code that declares the theorem of the statement is put under its signature and verified. Whether it
could be put there is not told apart from the text: a marker in the text says that it could not, and
the marker may as well stand in a remark of the statement or of the code.

* `Statement.Matches` — the code declares the theorem of the statement.
* `Statement.infix_signature_append_iff` — the marker does not reach over the proof sign.
* `TurnBehind` — the turn of a generation, in everything that is said in an attempt;
  `exists_turnBehind` finds it.
* `submitted_iff_unmarked` — when code that declares the theorem is verified, for every attempt.
* `unsubmitted_for_remark` — a proof that nobody verifies.
-/

namespace ProofDesk

namespace Statement

variable {statement code signature proof : Text}

/-- **The code declares the theorem of the statement**: `signature` is the statement up to the proof
sign behind the declaration, and `proof` is what the code has behind its own. -/
def Matches (statement code signature proof : Text) : Prop :=
  ∃ name rest front, declaredName? statement = some name ∧
    cutAtProof? name statement = some (signature, rest) ∧
    cutAtProof? name code = some (front, proof)

theorem Matches.imposedText (matched : Matches statement code signature proof) :
    imposedText statement code = signature ++ proof := by
  obtain ⟨name, rest, front, declared, cut, cutCode⟩ := matched
  rw [Statement.imposedText, imposeStatement_of_cuts declared cut cutCode]

theorem Matches.proofSign_suffix (matched : Matches statement code signature proof) :
    Source.proofSign <:+ signature := by
  obtain ⟨name, rest, front, -, cut, -⟩ := matched
  exact (eq_of_cutAtProof? cut).2.1

/-- A pattern without an equals sign does not reach over the end of a signature. -/
theorem infix_signature_append_iff {pattern : Text} (clear : '=' ∉ pattern)
    (sign : Source.proofSign <:+ signature) :
    pattern <:+: signature ++ proof ↔ pattern <:+: signature ∨ pattern <:+: proof := by
  obtain ⟨before, rfl⟩ := sign
  constructor
  · intro occurs
    have split : before ++ Source.proofSign ++ proof = (before ++ [':']) ++ '=' :: proof := by
      simp [Source.proofSign]
    rw [split] at occurs
    rcases Text.infix_of_infix_append_cons clear occurs with inside | behind
    · have part : before ++ [':'] <+: before ++ Source.proofSign :=
        ⟨['='], by simp [Source.proofSign]⟩
      exact .inl (inside.trans part.isInfix)
    · exact .inr behind
  · rintro (inside | behind)
    · exact inside.trans (List.prefix_append ..).isInfix
    · exact behind.trans (List.suffix_append ..).isInfix

end Statement

namespace Prover

open Dialogue (Exchange Held Respondent)
open Statement (Matches errorMarker)

variable {config : Config} {statement generation code signature proof text : Text}
  {base turns : List Turn} {turn left : Nat} {talk after : Conversation} {record : Record}
  {result : Except Text Conversation}
  {said checks before behind : List (Exchange Inquiry Inquiry.Answer)}

/-! ### Judgements of code that declares the theorem -/

theorem ofGeneration_of_matches (found : Generation.code? generation = some code)
    (matched : Matches statement code signature proof) :
    Reading.ofGeneration statement generation =
      if Text.contains errorMarker (signature ++ proof) then .unmatched code (signature ++ proof)
      else .checked code (signature ++ proof) := by
  unfold Reading.ofGeneration
  rw [found]
  dsimp only
  rw [matched.imposedText]

/-- The text is verified, and the record has the verdict on the report. -/
def Verifies (text : Text) (record : Record) (checks : List (Exchange Inquiry Inquiry.Answer)) :
    Prop :=
  ∃ report, checks = [⟨.verify text, report⟩] ∧ record.status = Feedback.classify report

/-- Nothing is asked, and the record has the text as the response of a failure. -/
def Rejects (text : Text) (record : Record) (checks : List (Exchange Inquiry Inquiry.Answer)) :
    Prop :=
  checks = [] ∧ record.status = .failed ∧ record.response = text

/-- A turn does not verify a text and reject it. -/
theorem not_verifies_of_rejects (rejects : Rejects text record checks) :
    ¬ Verifies text record checks := by
  rintro ⟨report, asked, -⟩
  rw [rejects.1] at asked
  cases asked

/-- **A judgement of code that declares the theorem** goes by the marker alone. -/
theorem judge_cases_of_matches (found : Generation.code? generation = some code)
    (matched : Matches statement code signature proof)
    (held : Held (judge config turn (Reading.ofGeneration statement generation)) checks record) :
    record.turn = turn ∧ record.code = some code ∧ record.fullCode = signature ++ proof ∧
      ((Text.contains errorMarker (signature ++ proof) = true ∧
          Rejects (signature ++ proof) record checks) ∨
        (Text.contains errorMarker (signature ++ proof) = false ∧
          Verifies (signature ++ proof) record checks)) := by
  rw [ofGeneration_of_matches found matched] at held
  split at held
  · next marked =>
    cases held
    exact ⟨rfl, rfl, rfl, .inl ⟨marked, rfl, rfl, rfl⟩⟩
  · next unmarked =>
    cases held with
    | ask report rest =>
      cases rest
      exact ⟨rfl, rfl, rfl, .inr ⟨Bool.eq_false_iff.2 unmarked, report, rfl, rfl⟩⟩

/-! ### The turn of a generation -/

/-- Nothing is said, or the generator is called. -/
def BeginsTurn (said : List (Exchange Inquiry Inquiry.Answer)) : Prop :=
  said = [] ∨ ∃ turns answer rest, said = ⟨.generate turns, answer⟩ :: rest

/-- **The turn of a generation** with something said behind it: what is asked before the generator is
called again, and the record, which is kept as record number `number`. -/
structure TurnBehind (number : Nat) (behind : List (Exchange Inquiry Inquiry.Answer))
    (records : Except Text (List Record)) (record : Record)
    (checks : List (Exchange Inquiry Inquiry.Answer)) : Prop where
  asked : ∃ rest, behind = checks ++ rest ∧ BeginsTurn rest
  kept : ∀ all, records = .ok all → all[number]? = some record

theorem beginsTurn_attemptFrom
    (held : Held (attemptFrom config statement base turn left talk) said result) :
    BeginsTurn said := by
  cases left with
  | zero =>
    cases held
    exact .inl rfl
  | succ left =>
    rcases attemptFrom_turn held with ⟨error, rfl, -⟩ | ⟨generation, record, checks, rest, rfl, -⟩
    · exact .inr ⟨_, _, [], rfl⟩
    · exact .inr ⟨_, _, _, rfl⟩

/-- An attempt only adds records. -/
theorem records_prefix_of_held
    (held : Held (attemptFrom config statement base turn left talk) said (.ok after)) :
    talk.records <+: after.records := by
  induction left generalizing turn talk said with
  | zero =>
    cases held
    exact List.prefix_rfl
  | succ left ih =>
    rcases attemptFrom_turn held with ⟨error, -, failed⟩ |
      ⟨generation, record, checks, rest, -, -, ⟨-, -, done⟩ | ⟨feedback, -, -, -, held⟩⟩
    · cases failed
    · cases done
      exact List.prefix_append ..
    · exact (List.prefix_append talk.records [record]).trans (ih held)

/-- Where the generator was not called, the call lies behind. -/
theorem exists_append_of_quiet {answer : Except Text Text}
    {rest : List (Exchange Inquiry Inquiry.Answer)} (quiet : calls checks = [])
    (whole : checks ++ rest = before ++ ⟨.generate turns, answer⟩ :: behind) :
    ∃ later, before = checks ++ later ∧ rest = later ++ ⟨.generate turns, answer⟩ :: behind := by
  rcases List.append_eq_append_iff.1 whole with both | ⟨gap, rfl, reaches⟩
  · exact both
  · cases gap with
    | nil => exact ⟨[], by simp, by simpa using reaches.symm⟩
    | cons exchange gap =>
      obtain ⟨rfl, -⟩ := List.cons.inj reaches
      have called : (turns, answer) ∈ calls (before ++ ⟨.generate turns, answer⟩ :: gap) :=
        List.mem_filterMap.2 ⟨_, List.mem_append_right _ (List.mem_cons_self ..), rfl⟩
      rw [quiet] at called
      cases called

/-- **Every generation has its turn**, by induction on the turns that are left. -/
theorem exists_turnBehind
    (held : Held (attemptFrom config statement base turn left talk) said result)
    (whole : said = before ++ ⟨.generate turns, .ok generation⟩ :: behind) :
    ∃ record checks,
      Held (judge config (turn + (calls before).length) (Reading.ofGeneration statement generation))
        checks record ∧
      TurnBehind (talk.records.length + (calls before).length) behind
        (result.map Conversation.records) record checks := by
  induction left generalizing turn talk said before with
  | zero =>
    cases held
    simp at whole
  | succ left ih =>
    rcases attemptFrom_turn held with ⟨error, rfl, -⟩ |
      ⟨generation', record, checks, rest, rfl, judged, ended⟩
    · cases before with
      | nil => cases whole
      | cons first before => simp at whole
    · cases before with
      | nil =>
        cases whole
        refine ⟨record, checks, judged, ⟨rest, rfl, ?_⟩, fun all same => ?_⟩
        · rcases ended with ⟨-, rfl, -⟩ | ⟨feedback, -, -, -, held⟩
          · exact .inl rfl
          · exact beginsTurn_attemptFrom held
        · cases result with
          | error error => cases same
          | ok after =>
            cases same
            have kept : talk.records ++ [record] <+: after.records := by
              rcases ended with ⟨-, -, done⟩ | ⟨feedback, -, -, -, held⟩
              · cases done
                exact List.prefix_rfl
              · exact records_prefix_of_held held
            obtain ⟨tail, records⟩ := kept
            rw [← records]
            simp [calls]
      | cons first before =>
        rw [List.cons_append] at whole
        obtain ⟨rfl, tails⟩ := List.cons.inj whole
        have asked := (judged_of_held judged).checks
        obtain ⟨later, rfl, rfl⟩ := exists_append_of_quiet asked.calls tails
        rcases ended with ⟨-, nothing, -⟩ | ⟨feedback, -, -, -, held⟩
        · simp at nothing
        · have number : ∀ n, n + (calls (⟨.generate talk.transcript, .ok generation'⟩ ::
              (checks ++ later))).length = n + 1 + (calls later).length := by
            intro n
            rw [calls_turn asked, List.length_cons]
            omega
          obtain ⟨own, answers, judged', turned⟩ := ih held rfl
          rw [number, number]
          have count : ((talk.judged config statement base generation' record).say
              feedback).records.length = talk.records.length + 1 := List.length_append
          rw [count] at turned
          exact ⟨own, answers, judged', turned⟩

/-! ### What becomes of code that declares the theorem -/

/-- **When code that declares the theorem is verified**, in every attempt and whatever is answered:
the text that goes to the verifier is the signature of the statement with the proof of the code, and
the verdict is that on its report, exactly when the marker of a mismatch stands neither in the
signature nor in the proof. Otherwise nothing is verified in the turn, and the text itself is the
response of a failure. -/
theorem submitted_iff_unmarked (config : Config) (formalStatement : Text)
    (respondent : Respondent Inquiry Inquiry.Answer) :
    let statement := normalStatement formalStatement
    let held := (attempt config formalStatement).heldWith respondent []
    ∀ before turns generation behind, held.2 = before ++ ⟨.generate turns, .ok generation⟩ :: behind →
      ∀ code signature proof, Generation.code? generation = some code →
        Matches statement code signature proof →
        ∃ record checks,
          TurnBehind (calls before).length behind (held.1.map Attempt.records) record checks ∧
          record.turn = (calls before).length ∧ record.code = some code ∧
          record.fullCode = signature ++ proof ∧
          (Verifies (signature ++ proof) record checks ↔
            ¬ errorMarker <:+: signature ∧ ¬ errorMarker <:+: proof) ∧
          (¬ Verifies (signature ++ proof) record checks →
            Rejects (signature ++ proof) record checks) := by
  intro statement held before turns generation behind whole code signature proof found matched
  have talked : Held (attempt config formalStatement) held.2 held.1 :=
    Dialogue.held_heldWith respondent _
  obtain ⟨result, same, begun⟩ := exists_held_attemptFrom talked
  obtain ⟨record, checks, judged, turned⟩ := exists_turnBehind begun whole
  have records : held.1.map Attempt.records = result.map Conversation.records := by
    rw [same]
    cases result <;> rfl
  rw [Conversation.ofTurns, List.length_nil, Nat.zero_add] at turned
  rw [Nat.zero_add] at judged
  have marked : Text.contains errorMarker (signature ++ proof) = true ↔
      errorMarker <:+: signature ∨ errorMarker <:+: proof := by
    rw [Text.contains_iff]
    exact Statement.infix_signature_append_iff (by decide) matched.proofSign_suffix
  obtain ⟨number, coded, full, outcome⟩ := judge_cases_of_matches found matched judged
  refine ⟨record, checks, records ▸ turned, number, coded, full, ?_, ?_⟩
  · rw [← not_or, ← marked]
    rcases outcome with ⟨marked, rejects⟩ | ⟨unmarked, verifies⟩
    · exact iff_of_false (not_verifies_of_rejects rejects) (not_not_intro marked)
    · exact iff_of_true verifies (by rw [unmarked]; decide)
  · intro unverified
    rcases outcome with ⟨-, rejects⟩ | ⟨-, verifies⟩
    · exact rejects
    · exact absurd verifies unverified

/-- The second turn of an attempt, whose code is verified. -/
theorem submitted_iff_unmarked_hesitating :
    let config :=
      { Config.standard with refinement := true, prompt := problemHole, refinePrompt := errorHole }
    let held := (attempt config "theorem t : True := by sorry").heldWith hesitating []
    let generation : Text := "```lean4\ntheorem t : True := by\n  trivial\n```"
    let code : Text := "theorem t : True := by\n  trivial"
    ∃ before turns behind, held.2 = before ++ ⟨.generate turns, .ok generation⟩ :: behind ∧
      Generation.code? generation = some code ∧
      Matches (normalStatement "theorem t : True := by sorry") code "theorem t : True :="
        " by\n  trivial" ∧
      ∃ record checks, record.turn = 1 ∧ record.fullCode = code ∧ Verifies code record checks := by
  intro config held generation code
  have split : ∃ before turns behind,
      held.2 = before ++ ⟨.generate turns, .ok generation⟩ :: behind ∧ (calls before).length = 1 :=
    ⟨[⟨.generate _, .ok "Induction on n."⟩], _, _, rfl, rfl⟩
  obtain ⟨before, turns, behind, whole, second⟩ := split
  have found : Generation.code? generation = some code := by decide
  have matched : Matches (normalStatement "theorem t : True := by sorry") code "theorem t : True :="
      " by\n  trivial" := ⟨"t", " by sorry", "theorem t : True :=", by decide, by decide, by decide⟩
  obtain ⟨record, checks, -, number, -, full, verified, -⟩ := submitted_iff_unmarked config
    "theorem t : True := by sorry" hesitating before turns generation behind whole code _ _ found
    matched
  have clear : ¬ errorMarker <:+: "theorem t : True :=".toList ∧
      ¬ errorMarker <:+: " by\n  trivial".toList := by
    rw [← Text.contains_iff, ← Text.contains_iff]
    decide
  exact ⟨before, turns, behind, whole, found, matched, record, checks, number.trans second, full,
    verified.2 clear⟩

/-- The only generation of an attempt has code that declares the theorem, and nothing is verified: the
text is the response of a failure. -/
def LeftUnverified (formalStatement generation code signature proof : Text) : Prop :=
  let held := (attempt Config.standard formalStatement).heldWith (unchanging generation) []
  Generation.code? generation = some code ∧
    Matches (normalStatement formalStatement) code signature proof ∧ verifiedTexts held.2 = [] ∧
    ∃ attempt record, held.1 = .ok attempt ∧ attempt.records = [record] ∧
      record.status = .failed ∧ record.response = signature ++ proof

/-- **A proof that nobody verifies**, for a word in a remark: once in the code, and once in the
statement. -/
theorem unsubmitted_for_remark :
    LeftUnverified "theorem t : True := by sorry"
        "```lean4\ntheorem t : True := by -- no **Error** now\n  trivial\n```"
        "theorem t : True := by -- no **Error** now\n  trivial" "theorem t : True :="
        " by -- no **Error** now\n  trivial" ∧
      LeftUnverified "/-- **Error** bound -/\ntheorem t : True := by sorry"
        "```lean4\ntheorem t : True := by trivial\n```" "theorem t : True := by trivial"
        "/-- **Error** bound -/\ntheorem t : True :=" " by trivial" := by
  constructor
  · exact ⟨by decide, ⟨"t", " by sorry", "theorem t : True :=", by decide, by decide, by decide⟩,
      by decide, _, _, rfl, rfl, by decide, by decide⟩
  · exact ⟨by decide, ⟨"t", " by sorry", "theorem t : True :=", by decide, by decide, by decide⟩,
      by decide, _, _, rfl, rfl, by decide, by decide⟩

end Prover
end ProofDesk
