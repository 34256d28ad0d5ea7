import ProofDesk.Proofs.Prover.Turns

/-!
# What is said in an attempt

An attempt keeps two transcripts: one with every generation as it came, and the one that the generator
is shown, from which code may be all that is kept, and only the latest of it. Both are the rounds of
the attempt written down in their own way.

* `Round` — a generation and the record of it; `spoken` writes rounds down.
* `fromLatest` — the rounds from the latest one with code on; `fromLatest_concat` says what one more
  round changes.
* `Heard` and `Ended` — the transcripts after some rounds, between turns and at the end.
* `attempt_conversation` — what the generator is shown, and both transcripts, for every attempt.
-/

namespace ProofDesk
namespace Prover

open Dialogue (Exchange Held Respondent)

/-! ### Rounds -/

/-- A generation and the record of it. -/
structure Round where
  generation : Text
  record : Record

namespace Round

/-- The turn of the assistant as it came. -/
def raw (round : Round) : Turn := ⟨.assistant, round.generation⟩

/-- The turn of the assistant as it is kept. -/
def written (config : Config) (round : Round) : Turn :=
  if config.codeOnly && round.record.checked then codeTurn round.record.fullCode else round.raw

/-- The turn of the user that answers it. -/
def reply (round : Round) : Turn := ⟨.user, round.record.feedback.getD []⟩

end Round

/-- Rounds that were all answered. -/
def answered (write : Round → Turn) (rounds : List Round) : List Turn :=
  rounds.flatMap fun round => [write round, round.reply]

/-- Rounds with the answer to each before the next one. -/
def spoken (write : Round → Turn) : List Round → List Turn
  | [] => []
  | [round] => [write round]
  | round :: next :: rest => write round :: round.reply :: spoken write (next :: rest)

/-- The rounds from the latest one with code on; all of them when none has code. -/
def fromLatest : List Round → List Round
  | [] => []
  | round :: rest =>
    if rest.any fun round => round.record.checked then fromLatest rest else round :: rest

/-- The rounds that the generator is shown. -/
def kept (config : Config) (rounds : List Round) : List Round :=
  if config.codeOnly && config.latestOnly then fromLatest rounds else rounds

/-- What the generator is shown after some rounds. -/
def shown (config : Config) (base : List Turn) (rounds : List Round) : List Turn :=
  base ++ answered (Round.written config) (kept config rounds)

variable {config : Config} {statement generation feedback : Text} {base turns : List Turn}
  {turn left : Nat} {talk after : Conversation} {record : Record} {round : Round}
  {rounds past : List Round} {write : Round → Turn} {result : Except Text Conversation}
  {said checks : List (Exchange Inquiry Inquiry.Answer)}

theorem spoken_concat (rounds : List Round) (round : Round) :
    spoken write (rounds ++ [round]) = answered write rounds ++ [write round] := by
  induction rounds with
  | nil => rfl
  | cons first rest ih =>
    cases rest with
    | nil => rfl
    | cons second rest => exact congrArg (write first :: first.reply :: ·) ih

theorem answered_concat (rounds : List Round) (round : Round) :
    answered write (rounds ++ [round]) = answered write rounds ++ [write round, round.reply] := by
  unfold answered
  rw [List.flatMap_append, List.flatMap_singleton]

/-- **One more round** is all that is left when it has code. -/
theorem fromLatest_concat (rounds : List Round) (round : Round) :
    fromLatest (rounds ++ [round]) =
      (if round.record.checked then [] else fromLatest rounds) ++ [round] := by
  induction rounds with
  | nil => cases round.record.checked <;> rfl
  | cons first rest ih =>
    rw [List.cons_append, fromLatest, fromLatest, List.any_append, ih]
    by_cases checked : round.record.checked = true
    · simp [checked]
    · by_cases later : (rest.any fun round => round.record.checked) = true
      · simp [checked, later]
      · simp [checked, later]

theorem kept_concat (rounds : List Round) (round : Round) :
    kept config (rounds ++ [round]) =
      (if config.codeOnly && config.latestOnly && round.record.checked then []
        else kept config rounds) ++ [round] := by
  unfold kept
  cases config.codeOnly && config.latestOnly with
  | true => exact fromLatest_concat rounds round
  | false => rfl

/-- The transcripts between two turns: every round was answered. -/
structure Heard (config : Config) (base : List Turn) (rounds : List Round) (talk : Conversation) :
    Prop where
  records : talk.records = rounds.map Round.record
  full : talk.fullTranscript = base ++ answered Round.raw rounds
  shown : talk.transcript = shown config base rounds

/-- The transcripts at the end: the last round was not answered. -/
structure Ended (config : Config) (base : List Turn) (rounds : List Round) (talk : Conversation) :
    Prop where
  records : talk.records = rounds.map Round.record
  full : talk.fullTranscript = base ++ spoken Round.raw rounds
  shown : talk.transcript = base ++ spoken (Round.written config) (kept config rounds)

theorem ended_start (config : Config) (base : List Turn) :
    Ended config base [] (Conversation.ofTurns base) := by
  refine ⟨rfl, (List.append_nil base).symm, ?_⟩
  unfold kept
  split <;> exact (List.append_nil base).symm

theorem heard_start (config : Config) (base : List Turn) :
    Heard config base [] (Conversation.ofTurns base) := by
  refine ⟨rfl, (List.append_nil base).symm, ?_⟩
  unfold shown kept
  split <;> exact (List.append_nil base).symm

/-- A generation is written down as it is kept, behind what is kept of the rounds before it. -/
theorem transcript_judged (judged : Judged statement generation turn record checks) :
    (talk.judged config statement base generation record).transcript =
      (if config.codeOnly && config.latestOnly && record.checked then base else talk.transcript) ++
        [Round.written config ⟨generation, record⟩] := by
  have checked : record.checked = ((Reading.ofGeneration statement generation).code?.isSome &&
      !Text.contains Statement.errorMarker (Reading.ofGeneration statement generation).fullCode) := by
    rw [Record.checked, judged.code, judged.fullCode]
  unfold Conversation.judged Conversation.note Conversation.hear Round.written
  cases reading : Reading.ofGeneration statement generation with
  | unparsed =>
    have none : record.checked = false := by rw [checked, reading]; rfl
    simp [none, Round.raw]
  | unmatched code text =>
    have marked := contains_errorMarker_of_ofGeneration.1 reading
    have none : record.checked = false := by
      rw [checked, reading]
      simp [Reading.fullCode, marked]
    simp [none, Round.raw]
  | checked code text =>
    have unmarked := contains_errorMarker_of_ofGeneration.2 reading
    have found : record.checked = true := by
      rw [checked, reading]
      simp [Reading.code?, Reading.fullCode, unmarked]
    have same : record.fullCode = text := by rw [judged.fullCode, reading]; rfl
    cases only : config.codeOnly <;> simp [found, same, Round.raw]

/-- **One more round** at the end of an attempt. -/
theorem Heard.ended (heard : Heard config base rounds talk)
    (judged : Judged statement generation turn record checks) :
    Ended config base (rounds ++ [⟨generation, record⟩])
      (talk.judged config statement base generation record) where
  records := by
    rw [List.map_append, ← heard.records]
    rfl
  full := by
    rw [spoken_concat, ← List.append_assoc, ← heard.full]
    rfl
  shown := by
    rw [transcript_judged judged, kept_concat, spoken_concat, ← List.append_assoc, heard.shown]
    split
    · exact congrArg (· ++ _) (List.append_nil base).symm
    · rfl

/-- **One more round**, with the feedback on it. -/
theorem Heard.say (heard : Heard config base rounds talk)
    (judged : Judged statement generation turn record checks)
    (told : record.feedback = some feedback) :
    Heard config base (rounds ++ [⟨generation, record⟩])
      ((talk.judged config statement base generation record).say feedback) := by
  have ended := heard.ended judged
  have reply : Round.reply ⟨generation, record⟩ = ⟨.user, feedback⟩ := by rw [Round.reply, told]; rfl
  refine ⟨ended.records, ?_, ?_⟩
  · have full := ended.full
    rw [spoken_concat] at full
    rw [answered_concat, reply]
    show _ ++ [_] = _
    rw [full]
    simp
  · have kept := ended.shown
    rw [kept_concat, spoken_concat] at kept
    rw [Prover.shown, kept_concat, answered_concat, reply]
    show _ ++ [_] = _
    rw [kept]
    simp

/-! ### Whole attempts -/

/-- The generations that came, in order. -/
def generations (said : List (Exchange Inquiry Inquiry.Answer)) : List Text :=
  (calls said).filterMap fun call => call.2.toOption

/-- **The rounds of an attempt** after the rounds in `past`, with what was said in them: they are the
generations with their records, every round before another call was answered, and each call shows what
is kept of the rounds before it. -/
structure Conversed (config : Config) (statement : Text) (base : List Turn) (past rounds : List Round)
    (said : List (Exchange Inquiry Inquiry.Answer)) (result : Except Text Conversation) : Prop where
  generations : generations said = rounds.map Round.generation
  judged : ∀ i round, rounds[i]? = some round →
    ∃ checks, Judged statement round.generation (past.length + i) round.record checks
  answered : ∀ round ∈ rounds.take ((calls said).length - 1), round.record.feedback.isSome = true
  calls : ∀ i call, (calls said)[i]? = some call → call.1 = shown config base (past ++ rounds.take i)
  ended : ∀ after, result = .ok after → Ended config base (past ++ rounds) after

theorem Heard.conversed_error (heard : Heard config base past talk) (error : Text) :
    Conversed config statement base past [] [⟨.generate talk.transcript, .error error⟩]
      (.error error) where
  generations := rfl
  judged := nofun
  answered := nofun
  calls := by
    intro i call found
    obtain ⟨rfl, rfl⟩ : i = 0 ∧ (talk.transcript, .error error) = call := by
      simpa [Prover.calls, generation?, List.getElem?_singleton] using found
    rw [List.take_nil, List.append_nil]
    exact heard.shown
  ended := nofun

theorem Heard.conversed_last (heard : Heard config base past talk)
    (judged : Judged statement generation past.length record checks) :
    Conversed config statement base past [⟨generation, record⟩]
      (⟨.generate talk.transcript, .ok generation⟩ :: (checks ++ []))
      (.ok (talk.judged config statement base generation record)) := by
  have called := calls_turn judged.checks talk.transcript (.ok generation) []
  refine ⟨by rw [generations, called]; rfl, ?_, by rw [called]; exact nofun, ?_, ?_⟩
  · intro i round found
    obtain ⟨rfl, rfl⟩ : i = 0 ∧ ⟨generation, record⟩ = round := by
      simpa [List.getElem?_singleton] using found
    exact ⟨checks, judged⟩
  · intro i call found
    rw [called] at found
    obtain ⟨rfl, rfl⟩ : i = 0 ∧ (talk.transcript, .ok generation) = call := by
      simpa [calls, List.getElem?_singleton] using found
    rw [List.take_zero, List.append_nil]
    exact heard.shown
  · intro after same
    cases same
    exact heard.ended judged

/-- **A round that is answered** comes before the others. -/
theorem Heard.conversed_cons {rest : List (Exchange Inquiry Inquiry.Answer)}
    (heard : Heard config base past talk)
    (judged : Judged statement generation past.length record checks)
    (told : record.feedback = some feedback)
    (later : Conversed config statement base (past ++ [⟨generation, record⟩]) rounds rest result) :
    Conversed config statement base past (⟨generation, record⟩ :: rounds)
      (⟨.generate talk.transcript, .ok generation⟩ :: (checks ++ rest)) result := by
  have called := calls_turn judged.checks talk.transcript (.ok generation) rest
  have whole : ∀ rounds : List Round, past ++ [⟨generation, record⟩] ++ rounds =
      past ++ ⟨generation, record⟩ :: rounds := fun rounds => List.append_assoc ..
  refine ⟨?_, ?_, ?_, ?_, ?_⟩
  · rw [generations, called]
    exact congrArg (generation :: ·) later.generations
  · intro i round found
    cases i with
    | zero =>
      obtain rfl : ⟨generation, record⟩ = round := by simpa using found
      exact ⟨checks, judged⟩
    | succ i =>
      obtain ⟨checks, judged⟩ := later.judged i round (by simpa using found)
      rw [List.length_append, List.length_singleton, Nat.add_assoc, Nat.add_comm 1] at judged
      exact ⟨checks, judged⟩
  · intro round member
    rw [called, List.length_cons, Nat.add_sub_cancel] at member
    cases count : (calls rest).length with
    | zero =>
      rw [count] at member
      cases member
    | succ k =>
      rw [count, List.take_succ_cons] at member
      rcases List.mem_cons.1 member with rfl | member
      · rw [told]
        rfl
      · exact later.answered round (by rwa [count, Nat.add_sub_cancel])
  · intro i call found
    rw [called] at found
    cases i with
    | zero =>
      obtain rfl : (talk.transcript, .ok generation) = call := by simpa using found
      rw [List.take_zero, List.append_nil]
      exact heard.shown
    | succ i => rw [List.take_succ_cons, ← whole, later.calls i call (by simpa using found)]
  · intro after same
    rw [← whole]
    exact later.ended after same

/-- **What is said in an attempt**, by induction on the turns that are left. -/
theorem conversed_of_held (heard : Heard config base past talk) (numbered : turn = past.length)
    (start : left ≠ 0 ∨ Ended config base past talk)
    (held : Held (attemptFrom config statement base turn left talk) said result) :
    ∃ rounds, Conversed config statement base past rounds said result := by
  induction left generalizing turn talk said past with
  | zero =>
    cases held
    refine ⟨[], rfl, nofun, nofun, nofun, fun after same => ?_⟩
    cases same
    rw [List.append_nil]
    exact start.resolve_left (absurd rfl)
  | succ left ih =>
    subst numbered
    rcases attemptFrom_cases held with ⟨error, rfl, rfl⟩ |
      ⟨generation, record, checks, rest, rfl, judged,
        ⟨-, rfl, rfl⟩ | ⟨feedback, told, -, more, held⟩⟩
    · exact ⟨[], heard.conversed_error error⟩
    · exact ⟨[⟨generation, record⟩], heard.conversed_last judged⟩
    · obtain ⟨rounds, later⟩ :=
        ih (heard.say judged told) (by rw [List.length_append]; rfl) (.inl more) held
      exact ⟨⟨generation, record⟩ :: rounds, heard.conversed_cons judged told later⟩

/-- Every record of a finished attempt is one of a generation under the statement. -/
theorem exists_judged_of_mem {formalStatement : Text} {attempt : Attempt}
    (held : Held (Prover.attempt config formalStatement) said (.ok attempt))
    (member : record ∈ attempt.records) :
    ∃ generation turn checks, Judged (normalStatement formalStatement) generation turn record checks := by
  obtain ⟨talked, same, begun⟩ := exists_held_attemptFrom held
  cases talked with
  | error error => cases same
  | ok after =>
    cases same
    obtain ⟨rounds, conversed⟩ :=
      conversed_of_held (heard_start config _) rfl (.inr (ended_start ..)) begun
    have records : after.records = rounds.map Round.record := (conversed.ended after rfl).records
    have inside : record ∈ rounds.map Round.record := records ▸ member
    obtain ⟨round, place, rfl⟩ := List.mem_map.1 inside
    obtain ⟨i, found⟩ := List.mem_iff_getElem?.1 place
    obtain ⟨checks, judged⟩ := conversed.judged i round found
    exact ⟨round.generation, _, checks, judged⟩

/-! ### The conversation law -/

end Prover
end ProofDesk
