import ProofDesk.Dialogue

/-!
# Dialogues held with any respondent

A respondent answers a question by everything that was said before, so it may be anything: a tool
that fails at its third call, one that never answers twice alike, one that knows the future.

* `heldWith` — a dialogue held with a respondent: the value, and everything said.
* `heldWith_bind` — one dialogue after another.
* `held_heldWith` — what is said to a respondent is one way to hold the dialogue.
* `exists_held_of_relay` — telling the respondent more about a question changes nothing else.
* `Only` — a dialogue asks nothing but questions of one kind; `Only.heldWith` carries this over to
  what is said to any respondent.
-/

namespace ProofDesk
namespace Dialogue

variable {Q : Type} {A : Q → Type} {α β : Type}

/-- A question and the answer that it got. -/
abbrev Exchange (Q : Type) (A : Q → Type) : Type := (q : Q) × A q

/-- Who answers, knowing what was said before. -/
abbrev Respondent (Q : Type) (A : Q → Type) : Type := List (Exchange Q A) → (q : Q) → A q

/-- The dialogue held with a respondent after some exchanges: its value and everything said. -/
def heldWith (respondent : Respondent Q A) (dialogue : Dialogue Q A α)
    (said : List (Exchange Q A)) : α × List (Exchange Q A) :=
  dialogue.run (fun q said => (respondent said q, said ++ [⟨q, respondent said q⟩])) said

variable (respondent : Respondent Q A) (said : List (Exchange Q A))

@[simp] theorem heldWith_done (value : α) :
    (done value : Dialogue Q A α).heldWith respondent said = (value, said) := rfl

theorem heldWith_ask (q : Q) (next : A q → Dialogue Q A α) :
    (ask q next).heldWith respondent said =
      (next (respondent said q)).heldWith respondent (said ++ [⟨q, respondent said q⟩]) := rfl

theorem heldWith_bind (dialogue : Dialogue Q A α) (f : α → Dialogue Q A β) :
    (dialogue >>= f).heldWith respondent said =
      (f (dialogue.heldWith respondent said).1).heldWith respondent
        (dialogue.heldWith respondent said).2 :=
  run_bind _ dialogue f said

/-- What was said stays said. -/
theorem mem_heldWith (dialogue : Dialogue Q A α) {exchange : Exchange Q A}
    (member : exchange ∈ said) : exchange ∈ (dialogue.heldWith respondent said).2 := by
  induction dialogue generalizing said with
  | done value => exact member
  | ask q next ih => exact ih _ _ (List.mem_append_left _ member)

theorem exists_held_heldWith (dialogue : Dialogue Q A α) :
    ∃ exchanges, (dialogue.heldWith respondent said).2 = said ++ exchanges ∧
      Held dialogue exchanges (dialogue.heldWith respondent said).1 := by
  induction dialogue generalizing said with
  | done value => exact ⟨[], (List.append_nil said).symm, .done value⟩
  | ask q next ih =>
    obtain ⟨exchanges, whole, held⟩ := ih (respondent said q) (said ++ [⟨q, respondent said q⟩])
    refine ⟨⟨q, respondent said q⟩ :: exchanges, ?_, .ask _ held⟩
    rw [heldWith_ask, whole, List.append_assoc, List.singleton_append]

/-- **What is said to a respondent** is one way to hold the dialogue. -/
theorem held_heldWith (dialogue : Dialogue Q A α) :
    Held dialogue (dialogue.heldWith respondent []).2 (dialogue.heldWith respondent []).1 := by
  obtain ⟨exchanges, whole, held⟩ := exists_held_heldWith respondent [] dialogue
  rwa [whole, List.nil_append]

/-- A value that is only made into another one. -/
theorem held_map {dialogue : Dialogue Q A α} {f : α → β} {exchanges : List (Exchange Q A)}
    {value : β} : Held (dialogue >>= fun first => done (f first)) exchanges value ↔
      ∃ first, Held dialogue exchanges first ∧ value = f first := by
  constructor
  · intro held
    obtain ⟨before, behind, first, rfl, begun, ended⟩ := held_bind.1 held
    cases ended
    exact ⟨first, by rwa [List.append_nil], rfl⟩
  · rintro ⟨first, begun, rfl⟩
    exact held_bind.2 ⟨exchanges, [], first, (List.append_nil _).symm, begun, .done _⟩

/-- **Questions with a tag**: nothing else is asked, and what is answered is the same. -/
theorem exists_held_of_relay {Q' : Type} {A' : Q' → Type} {tag : Q → Q'}
    {dialogue : Dialogue Q (fun q => A' (tag q)) α} {value : α} {told : List (Exchange Q' A')}
    (held : Held (dialogue.relay fun q => question (tag q)) told value) :
    ∃ own, Held dialogue own value ∧ told = own.map fun exchange => ⟨tag exchange.1, exchange.2⟩ := by
  induction dialogue generalizing told with
  | done value =>
    cases held
    exact ⟨[], .done value, rfl⟩
  | ask q next ih =>
    cases held with
    | ask answer rest =>
      obtain ⟨own, held, rfl⟩ := ih answer rest
      exact ⟨⟨q, answer⟩ :: own, .ask (A := fun q => A' (tag q)) answer held, rfl⟩

/-- What is held with a party that asks another one is held by itself. -/
theorem exists_held_relay {Q' : Type} {A' : Q' → Type} {inquire : (q : Q) → Dialogue Q' A' (A q)}
    {dialogue : Dialogue Q A α} {value : α} {told : List (Exchange Q' A')}
    (held : Held (dialogue.relay inquire) told value) : ∃ own, Held dialogue own value := by
  induction dialogue generalizing told with
  | done value =>
    cases held
    exact ⟨[], .done value⟩
  | ask q next ih =>
    obtain ⟨before, behind, answer, rfl, -, rest⟩ := held_bind.1 held
    obtain ⟨own, held⟩ := ih answer rest
    exact ⟨_, .ask answer held⟩

/-! ### Kinds of questions -/

/-- Whatever is answered, the dialogue asks only questions for which `P` holds. -/
inductive Only (P : Q → Prop) : Dialogue Q A α → Prop
  | done (value : α) : Only P (.done value)
  | ask {q : Q} {next : A q → Dialogue Q A α} (here : P q) (later : ∀ answer, Only P (next answer)) :
      Only P (.ask q next)

namespace Only

variable {P : Q → Prop} {dialogue : Dialogue Q A α}

theorem bind {f : α → Dialogue Q A β} (first : Only P dialogue) (second : ∀ value, Only P (f value)) :
    Only P (dialogue >>= f) := by
  induction first with
  | done value => exact second value
  | ask here _ ih => exact .ask here ih

theorem held {exchanges : List (Exchange Q A)} {value : α} (only : Only P dialogue)
    (held : Held dialogue exchanges value) : ∀ exchange ∈ exchanges, P exchange.1 := by
  induction held with
  | done value => exact nofun
  | ask answer _ ih =>
    cases only with
    | ask here later =>
      intro exchange member
      rcases List.mem_cons.1 member with rfl | member
      · exact here
      · exact ih (later answer) exchange member

/-- **Nothing else is ever said**, whoever answers. -/
theorem heldWith {respondent : Respondent Q A} {said : List (Exchange Q A)}
    (only : Only P dialogue) :
    ∀ exchange ∈ (dialogue.heldWith respondent said).2, exchange ∈ said ∨ P exchange.1 := by
  induction only generalizing said with
  | done value => exact fun exchange member => .inl member
  | ask here _ ih =>
    intro exchange member
    rw [heldWith_ask] at member
    rcases ih _ exchange member with before | kind
    · rcases List.mem_append.1 before with before | now
      · exact .inl before
      · obtain rfl := List.mem_singleton.1 now
        exact .inr here
    · exact .inr kind

end Only

end Dialogue
end ProofDesk
