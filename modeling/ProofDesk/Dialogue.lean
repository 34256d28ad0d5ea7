/-!
# Dialogues

A computation that may ask its surroundings. What is asked decides what kind of answer comes back,
and a dialogue ends after finitely many questions whatever the answers are.

* `Dialogue` — done with a value, or a question and what follows each answer.
* `Dialogue.run` — a dialogue held with a party whose state the questions change.
* `Dialogue.Held` — a dialogue can be held with these questions and answers and end in this value.
* `run_bind` and `held_bind` — one dialogue after another is held part by part.
* `exists_held` — every party holds a dialogue to its end.
-/

namespace ProofDesk

/-- A computation that asks questions of type `Q` and gets answers of type `A q`. -/
inductive Dialogue (Q : Type) (A : Q → Type) (α : Type) where
  /-- It has ended with a value. -/
  | done (value : α)
  /-- It asks, and goes on with the answer. -/
  | ask (question : Q) (next : A question → Dialogue Q A α)

namespace Dialogue

variable {Q : Type} {A : Q → Type} {α β γ : Type}

/-- One dialogue after another. -/
protected def bind : Dialogue Q A α → (α → Dialogue Q A β) → Dialogue Q A β
  | done value, f => f value
  | ask question next, f => ask question fun answer => (next answer).bind f

instance : Monad (Dialogue Q A) where
  pure := done
  bind := Dialogue.bind

/-- The dialogue of one question, which ends with the answer. -/
def question (q : Q) : Dialogue Q A (A q) := ask q done

@[simp] theorem pure_eq (value : α) : (pure value : Dialogue Q A α) = done value := rfl

@[simp] theorem bind_done (value : α) (f : α → Dialogue Q A β) : (done value >>= f) = f value := rfl

@[simp] theorem bind_ask (q : Q) (next : A q → Dialogue Q A α) (f : α → Dialogue Q A β) :
    (ask q next >>= f) = ask q fun answer => next answer >>= f := rfl

theorem bind_pure (dialogue : Dialogue Q A α) : dialogue.bind done = dialogue := by
  induction dialogue with
  | done value => rfl
  | ask q next ih => exact congrArg (ask q) (funext ih)

theorem bind_assoc (dialogue : Dialogue Q A α) (f : α → Dialogue Q A β)
    (g : β → Dialogue Q A γ) :
    (dialogue.bind f).bind g = dialogue.bind fun value => (f value).bind g := by
  induction dialogue with
  | done value => rfl
  | ask q next ih => exact congrArg (ask q) (funext ih)

instance : LawfulMonad (Dialogue Q A) := .mk' _ bind_pure (fun _ _ => rfl) bind_assoc

/-- A dialogue each of whose questions is answered after a dialogue with another party. -/
def relay {Q' : Type} {A' : Q' → Type} (inquire : (q : Q) → Dialogue Q' A' (A q)) :
    Dialogue Q A α → Dialogue Q' A' α
  | done value => done value
  | ask q next => (inquire q).bind fun answer => (next answer).relay inquire

/-- The dialogue held inside a monad that answers its questions. -/
def runIn {m : Type → Type} [Monad m] (answer : (q : Q) → m (A q)) : Dialogue Q A α → m α
  | done value => pure value
  | ask q next => do runIn answer (next (← answer q))

/-- The dialogue held with a party that has a state: the value, and the state at the end. -/
def run {σ : Type} (answer : (q : Q) → σ → A q × σ) : Dialogue Q A α → σ → α × σ
  | done value, state => (value, state)
  | ask q next, state => run answer (next (answer q state).1) (answer q state).2

theorem run_bind {σ : Type} (answer : (q : Q) → σ → A q × σ) (dialogue : Dialogue Q A α)
    (f : α → Dialogue Q A β) (state : σ) :
    (dialogue >>= f).run answer state =
      (f (dialogue.run answer state).1).run answer (dialogue.run answer state).2 := by
  induction dialogue generalizing state with
  | done value => rfl
  | ask q next ih => exact ih (answer q state).1 (answer q state).2

/-- The dialogue can be held with these questions and answers, and ends in this value. -/
inductive Held : Dialogue Q A α → List ((q : Q) × A q) → α → Prop
  /-- A dialogue that has ended asks nothing. -/
  | done (value : α) : Held (.done value) [] value
  /-- A question is answered, and the rest is held. -/
  | ask {q : Q} {next : A q → Dialogue Q A α} {exchanges : List ((q : Q) × A q)} {value : α}
      (answer : A q) (rest : Held (next answer) exchanges value) :
      Held (.ask q next) (⟨q, answer⟩ :: exchanges) value

theorem held_bind {first : Dialogue Q A α} {f : α → Dialogue Q A β}
    {exchanges : List ((q : Q) × A q)} {value : β} :
    Held (first >>= f) exchanges value ↔
      ∃ before behind middle, exchanges = before ++ behind ∧ Held first before middle ∧
        Held (f middle) behind value := by
  constructor
  · intro held
    induction first generalizing exchanges with
    | done middle => exact ⟨[], exchanges, middle, rfl, .done middle, held⟩
    | ask q next ih =>
      cases held with
      | ask answer rest =>
        obtain ⟨before, behind, middle, rfl, begun, ended⟩ := ih answer rest
        exact ⟨_ :: before, behind, middle, rfl, .ask answer begun, ended⟩
  · rintro ⟨before, behind, middle, rfl, begun, ended⟩
    induction begun with
    | done value => exact ended
    | ask answer _ ih => exact .ask answer (ih ended)

theorem exists_held {σ : Type} (answer : (q : Q) → σ → A q × σ) (dialogue : Dialogue Q A α)
    (state : σ) : ∃ exchanges, Held dialogue exchanges (dialogue.run answer state).1 := by
  induction dialogue generalizing state with
  | done value => exact ⟨[], .done value⟩
  | ask q next ih =>
    obtain ⟨exchanges, held⟩ := ih (answer q state).1 (answer q state).2
    exact ⟨_, .ask _ held⟩

end Dialogue
end ProofDesk
