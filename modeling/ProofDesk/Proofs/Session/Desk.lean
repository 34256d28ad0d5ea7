import ProofDesk.Session.Desk
import ProofDesk.Proofs.Dialogue
import ProofDesk.Proofs.Session.Declared

/-!
# Sessions that share a verifier

The sessions of a desk take their steps in any order. Here the verifier is told whose text it is
asked about, so it may even treat the sessions differently. What it answers does not matter, and so it
does not matter what it is asked by others in between.

* `Desk.performAll` — the steps of a run, each of some session.
* `Kept` — what a step of a session keeps, and what it asks.
* `held_perform` — a step of a desk is a step of one session, and the other sessions stay as they are.
* `performAll_apart` — the names that are declared for different sessions are different.
-/

namespace ProofDesk

open Dialogue (Held Respondent Exchange)
open Renaming (suffixOf suffixNames)
open Source (declaredNames)

variable {said : List (Exchange Text fun _ => Verification)}

namespace Session

/-! ### What a step keeps -/

/-- After the exchanges the session is still the same one, and it was asked about documents of its
own only. -/
structure Kept (session : Session) (said : List (Exchange Text fun _ => Verification))
    (after : Session) : Prop where
  identity : after.identity = session.identity
  uniqueNames : after.uniqueNames = session.uniqueNames
  asked : ∀ exchange ∈ said, ∃ document, exchange.1 = { session with document }.submission

variable {session after : Session} {α β : Type}

theorem kept_load {document : Text} {result : CompileResult}
    (held : Held (session.load document) said (result, after)) : Kept session said after := by
  cases held with
  | ask report rest =>
    cases rest
    refine ⟨rfl, rfl, fun exchange member => ⟨document, ?_⟩⟩
    obtain rfl := List.mem_singleton.1 member
    rfl

theorem exists_held_of_bind {first : Verified (α × Session)}
    {f : α × Session → Verified (β × Session)} {value : β}
    (ends : ∀ pair, ∃ reply, f pair = .done (reply, pair.2))
    (held : Held (first >>= f) said (value, after)) : ∃ result, Held first said (result, after) := by
  have same : f = fun pair => .done ((ends pair).choose, pair.2) :=
    funext fun pair => (ends pair).choose_spec
  rw [same] at held
  obtain ⟨⟨result, middle⟩, begun, ended⟩ := Dialogue.held_map.1 held
  cases ended
  exact ⟨result, begun⟩

theorem kept_edit {id new : Text} {result : Except EditError EditResult}
    (held : Held (session.edit id new) said (result, after)) : Kept session said after := by
  unfold edit at held
  split at held
  · cases held
    exact ⟨rfl, rfl, nofun⟩
  · obtain ⟨compilation, loaded⟩ := exists_held_of_bind (fun _ => ⟨_, rfl⟩) held
    exact kept_load loaded

theorem kept_addOutline {lines : List Text} {result : Except EditError EditResult}
    (held : Held (session.addOutline lines) said (result, after)) : Kept session said after := by
  unfold addOutline at held
  split at held
  · cases held
    exact ⟨rfl, rfl, nofun⟩
  · exact kept_edit held

/-- **A step keeps a session the same one**, whatever it does to its document. -/
theorem kept_perform {step : Step} {answer : Answer}
    (held : Held (session.perform step) said (answer, after)) : Kept session said after := by
  cases step with
  | load document =>
    obtain ⟨result, loaded⟩ := exists_held_of_bind (fun _ => ⟨_, rfl⟩) held
    exact kept_load loaded
  | edit id new =>
    obtain ⟨result, edited⟩ := exists_held_of_bind (fun _ => ⟨_, rfl⟩) held
    exact kept_edit edited
  | addOutline lines =>
    obtain ⟨result, added⟩ := exists_held_of_bind (fun _ => ⟨_, rfl⟩) held
    exact kept_addOutline added
  | _ =>
    cases held
    exact ⟨rfl, rfl, nofun⟩

end Session

namespace Desk

variable {desk next : Desk} {index : Nat} {step : Session.Step} {ids : List Text}

/-! ### One step -/

/-- **A step of a desk is a step of one session**, and there is none where there is no session. -/
theorem held_perform {answer : Option Session.Answer}
    (held : Held (desk.perform index step) said (answer, next)) :
    (desk.sessions[index]? = none ∧ said = [] ∧ next = desk) ∨
      ∃ session reply after, desk.sessions[index]? = some session ∧
        Held (session.perform step) said (reply, after) ∧
        next = { desk with sessions := desk.sessions.set index after } := by
  unfold perform at held
  split at held
  · next none =>
    cases held
    exact .inl ⟨none, rfl, rfl⟩
  · next session found =>
    obtain ⟨before, behind, ⟨reply, after⟩, rfl, performed, ended⟩ := Dialogue.held_bind.1 held
    cases ended
    rw [List.append_nil]
    exact .inr ⟨session, reply, after, found, performed, rfl⟩

/-- **The other sessions stay as they are.** -/
theorem sessions_of_held {answer : Option Session.Answer}
    (held : Held (desk.perform index step) said (answer, next)) {other : Nat}
    (apart : other ≠ index) : next.sessions[other]? = desk.sessions[other]? := by
  rcases held_perform held with ⟨-, -, rfl⟩ | ⟨session, reply, after, -, -, rfl⟩
  · rfl
  · exact List.getElem?_set_ne apart.symm

/-- The desk has the sessions with these ids, and they rename. -/
def HasIds (ids : List Text) (desk : Desk) : Prop :=
  desk.sessions.map (fun session => (session.identity.sessionId, session.uniqueNames)) =
    ids.map (·, true)

theorem hasIds_ofIds (instanceId : Text) (ids : List Text) :
    HasIds ids (ofIds instanceId true ids) := by
  unfold HasIds ofIds
  rw [List.map_map]
  rfl

/-- The text was submitted for the session with this index: it is a document with the suffix of that
session. -/
def SubmittedFor (ids : List Text) (index : Nat) (text : Text) : Prop :=
  ∃ id, ids[index]? = some id ∧ ∃ document, text = suffixNames (suffixOf id) document

theorem HasIds.getElem? (has : HasIds ids desk) {session : Session}
    (found : desk.sessions[index]? = some session) :
    ids[index]? = some session.identity.sessionId ∧ session.uniqueNames = true := by
  have entry := congrArg (·[index]?) has
  rw [List.getElem?_map, List.getElem?_map, found] at entry
  obtain ⟨id, known, same⟩ := Option.map_eq_some_iff.1 entry.symm
  obtain ⟨rfl, unique⟩ := Prod.mk.inj same
  exact ⟨known, unique.symm⟩

/-- **One step** asks about texts with the suffix of the session, and no session becomes another. -/
theorem HasIds.perform (has : HasIds ids desk) {answer : Option Session.Answer}
    (held : Held (desk.perform index step) said (answer, next)) :
    HasIds ids next ∧ ∀ exchange ∈ said, SubmittedFor ids index exchange.1 := by
  rcases held_perform held with ⟨-, rfl, rfl⟩ | ⟨session, reply, after, found, performed, rfl⟩
  · exact ⟨has, nofun⟩
  · obtain ⟨known, unique⟩ := has.getElem? found
    have kept := Session.kept_perform performed
    refine ⟨?_, fun exchange member => ?_⟩
    · obtain ⟨inside, rfl⟩ := List.getElem?_eq_some_iff.1 found
      unfold HasIds
      rw [List.map_set, kept.identity, kept.uniqueNames, ← has, ← List.map_set,
        List.set_getElem_self]
    · obtain ⟨document, text⟩ := kept.asked exchange member
      refine ⟨_, known, document, text.trans ?_⟩
      rw [Session.submission, if_pos unique]
      rfl

/-! ### Whole runs -/

/-- The steps performed one after the other, the verifier being told the index of the session that
asks. -/
def performAll (desk : Desk) : List (Nat × Session.Step) →
    Dialogue (Nat × Text) (fun _ => Verification) (List (Option Session.Answer) × Desk)
  | [] => return ([], desk)
  | (index, step) :: rest => do
    let (answer, desk) ←
      (desk.perform index step).relay fun text => Dialogue.question (index, text)
    let (answers, desk) ← desk.performAll rest
    return (answer :: answers, desk)

/-- **A run of any length** asks about texts with the suffix of the session that asks. -/
theorem HasIds.performAll (has : HasIds ids desk) {steps : List (Nat × Session.Step)}
    {told : List (Exchange (Nat × Text) fun _ => Verification)}
    {answers : List (Option Session.Answer)} (held : Held (desk.performAll steps) told (answers, next)) :
    HasIds ids next ∧ ∀ exchange ∈ told, SubmittedFor ids exchange.1.1 exchange.1.2 := by
  induction steps generalizing desk told answers with
  | nil =>
    cases held
    exact ⟨has, nofun⟩
  | cons first rest ih =>
    obtain ⟨index, step⟩ := first
    obtain ⟨now, behind, ⟨answer, middle⟩, rfl, relayed, follow⟩ := Dialogue.held_bind.1 held
    obtain ⟨later, nothing, ⟨replies, last⟩, rfl, remaining, ended⟩ := Dialogue.held_bind.1 follow
    cases ended
    obtain ⟨said, performed, rfl⟩ := Dialogue.exists_held_of_relay relayed
    obtain ⟨keeps, here⟩ := has.perform performed
    obtain ⟨keepsOn, there⟩ := ih keeps remaining
    refine ⟨keepsOn, fun exchange member => ?_⟩
    rw [List.append_nil] at member
    rcases List.mem_append.1 member with member | member
    · obtain ⟨own, inside, rfl⟩ := List.mem_map.1 member
      exact here own inside
    · exact there exchange member

/-! ### Names of different sessions -/

/-- The names that a submitted text declares end with the suffix of the session. -/
theorem SubmittedFor.suffix {text name : Text} {id : Text} (submitted : SubmittedFor ids index text)
    (found : ids[index]? = some id) (words : ∀ c ∈ id, Text.isWordChar c = true)
    (member : name ∈ declaredNames text) : suffixOf id <:+ name := by
  obtain ⟨own, known, document, rfl⟩ := submitted
  obtain rfl : own = id := Option.some.inj (known.symm.trans found)
  have letters : ∀ c ∈ '_' :: 's' :: own, Text.isWordChar c = true := by
    intro c inside
    rcases List.mem_cons.1 inside with rfl | inside
    · decide
    rcases List.mem_cons.1 inside with rfl | inside
    · decide
    · exact words c inside
  obtain ⟨original, -, rfl⟩ := Renaming.exists_eq_append_of_mem_declaredNames letters member
  exact List.suffix_append original _

/-- No name has the suffixes of two ids of one length. -/
theorem eq_of_suffixOf {name id other : Text} (first : suffixOf id <:+ name)
    (second : suffixOf other <:+ name) (sized : id.length = other.length) : id = other := by
  have length : (suffixOf id).length = (suffixOf other).length := by simp [suffixOf, sized]
  have inside := List.suffix_of_suffix_length_le first second (Nat.le_of_eq length)
  exact List.append_cancel_left (inside.eq_of_length length)

/-- **No two sessions declare one name**, whatever is loaded into which session, whatever is edited or
expanded, in whatever order and whatever the verifier answers: a text that is submitted for a session
declares only names with the suffix of the session, so no other session's text declares one of them,
and no step of a session touches another session. -/
theorem performAll_apart (instanceId : Text) (distinct : ids.Nodup)
    (sized : ∀ id ∈ ids, id.length = 8)
    (words : ∀ id ∈ ids, ∀ c ∈ id, Text.isWordChar c = true) (steps : List (Nat × Session.Step))
    (verifier : Respondent (Nat × Text) fun _ => Verification) :
    let run := ((ofIds instanceId true ids).performAll steps).heldWith verifier []
    (∀ exchange ∈ run.2, ∃ id document, ids[exchange.1.1]? = some id ∧
        exchange.1.2 = suffixNames (suffixOf id) document ∧
        ∀ name ∈ declaredNames exchange.1.2, suffixOf id <:+ name) ∧
      (∀ exchange ∈ run.2, ∀ other ∈ run.2, exchange.1.1 ≠ other.1.1 →
        ∀ name ∈ declaredNames exchange.1.2, name ∉ declaredNames other.1.2) ∧
      ∀ index step said answer next, Held (run.1.2.perform index step) said (answer, next) →
        ∀ other, other ≠ index → next.sessions[other]? = run.1.2.sessions[other]? := by
  intro run
  have held : Held ((ofIds instanceId true ids).performAll steps) run.2 run.1 :=
    Dialogue.held_heldWith verifier _
  obtain ⟨-, submitted⟩ := (hasIds_ofIds instanceId ids).performAll held
  have suffixed : ∀ exchange ∈ run.2, ∃ id document, ids[exchange.1.1]? = some id ∧
      exchange.1.2 = suffixNames (suffixOf id) document ∧
      ∀ name ∈ declaredNames exchange.1.2, suffixOf id <:+ name := by
    intro exchange member
    obtain ⟨id, known, document, text⟩ := submitted exchange member
    exact ⟨id, document, known, text, fun name declared => (submitted exchange member).suffix known
      (words id (List.mem_of_getElem? known)) declared⟩
  refine ⟨suffixed, ?_, fun _ _ _ _ _ performed other apart => sessions_of_held performed apart⟩
  intro exchange member other member' apart name declared declared'
  obtain ⟨id, -, known, -, first⟩ := suffixed exchange member
  obtain ⟨id', -, known', -, second⟩ := suffixed other member'
  have lengths : id.length = id'.length :=
    (sized id (List.mem_of_getElem? known)).trans (sized id' (List.mem_of_getElem? known')).symm
  obtain rfl := eq_of_suffixOf (first name declared) (second name declared') lengths
  obtain ⟨inside, -⟩ := List.getElem?_eq_some_iff.1 known
  exact apart ((List.getElem?_inj inside distinct).1 (known.trans known'.symm))

/-- One text for two sessions: each of them declares a name of its own, and no name is declared for
both. -/
theorem performAll_apart_two :
    let ids : List Text := ["5e551d01", "5e551d02"]
    let document : Text := "theorem t : True := by trivial"
    let verifier : Respondent (Nat × Text) fun _ => Verification :=
      fun _ _ => ⟨"Success", some [], false, none, false⟩
    let run := ((ofIds "1257a9ce" true ids).performAll
      [(0, .load document), (1, .load document)]).heldWith verifier []
    ids.Nodup ∧ (∀ id ∈ ids, id.length = 8) ∧ (∀ id ∈ ids, ∀ c ∈ id, Text.isWordChar c = true) ∧
      run.2.map (fun exchange => (exchange.1.1, declaredNames exchange.1.2)) =
        [(0, ["t_s5e551d01".toList]), (1, ["t_s5e551d02".toList])] ∧
      ∀ exchange ∈ run.2, ∀ other ∈ run.2, exchange.1.1 ≠ other.1.1 →
        ∀ name ∈ declaredNames exchange.1.2, name ∉ declaredNames other.1.2 := by
  intro ids document verifier run
  have distinct : ids.Nodup := by decide
  have sized : ∀ id ∈ ids, id.length = 8 := by decide
  have words : ∀ id ∈ ids, ∀ c ∈ id, Text.isWordChar c = true := by
    have all : ids.all (fun id => id.all Text.isWordChar) = true := by decide
    exact fun id member => List.all_eq_true.1 (List.all_eq_true.1 all id member)
  have names : Renaming.searchOrder document = ["t".toList] := by
    unfold Renaming.searchOrder
    rw [show declaredNames document = ["t".toList] by decide, List.mergeSort_singleton]
    decide
  refine ⟨distinct, sized, words, ?_,
    (performAll_apart "1257a9ce" distinct sized words _ verifier).2.1⟩
  show [(0, declaredNames (suffixNames (suffixOf "5e551d01") document)),
    (1, declaredNames (suffixNames (suffixOf "5e551d02") document))] = _
  unfold suffixNames
  rw [names]
  decide

end Desk
end ProofDesk
