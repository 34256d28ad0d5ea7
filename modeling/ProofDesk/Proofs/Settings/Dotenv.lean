import Mathlib.Data.List.Nodup
import ProofDesk.Proofs.Dialogue
import ProofDesk.Proofs.Settings.Assignment

/-!
# Environment files merged

Of the lines that assign one variable the last counts, and a variable with a text in it keeps it. A
variable whose value is no text counts as empty, so what the file assigns to it takes the place of the
value. And a variable that the system cannot set ends the program.

* `Dotenv.Merges` — an environment with a file merged into it. There is only one such environment
  (`Merges.unique`).
* `Merges.keeps_iff` — all variables that are not empty are kept if and only if the file assigns none
  whose value is no text.
* `Lists` — the variables of a file in some order, each once; `lists_entries` for the list that is
  made of a file.
* `merges_fill` and `fill_fails_iff` — they may be set one after the other in every such order.
* `filterMap_lines_of_writes` — a file that is written from variables and values is read back.
* `load_merges` — **the file of a directory is merged.**
* `not_load_keeps` — a value that is no text is overridden, and a null character is the end.
-/

namespace ProofDesk
namespace Dotenv

open Environment (Value)

variable {line key name value content : Text} {environment merged merged' : Environment}
  {listed listed' : List (Text × Text)}

/-! ### The last line counts -/

/-- **The last line that assigns the variable** gives it the value. -/
def LastAssigns (all : List Text) (name value : Text) : Prop :=
  ∃ front line behind, all = front ++ line :: behind ∧ Assigns line name value ∧
    ∀ later ∈ behind, ∀ other, ¬ Assigns later name other

/-- **The environment with a file merged into it**: a variable with a text keeps it, any other one that
the file assigns has what the last line says, and the others stay as they are. -/
structure Merges (content : Text) (environment merged : Environment) : Prop where
  kept : ∀ {name}, environment.text name ≠ [] → merged name = environment name
  last : ∀ {name value}, environment.text name = [] → LastAssigns (Text.lines content) name value →
    merged name = some (.text value)
  others : ∀ {name}, environment.text name = [] →
    (∀ line ∈ Text.lines content, ∀ value, ¬ Assigns line name value) → merged name = environment name

/-- Some line is the last to assign a variable that is assigned at all. -/
theorem exists_lastAssigns {all : List Text} (member : line ∈ all) (here : Assigns line name value) :
    ∃ final, LastAssigns all name final := by
  induction all using List.reverseRecOn generalizing line value with
  | nil => cases member
  | append_singleton front final ih =>
    by_cases ends : ∃ other, Assigns final name other
    · obtain ⟨other, assigns⟩ := ends
      exact ⟨other, front, final, [], rfl, assigns, nofun⟩
    · rcases List.mem_append.1 member with before | same
      · obtain ⟨other, front', line', behind, rfl, assigns, later⟩ := ih before here
        refine ⟨other, front', line', behind ++ [final], by simp, assigns, ?_⟩
        intro late member other' assigned
        rcases List.mem_append.1 member with within | same
        · exact later late within other' assigned
        · exact ends ⟨other', List.mem_singleton.1 same ▸ assigned⟩
      · exact absurd ⟨value, List.mem_singleton.1 same ▸ here⟩ ends

/-- **There is one merged environment.** -/
theorem Merges.unique (first : Merges content environment merged)
    (second : Merges content environment merged') : merged = merged' := by
  funext name
  by_cases open' : environment.text name = []
  · by_cases assigned : ∃ line ∈ Text.lines content, ∃ value, Assigns line name value
    · obtain ⟨line, member, value, here⟩ := assigned
      obtain ⟨final, last⟩ := exists_lastAssigns member here
      rw [first.last open' last, second.last open' last]
    · have never : ∀ line ∈ Text.lines content, ∀ value, ¬ Assigns line name value :=
        fun line member value here => assigned ⟨line, member, value, here⟩
      rw [first.others open' never, second.others open' never]
  · rw [first.kept open', second.kept open']

/-- **What is not empty is kept** if and only if the file assigns no variable whose value is no text. -/
theorem Merges.keeps_iff (merges : Merges content environment merged) :
    (∀ name value, environment name = some value → value ≠ .text [] → merged name = some value) ↔
      ∀ name bytes invalid, environment name = some (.raw bytes invalid) →
        ∀ line ∈ Text.lines content, ∀ value, ¬ Assigns line name value := by
  have open_of_raw : ∀ {name bytes invalid}, environment name = some (.raw bytes invalid) →
      environment.text name = [] := by
    intro name bytes invalid raw
    rw [Environment.text, raw]
    rfl
  constructor
  · intro keeps name bytes invalid raw line member value here
    obtain ⟨final, last⟩ := exists_lastAssigns member here
    have given := merges.last (open_of_raw raw) last
    rw [keeps name _ raw nofun] at given
    cases given
  · intro untouched name value here solid
    cases value with
    | raw bytes invalid =>
      rw [merges.others (open_of_raw here) (untouched name bytes invalid here), here]
    | text value =>
      rw [merges.kept, here]
      rw [Environment.text, here]
      exact fun empty => solid (congrArg Value.text empty)

/-! ### The last assignment to each variable -/

theorem lastOfEach_cons (first : Text × Text) (rest : List (Text × Text)) :
    lastOfEach (first :: rest) =
      if first.1 ∈ rest.map Prod.fst then lastOfEach rest else first :: lastOfEach rest := by
  simp only [lastOfEach, List.contains_iff_mem]

theorem mem_lastOfEach {all : List (Text × Text)} : (name, value) ∈ lastOfEach all ↔
    ∃ front behind, all = front ++ (name, value) :: behind ∧ name ∉ behind.map Prod.fst := by
  induction all with
  | nil => simp [lastOfEach]
  | cons first rest ih =>
    rw [lastOfEach_cons]
    have later : (∃ front behind, rest = front ++ (name, value) :: behind ∧ name ∉ behind.map Prod.fst) →
        ∃ front behind, first :: rest = front ++ (name, value) :: behind ∧
          name ∉ behind.map Prod.fst := by
      rintro ⟨front, behind, rfl, last⟩
      exact ⟨first :: front, behind, rfl, last⟩
    split
    · next again =>
      refine ih.trans ⟨later, ?_⟩
      rintro ⟨front, behind, whole, last⟩
      cases front with
      | nil =>
        obtain ⟨rfl, rfl⟩ := List.cons.inj whole
        exact absurd again last
      | cons _ front =>
        obtain ⟨rfl, rfl⟩ := List.cons.inj whole
        exact ⟨front, behind, rfl, last⟩
    · next last =>
      rw [List.mem_cons, ih]
      constructor
      · rintro (rfl | within)
        · exact ⟨[], rest, rfl, last⟩
        · exact later within
      · rintro ⟨front, behind, whole, last⟩
        cases front with
        | nil => exact .inl (List.cons.inj whole).1.symm
        | cons _ front => exact .inr ⟨front, behind, (List.cons.inj whole).2, last⟩

theorem lastOfEach_subset (all : List (Text × Text)) : lastOfEach all ⊆ all := by
  rintro ⟨name, value⟩ member
  obtain ⟨front, behind, rfl, -⟩ := mem_lastOfEach.1 member
  simp

theorem nodup_lastOfEach (all : List (Text × Text)) : ((lastOfEach all).map Prod.fst).Nodup := by
  induction all with
  | nil => exact List.nodup_nil
  | cons first rest ih =>
    rw [lastOfEach_cons]
    split
    · exact ih
    · next last =>
      exact List.nodup_cons.2 ⟨fun member => last (List.map_subset _ (lastOfEach_subset rest) member), ih⟩

/-- What assigns no variable twice stays as it is. -/
theorem lastOfEach_eq_self {all : List (Text × Text)} (distinct : (all.map Prod.fst).Nodup) :
    lastOfEach all = all := by
  induction all with
  | nil => rfl
  | cons first rest ih =>
    obtain ⟨last, distinct⟩ := List.nodup_cons.1 distinct
    rw [lastOfEach_cons, if_neg last, ih distinct]

/-! ### The variables of a file -/

/-- **The list has the last value of each variable** that the file assigns and that has no text yet, in
some order. -/
structure Lists (content : Text) (environment : Environment) (listed : List (Text × Text)) : Prop where
  distinct : (listed.map Prod.fst).Nodup
  complete : ∀ name value, (name, value) ∈ listed ↔
    environment.text name = [] ∧ LastAssigns (Text.lines content) name value

theorem Lists.perm (lists : Lists content environment listed) (same : listed.Perm listed') :
    Lists content environment listed' where
  distinct := (same.map Prod.fst).nodup lists.distinct
  complete name value := same.mem_iff.symm.trans (lists.complete name value)

theorem mem_assignments : (name, value) ∈ assignments environment content ↔
    environment.text name = [] ∧ ∃ line ∈ Text.lines content, Assigns line name value := by
  simp only [assignments, List.mem_filter, List.mem_filterMap, assignment?_eq_some, decide_eq_true_eq]
  exact and_comm

theorem mem_entries_of_lastAssigns (open' : environment.text name = [])
    (last : LastAssigns (Text.lines content) name value) : (name, value) ∈ entries environment content := by
  obtain ⟨front, line, behind, cut, here, later⟩ := last
  refine mem_lastOfEach.2 ⟨(front.filterMap assignment?).filter fun assignment =>
    environment.text assignment.1 = [], (behind.filterMap assignment?).filter fun assignment =>
      environment.text assignment.1 = [], ?_, fun member => ?_⟩
  · unfold assignments
    rw [cut, List.filterMap_append, List.filterMap_cons_some (assignment?_eq_some.2 here),
      List.filter_append, List.filter_cons_of_pos (by simpa using open')]
  · obtain ⟨⟨_, other⟩, inside, rfl⟩ := List.mem_map.1 member
    obtain ⟨late, within, assigned⟩ := List.mem_filterMap.1 (List.mem_filter.1 inside).1
    exact later late within other (assignment?_eq_some.1 assigned)

/-- **The list that is made of a file** has its variables in the order of the lines that count. -/
theorem lists_entries (content : Text) (environment : Environment) :
    Lists content environment (entries environment content) where
  distinct := nodup_lastOfEach _
  complete name value := by
    refine ⟨fun member => ?_, fun ⟨open', last⟩ => mem_entries_of_lastAssigns open' last⟩
    obtain ⟨open', line, inside, here⟩ := mem_assignments.1 (lastOfEach_subset _ member)
    obtain ⟨final, last⟩ := exists_lastAssigns inside here
    have same := List.inj_on_of_nodup_map (nodup_lastOfEach _) member
      (mem_entries_of_lastAssigns open' last) rfl
    cases same
    exact ⟨open', last⟩

/-! ### Variables set one after the other -/

theorem text_set_of_ne (other : name ≠ key) (value : Text) :
    (environment.set key value).text name = environment.text name := by
  rw [Environment.text, Environment.set, if_neg other]
  rfl

/-- A variable that has a text, or is not listed, stays as it is. -/
theorem fill_of_kept (filled : fill listed environment = .ok merged)
    (kept : environment.text name ≠ [] ∨ name ∉ listed.map Prod.fst) : merged name = environment name := by
  induction listed generalizing environment with
  | nil =>
    cases filled
    rfl
  | cons first rest ih =>
    obtain ⟨key, value⟩ := first
    have later : environment.text name ≠ [] ∨ name ∉ rest.map Prod.fst :=
      kept.imp_right fun never member => never (List.mem_cons_of_mem _ member)
    unfold fill at filled
    split at filled
    · exact ih filled later
    · next open' =>
      have other : name ≠ key := by
        rintro rfl
        exact kept.elim open' fun never => never List.mem_cons_self
      split at filled
      · rw [ih filled (later.imp_left fun held => by rwa [text_set_of_ne other])]
        exact if_neg other
      · cases filled

/-- **A listed variable** can be set, and has its value in the end. -/
theorem fill_of_mem (distinct : (listed.map Prod.fst).Nodup)
    (filled : fill listed environment = .ok merged) (member : (name, value) ∈ listed)
    (open' : environment.text name = []) :
    isSettable name value = true ∧ merged name = some (.text value) := by
  induction listed generalizing environment with
  | nil => cases member
  | cons first rest ih =>
    obtain ⟨key, given⟩ := first
    obtain ⟨once, distinct⟩ := List.nodup_cons.1 distinct
    unfold fill at filled
    rcases List.mem_cons.1 member with same | within
    · cases same
      rw [if_neg (not_not_intro open')] at filled
      split at filled
      · next settable =>
        refine ⟨settable, ?_⟩
        rw [fill_of_kept filled (.inr once)]
        exact if_pos rfl
      · cases filled
    · have other : name ≠ key := by
        rintro rfl
        exact once (List.mem_map.2 ⟨_, within, rfl⟩)
      split at filled
      · exact ih distinct filled within open'
      · split at filled
        · exact ih distinct filled within (by rwa [text_set_of_ne other])
        · cases filled

theorem refused_of_fill {refused : Unsettable} (failed : fill listed environment = .error refused) :
    (refused.name, refused.value) ∈ listed ∧ environment.text refused.name = [] ∧
      isSettable refused.name refused.value = false := by
  induction listed generalizing environment with
  | nil => cases failed
  | cons first rest ih =>
    obtain ⟨key, value⟩ := first
    unfold fill at failed
    split at failed
    · obtain ⟨member, rest⟩ := ih failed
      exact ⟨List.mem_cons_of_mem _ member, rest⟩
    · next open' =>
      split at failed
      · obtain ⟨member, now, unsettable⟩ := ih failed
        refine ⟨List.mem_cons_of_mem _ member, ?_, unsettable⟩
        by_cases same : refused.name = key
        · rw [same]
          exact not_not.1 open'
        · rwa [text_set_of_ne same] at now
      · next unsettable =>
        cases failed
        exact ⟨List.mem_cons_self, not_not.1 open', Bool.eq_false_iff.2 unsettable⟩

/-- **The file assigns what cannot be set**: the last value of some variable without a text. -/
def Refuses (content : Text) (environment : Environment) : Prop :=
  ∃ name value, environment.text name = [] ∧ LastAssigns (Text.lines content) name value ∧
    isSettable name value = false

section Lists

variable (lists : Lists content environment listed)

include lists

/-- **The order does not matter** in which the variables of a file are set. -/
theorem merges_fill (filled : fill listed environment = .ok merged) :
    Merges content environment merged where
  kept held := fill_of_kept filled (.inl held)
  last open' last :=
    (fill_of_mem lists.distinct filled ((lists.complete _ _).2 ⟨open', last⟩) open').2
  others _ never := by
    refine fill_of_kept filled (.inr fun member => ?_)
    obtain ⟨⟨name, value⟩, inside, rfl⟩ := List.mem_map.1 member
    obtain ⟨-, front, line, behind, cut, here, -⟩ := (lists.complete _ value).1 inside
    exact never line (by simp [cut]) value here

/-- **It fails** when the file assigns what cannot be set, in whatever order. -/
theorem fill_fails_iff :
    (∃ refused, fill listed environment = .error refused) ↔ Refuses content environment := by
  constructor
  · rintro ⟨refused, failed⟩
    obtain ⟨member, -, unsettable⟩ := refused_of_fill failed
    obtain ⟨open', last⟩ := (lists.complete _ _).1 member
    exact ⟨_, _, open', last, unsettable⟩
  · rintro ⟨name, value, open', last, unsettable⟩
    cases filled : fill listed environment with
    | error refused => exact ⟨refused, rfl⟩
    | ok merged =>
      have settable := (fill_of_mem lists.distinct filled ((lists.complete _ _).2 ⟨open', last⟩) open').1
      rw [settable] at unsettable
      cases unsettable

/-- In any two orders the same comes of it. -/
theorem toOption_fill_congr (lists' : Lists content environment listed') :
    (fill listed environment).toOption = (fill listed' environment).toOption := by
  cases filled : fill listed environment with
  | error refused =>
    obtain ⟨refused', failed⟩ := (fill_fails_iff lists').2 ((fill_fails_iff lists).1 ⟨refused, filled⟩)
    rw [failed]
    rfl
  | ok merged =>
    cases filled' : fill listed' environment with
    | error refused' =>
      obtain ⟨refused, failed⟩ := (fill_fails_iff lists).2 ((fill_fails_iff lists').1 ⟨refused', filled'⟩)
      rw [failed] at filled
      cases filled
    | ok merged' => rw [(merges_fill lists filled).unique (merges_fill lists' filled')]

end Lists

/-- A file without a null character assigns nothing that cannot be set. -/
theorem not_refuses (clear : '\x00' ∉ content) : ¬ Refuses content environment := by
  rintro ⟨name, value, -, ⟨front, line, behind, cut, here, -⟩, unsettable⟩
  obtain ⟨n, found⟩ := List.mem_iff_getElem?.1 (show line ∈ Text.lines content by simp [cut])
  obtain ⟨earlier, later, -, whole, -⟩ := Text.exists_around_line found
  have inside : line <:+: content := ⟨earlier, later, by rw [whole, List.append_assoc]⟩
  obtain ⟨first, second⟩ := infix_of_assigns here
  rw [isSettable, decide_eq_false_iff_not] at unsettable
  exact unsettable ⟨fun member => clear ((first.trans inside).subset member),
    fun member => clear ((second.trans inside).subset member)⟩

/-! ### Written files -/

/-- **The file is written from the variables and values**: a line for each variable, with or without a
line feed behind the last one. -/
structure Writes (pairs : List (Text × Text)) (content : Text) : Prop where
  names : ∀ pair ∈ pairs, IsName pair.1
  single : ∀ pair ∈ pairs, '\n' ∉ pair.2
  distinct : (pairs.map Prod.fst).Nodup
  written : ∃ ending : Text, (ending = [] ∨ ending = ['\n']) ∧
    content = Text.joinLines (pairs.map writtenLine) ++ ending

/-- **A written file is read back.** -/
theorem filterMap_lines_of_writes {pairs : List (Text × Text)} (writes : Writes pairs content) :
    (Text.lines content).filterMap assignment? = pairs := by
  have lines : (Text.lines (Text.joinLines (pairs.map writtenLine))).filterMap assignment? = pairs := by
    by_cases empty : pairs = []
    · rw [empty]
      rfl
    · have single : ∀ line ∈ pairs.map writtenLine, '\n' ∉ line := by
        intro line member
        obtain ⟨pair, inside, rfl⟩ := List.mem_map.1 member
        simp [writtenLine, (writes.names pair inside).single, writes.single pair inside]
      rw [Text.lines_joinLines (by simpa using empty) single, List.filterMap_map]
      calc pairs.filterMap (assignment? ∘ writtenLine) = pairs.filterMap some :=
            List.filterMap_congr fun pair inside =>
              assignment?_eq_some.2 (assigns_writtenLine (writes.names pair inside) pair.2)
        _ = pairs := List.filterMap_some
  obtain ⟨ending, rfl | rfl, rfl⟩ := writes.written
  · rwa [List.append_nil]
  · rw [Text.lines_append_newline, List.filterMap_append, lines]
    exact List.append_nil pairs

theorem entries_of_writes {pairs : List (Text × Text)} (writes : Writes pairs content)
    (absent : ∀ pair ∈ pairs, environment.text pair.1 = []) : entries environment content = pairs := by
  have all : assignments environment content = pairs := by
    rw [assignments, filterMap_lines_of_writes writes, List.filter_eq_self]
    exact fun pair inside => decide_eq_true (absent pair inside)
  rw [entries, all, lastOfEach_eq_self writes.distinct]

/-- **A written file gives its variables their values** in an environment without them. -/
theorem fill_of_writes {pairs : List (Text × Text)} (writes : Writes pairs content)
    (absent : ∀ pair ∈ pairs, environment.text pair.1 = []) (filled : fill pairs environment = .ok merged)
    (name : Text) : merged name = ((pairs.lookup name).map Value.text).or (environment name) := by
  cases found : pairs.lookup name with
  | none =>
    refine fill_of_kept filled (.inr fun member => ?_)
    obtain ⟨pair, inside, rfl⟩ := List.mem_map.1 member
    exact absurd rfl (bne_iff_ne.1 (List.lookup_eq_none_iff.1 found pair inside))
  | some value =>
    obtain ⟨front, behind, rfl, -⟩ := List.lookup_eq_some_iff.1 found
    have member : (name, value) ∈ front ++ (name, value) :: behind := by simp
    exact (fill_of_mem writes.distinct filled member (absent _ member)).2

/-! ### Files of directories -/

/-- **What comes of loading a file**: it fails for a variable that cannot be set, which takes a null
character. Else the file is merged, in whatever order its variables are set, and every variable that is
not empty keeps its value unless the value is no text and the file assigns the variable. A file that is
written from variables and values adds them to an environment without them. -/
structure Loads (content : Text) (environment : Environment)
    (ended : Except Unsettable Environment) : Prop where
  fails : (∃ refused, ended = .error refused) ↔ Refuses content environment
  clear : '\x00' ∉ content → ∃ loaded, ended = .ok loaded
  merges : ∀ loaded, ended = .ok loaded → Merges content environment loaded
  keeps : ∀ loaded, ended = .ok loaded →
    ((∀ name value, environment name = some value → value ≠ .text [] → loaded name = some value) ↔
      ∀ name bytes invalid, environment name = some (.raw bytes invalid) →
        ∀ line ∈ Text.lines content, ∀ value, ¬ Assigns line name value)
  listed : ∃ listed, Lists content environment listed
  order : ∀ listed, Lists content environment listed →
    (fill listed environment).toOption = ended.toOption
  written : ∀ pairs, Writes pairs content → (∀ pair ∈ pairs, environment.text pair.1 = []) →
    ((∃ loaded, ended = .ok loaded ∧
        ∀ name, loaded name = ((pairs.lookup name).map Value.text).or (environment name)) ↔
      ∀ pair ∈ pairs, isSettable pair.1 pair.2 = true)

/-- A readable file is loaded by setting what is made of its content. -/
theorem heldWith_load {directory : Text} {respondent : Dialogue.Respondent Host.Query Host.Query.Answer}
    (readable : respondent [] (.read (pathIn directory)) = .ok content) :
    ((load directory environment).heldWith respondent []).1 =
      fill (entries environment content) environment := by
  unfold load Host.readFile Dialogue.question
  rw [Dialogue.bind_ask, Dialogue.heldWith_ask, readable]
  rfl

/-- **An environment file is merged** into whatever environment. -/
theorem load_merges (directory : Text) (environment : Environment)
    (respondent : Dialogue.Respondent Host.Query Host.Query.Answer) (content : Text)
    (readable : respondent [] (.read (pathIn directory)) = .ok content) :
    Loads content environment ((load directory environment).heldWith respondent []).1 := by
  rw [heldWith_load readable]
  have lists := lists_entries content environment
  have returns : ¬ Refuses content environment →
      ∃ loaded, fill (entries environment content) environment = .ok loaded := by
    intro accepted
    cases filled : fill (entries environment content) environment with
    | error refused => exact absurd ((fill_fails_iff lists).1 ⟨refused, filled⟩) accepted
    | ok loaded => exact ⟨loaded, rfl⟩
  refine ⟨fill_fails_iff lists, fun clear => returns (not_refuses clear),
    fun loaded filled => merges_fill lists filled,
    fun loaded filled => (merges_fill lists filled).keeps_iff, ⟨_, lists⟩,
    fun listed other => toOption_fill_congr other lists, fun pairs writes absent => ?_⟩
  have all := entries_of_writes writes absent
  constructor
  · rintro ⟨loaded, filled, -⟩ pair inside
    rw [all] at filled
    exact (fill_of_mem writes.distinct filled inside (absent pair inside)).1
  · intro settable
    have accepted : ¬ Refuses content environment := by
      rintro ⟨name, value, open', last, unsettable⟩
      have member := (lists.complete name value).2 ⟨open', last⟩
      rw [all] at member
      rw [settable _ member] at unsettable
      cases unsettable
    obtain ⟨loaded, filled⟩ := returns accepted
    exact ⟨loaded, filled, fill_of_writes writes absent (all ▸ filled)⟩

/-- A directory whose environment file has this content. -/
def holding (content : Text) : Dialogue.Respondent Host.Query Host.Query.Answer
  | _, .read _ => .ok content
  | _, .resolve path => .ok path
  | _, .present _ => true
  | _, .write _ _ => .error (.unopened .permissionDenied)
  | _, .makeDirectory _ => .error .permissionDenied
  | _, .isDirectory _ => false
  | _, .homeDirectory => none
  | _, .makeTemporary _ _ => .error (.unopened .permissionDenied)
  | _, .removeTemporary _ => ()
  | _, .run _ _ => .timedOut
  | _, .send _ => none
  | _, .freshId => []

/-- An environment with one variable that is a text, and one that is not. -/
def mixed : Environment := fun name =>
  if name = "SET".toList then some (.text "5")
  else if name = "RAW".toList then some (.raw [0xFF] (by decide))
  else none

/-- What comes of a file with this content there. -/
def loadedFrom (content : Text) : Except Unsettable Environment :=
  ((load "d" mixed).heldWith (holding content) []).1

/-- A file that assigns the variable, and another one twice. -/
def twice : Text := "SET=9\nexport KEY = \"a\"\n KEY='b c'\r\n#KEY=d"

/-- A file written from two variables. -/
def written : Text := "A B=\"it's\"\nC=\"\"quoted\"\"\n"

/-- The variable keeps its value, the other one has the last of its two, and written values are read
back with the quotes that they hold, in either order. -/
theorem load_merges_twice :
    (∃ loaded, loadedFrom twice = .ok loaded ∧ loaded "SET" = some (.text "5") ∧
      loaded "KEY" = some (.text "b c") ∧ loaded "RAW" = mixed "RAW") ∧
    (∃ loaded, loadedFrom written = .ok loaded ∧ loaded "A B" = some (.text "it's") ∧
      loaded "C" = some (.text "\"quoted\"") ∧ loaded "SET" = some (.text "5") ∧
      fill [("C", "\"quoted\""), ("A B", "it's")] mixed = .ok loaded) := by
  constructor
  · have loads := load_merges "d" mixed (holding twice) twice rfl
    have last : LastAssigns (Text.lines twice) "KEY" "b c" := by
      refine ⟨["SET=9", "export KEY = \"a\""], " KEY='b c'\r", ["#KEY=d"], by decide,
        assignment?_eq_some.1 (by decide), fun later member other assigns => ?_⟩
      obtain rfl := List.mem_singleton.1 member
      exact absurd (assignment?_eq_some.2 assigns) (by rw [show assignment? _ = none by decide]; nofun)
    obtain ⟨loaded, ended⟩ := loads.clear (by decide)
    have merges := loads.merges loaded ended
    refine ⟨loaded, ended, merges.kept (by decide), merges.last rfl last,
      merges.others rfl fun line member value assigns => ?_⟩
    have never : ∀ line ∈ Text.lines twice, ∀ pair ∈ assignment? line, pair.1 ≠ "RAW".toList := by decide
    exact never line member _ (assignment?_eq_some.2 assigns) rfl
  · have loads := load_merges "d" mixed (holding written) written rfl
    have writes : Writes [("A B", "it's"), ("C", "\"quoted\"")] written :=
      ⟨by decide, by decide, by decide, ['\n'], .inr rfl, by decide⟩
    obtain ⟨loaded, ended, adds⟩ := (loads.written _ writes (by decide)).2 (by decide)
    have lists : Lists written mixed [("C", "\"quoted\""), ("A B", "it's")] := by
      refine (lists_entries written mixed).perm ?_
      rw [entries_of_writes writes (by decide)]
      exact .swap ..
    have swapped := loads.order _ lists
    rw [ended] at swapped
    cases filled : fill [("C", "\"quoted\""), ("A B", "it's")] mixed with
    | error refused =>
      rw [filled] at swapped
      cases swapped
    | ok other =>
      rw [filled] at swapped
      cases swapped
      exact ⟨loaded, ended, adds "A B", adds "C", adds "SET", rfl⟩

/-- **A variable may lose its value** that is no text, and a null character in a written value ends the
program. -/
theorem not_load_keeps :
    (¬ ∀ (environment : Environment) (content : Text), '\x00' ∉ content → ∀ loaded,
      ((load "d" environment).heldWith (holding content) []).1 = .ok loaded →
        ∀ name value, environment name = some value → value ≠ .text [] → loaded name = some value) ∧
    ¬ ∀ (environment : Environment) (pairs : List (Text × Text)) (content : Text), Writes pairs content →
      (∀ pair ∈ pairs, environment pair.1 = none) →
        ∃ loaded, ((load "d" environment).heldWith (holding content) []).1 = .ok loaded ∧
          ∀ name, loaded name = ((pairs.lookup name).map Value.text).or (environment name) := by
  constructor
  · intro keeps
    have ended : ((load "d" mixed).heldWith (holding "RAW=1") []).1 = .ok (mixed.set "RAW" "1") := by
      rw [heldWith_load rfl, show entries mixed "RAW=1" = [(("RAW" : Text), ("1" : Text))] by decide]
      rfl
    have kept := keeps mixed "RAW=1" (by decide) _ ended "RAW" (.raw [0xFF] (by decide)) rfl nofun
    cases kept
  · intro adds
    have writes : Writes [("K", "a\x00b")] "K=\"a\x00b\"" :=
      ⟨by decide, by decide, by decide, [], .inl rfl, by decide⟩
    obtain ⟨loaded, ended, -⟩ := adds (fun _ => none) _ _ writes (by decide)
    rw [heldWith_load rfl, entries_of_writes writes (by decide)] at ended
    cases ended

end Dotenv
end ProofDesk
