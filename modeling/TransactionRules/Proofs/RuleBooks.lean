import Mathlib.Data.Finmap
import TransactionRules.Proofs.Outcome
import TransactionRules.Store.Rules

/-!
# Rule books

What the store of categories and rules comes to: two finite maps, one of categories and one of rules,
and the greatest id that was given in each. This file is the machine and its laws; that the store
works like it is shown elsewhere. A call that succeeds adds records under new ids, replaces one
record, or erases one, and leaves all others as they are (`RuleBook.Moves`); one that fails leaves
the whole book.
-/

namespace TransactionRules

/-- A rule as a caller writes it down: texts, a priority of at most 64 bits, a flag, and any category
object. -/
structure RuleDraft where
  name : String
  condition : String
  priority : Int
  customer : String
  active : Bool := true
  category : Option Category := none
  id : Option Int := none
  word : Cell.isWord priority = true := by decide

namespace RuleDraft

def rule (r : RuleDraft) : Rule where
  name := .text r.name
  condition := .text r.condition
  priority := .int r.priority
  customer := .text r.customer
  category := r.category
  active := .bool r.active
  id := r.id.elim .null .int

/-- The rule under an id. -/
def ruleAt (r : RuleDraft) (id : Int) : Rule := { r.rule with id := .int id }

/-- What the category object names its category by. -/
def reference (r : RuleDraft) : Except StoreError Cell :=
  match r.category with
  | none => .ok .null
  | some c =>
    if c.id.isNull then .error (.categoryUnsaved c.name (.text r.name)) else Cell.bind 6 c.id

end RuleDraft

/-- What is known of a rule; the category by its id alone. -/
structure RuleEntry where
  name : String
  condition : String
  priority : Int
  customer : String
  active : Bool
  category : Option Int

/-- The entry of a draft in a category. -/
def RuleDraft.entry (r : RuleDraft) (category : Option Int) : RuleEntry :=
  ⟨r.name, r.condition, r.priority, r.customer, r.active, category⟩

structure RuleBook where
  categories : Finmap fun _ : Int => CategoryRow := ∅
  rules : Finmap fun _ : Int => RuleEntry := ∅
  /-- The greatest ids that were given. -/
  lastCategory : Int := 0
  lastRule : Int := 0

namespace RuleBook

/-! ## Reading -/

def category? (b : RuleBook) (id : Int) : Option Category :=
  (b.categories.lookup id).map fun row => row.toCategory id

/-- A rule with the stored category in it. -/
def shown (b : RuleBook) (id : Int) (e : RuleEntry) : Rule where
  name := .text e.name
  condition := .text e.condition
  priority := .int e.priority
  customer := .text e.customer
  category := e.category.bind b.category?
  active := .bool e.active
  id := .int id

def rule? (b : RuleBook) (id : Int) : Option Rule := (b.rules.lookup id).map (b.shown id)

/-! ## Writing -/

/-- An id above all that were given. -/
def fresh (last : Int) : Except StoreError Int :=
  if last < Table.greatestId then .ok (last + 1) else .error .full

/-- An id of more than 64 bits is refused. -/
def word (id : Int) : Except StoreError Int :=
  if Cell.isWord id then .ok id else .error .tooLarge

/-- Whether a category has the name. -/
def Named (b : RuleBook) (name : String) : Prop :=
  ∃ id ∈ b.categories.keys, ∃ row ∈ b.categories.lookup id, row.name = name

instance (b : RuleBook) (name : String) : Decidable (b.Named name) :=
  inferInstanceAs (Decidable (∃ id ∈ b.categories.keys, ∃ row ∈ b.categories.lookup id, row.name = name))

def addCategory (b : RuleBook) (row : CategoryRow) : Except StoreError (RuleBook × Int) := do
  let id ← fresh b.lastCategory
  if b.Named row.name then .error (.notUnique "categories" "name")
  else .ok ({ b with categories := b.categories.insert id row, lastCategory := id }, id)

/-- The entry of a rule whose category is named by a cell; it has to name one that is there. -/
def entry (b : RuleBook) (r : RuleDraft) (reference : Cell) : Except StoreError RuleEntry :=
  match RuleRow.reference reference with
  | .error _ => .error (.categoryMissing r.category)
  | .ok category =>
    if ∀ id ∈ category, id ∈ b.categories then .ok (r.entry category)
    else .error (.categoryMissing r.category)

def addRule (b : RuleBook) (r : RuleDraft) : Except StoreError (RuleBook × Int) := do
  let reference ← r.reference
  let id ← fresh b.lastRule
  let e ← b.entry r reference
  return ({ b with rules := b.rules.insert id e, lastRule := id }, id)

def addRules (b : RuleBook) : List RuleDraft → Except StoreError (RuleBook × List Int)
  | [] => .ok (b, [])
  | r :: rest => do
    let (b, id) ← b.addRule r
    let (b, ids) ← b.addRules rest
    return (b, id :: ids)

def updateRule (b : RuleBook) (r : RuleDraft) : Except StoreError RuleBook :=
  match r.id with
  | none => .error .ruleUnsaved
  | some id => do
    let reference ← r.reference
    let id ← word id
    if id ∈ b.rules then
      return { b with rules := b.rules.insert id (← b.entry r reference) }
    else .error (.ruleMissing (.int id))

def setActive (b : RuleBook) (id : Int) (active : Bool) : Except StoreError RuleBook := do
  let id ← word id
  match b.rules.lookup id with
  | none => .error (.ruleMissing (.int id))
  | some e => return { b with rules := b.rules.insert id { e with active := active } }

def deleteRule (b : RuleBook) (id : Int) : Except StoreError RuleBook := do
  return { b with rules := b.rules.erase (← word id) }

/-! ## Calls -/

inductive Call where
  /-- A category is saved; the id that the object has does not matter. -/
  | category (row : CategoryRow) (id : Value)
  | rule (r : RuleDraft)
  | rules (rs : List RuleDraft)
  | update (r : RuleDraft)
  | setActive (id : Int) (active : Bool)
  | delete (id : Int)

inductive Answer where
  | category (c : Category)
  | saved (rs : List Rule)
  | updated (r : Rule)
  | switched (r : Option Rule)
  | deleted (wasThere : Bool)

/-- The book after a call that is not refused, and the answer. -/
def respond (b : RuleBook) : Call → Except StoreError (RuleBook × Answer)
  | .category row _ => (b.addCategory row).map fun (b', id) => (b', .category (row.toCategory id))
  | .rule r => (b.addRule r).map fun (b', id) => (b', .saved [r.ruleAt id])
  | .rules rs => (b.addRules rs).map fun (b', ids) => (b', .saved (rs.zipWith RuleDraft.ruleAt ids))
  | .update r => (b.updateRule r).map fun b' => (b', .updated r.rule)
  | .setActive id active => (b.setActive id active).map fun b' => (b', .switched (b'.rule? id))
  | .delete id => (b.deleteRule id).map fun b' => (b', .deleted (id ∈ b.rules))

/-- The book after an outcome: what is refused changes nothing. -/
def settle {α : Type} (b : RuleBook) : Except StoreError (RuleBook × α) → RuleBook × Except StoreError α
  | .error e => (b, .error e)
  | .ok (b', a) => (b', .ok a)

def call (b : RuleBook) (c : Call) : RuleBook × Except StoreError Answer := b.settle (b.respond c)

def callAll (b : RuleBook) : List Call → RuleBook × List (Except StoreError Answer)
  | [] => (b, [])
  | c :: rest =>
    let (b', answer) := b.call c
    let (b', answers) := b'.callAll rest
    (b', answer :: answers)

/-- The ids of categories that an answer gives out. -/
def categoryIds : Except StoreError Answer → List Value
  | .ok (.category c) => [c.id]
  | _ => []

/-- The ids of rules that an answer gives out. -/
def ruleIds : Except StoreError Answer → List Value
  | .ok (.saved rs) => rs.map (·.id)
  | _ => []

/-- The ids of the rules that a call is about: what it gave out, or the rule that it names; none if it
was refused. -/
def Call.ownRules (c : Call) (answer : Except StoreError Answer) : List Value :=
  match answer, c with
  | .error _, _ => []
  | .ok _, .update r => [r.rule.id]
  | .ok _, .setActive id _ => [.int id]
  | .ok _, .delete id => [.int id]
  | answer, _ => ruleIds answer

/-! ## What calls change -/

/-- Ids that were given one after the other, when the greatest id went from `last` to `last'`. -/
structure Ascends (last : Int) (ids : List Int) (last' : Int) : Prop where
  le : last ≤ last'
  sorted : ids.Pairwise (· < ·)
  between : ∀ id ∈ ids, last < id ∧ id ≤ last'

namespace Ascends

variable {last last' last'' id : Int} {ids ids' : List Int}

lemma nil (last : Int) : Ascends last [] last := ⟨le_rfl, .nil, by simp⟩

lemma single (h : last < id) : Ascends last [id] id :=
  ⟨h.le, List.pairwise_singleton _ _, by simpa using h⟩

lemma append (h : Ascends last ids last') (h' : Ascends last' ids' last'') :
    Ascends last (ids ++ ids') last'' where
  le := h.le.trans h'.le
  sorted := by
    refine List.pairwise_append.2 ⟨h.sorted, h'.sorted, fun id hid id' hid' => ?_⟩
    exact lt_of_le_of_lt (h.between id hid).2 (h'.between id' hid').1
  between := by
    intro id hid
    rcases List.mem_append.1 hid with hid | hid
    · exact ⟨(h.between id hid).1, (h.between id hid).2.trans h'.le⟩
    · exact ⟨lt_of_le_of_lt h.le (h'.between id hid).1, (h'.between id hid).2⟩

end Ascends

/-- The category of every rule is in the book, and no category has an id that was not given. -/
structure WellKept (b : RuleBook) : Prop where
  closed : ∀ id e, b.rules.lookup id = some e → ∀ k, e.category = some k → k ∈ b.categories
  given : ∀ id ∈ b.categories, id ≤ b.lastCategory

lemma wellKept_empty : ({} : RuleBook).WellKept :=
  ⟨fun _ _ h => (nomatch h), fun _ h => absurd h Finmap.notMem_empty⟩

/-- From one book to another new categories and rules came under new ids, categories stayed as they
were, and so did all rules but some. -/
structure Moves (b b' : RuleBook) (categories rules own : List Int) : Prop where
  kept : b'.WellKept
  categoryIds : Ascends b.lastCategory categories b'.lastCategory
  ruleIds : Ascends b.lastRule rules b'.lastRule
  categories : ∀ id ∉ categories, b'.categories.lookup id = b.categories.lookup id
  rules : ∀ id ∉ own, b'.rules.lookup id = b.rules.lookup id

variable {b b' b'' : RuleBook} {cs cs' rs rs' own own' : List Int} {id : Int} {e : RuleEntry}

lemma WellKept.moves (h : b.WellKept) : Moves b b [] [] [] :=
  ⟨h, .nil _, .nil _, fun _ _ => rfl, fun _ _ => rfl⟩

lemma Moves.trans (h : Moves b b' cs rs own) (h' : Moves b' b'' cs' rs' own') :
    Moves b b'' (cs ++ cs') (rs ++ rs') (own ++ own') where
  kept := h'.kept
  categoryIds := h.categoryIds.append h'.categoryIds
  ruleIds := h.ruleIds.append h'.ruleIds
  categories := by
    intro id hid
    obtain ⟨hcs, hcs'⟩ := not_or.1 (mt List.mem_append.2 hid)
    rw [h'.categories id hcs', h.categories id hcs]
  rules := by
    intro id hid
    obtain ⟨hown, hown'⟩ := not_or.1 (mt List.mem_append.2 hid)
    rw [h'.rules id hown', h.rules id hown]

/-- A category that was there is shown as before. -/
lemma Moves.category? (h : Moves b b' cs rs own) (hid : id ∉ cs) : b'.category? id = b.category? id := by
  rw [RuleBook.category?, h.categories id hid, RuleBook.category?]

/-- A rule that a move leaves is shown as before, its category included. -/
lemma Moves.rule? (h : Moves b b' cs rs own) (hb : b.WellKept) (hid : id ∉ own) :
    b'.rule? id = b.rule? id := by
  rw [RuleBook.rule?, h.rules id hid, RuleBook.rule?]
  cases he : b.rules.lookup id with
  | none => rfl
  | some e =>
    have hcategory : e.category.bind b'.category? = e.category.bind b.category? := by
      cases hk : e.category with
      | none => rfl
      | some k =>
        have hold : k ∉ cs := by
          intro hnew
          have hlt := (h.categoryIds.between k hnew).1
          have hle := hb.given k (hb.closed id e he k hk)
          omega
        exact h.category? hold
    simp [shown, hcategory]

/-! ### Single moves -/

lemma fresh_ok {last id : Int} (h : fresh last = .ok id) : last < id := by
  unfold fresh at h
  split_ifs at h
  cases h
  omega

lemma word_ok {id id' : Int} (h : word id = .ok id') : Cell.isWord id = true ∧ id = id' := by
  unfold word at h
  split_ifs at h with hword
  exact ⟨hword, Except.ok.inj h⟩

lemma entry_closed {r : RuleDraft} {reference : Cell} (h : b.entry r reference = .ok e) :
    ∀ k, e.category = some k → k ∈ b.categories := by
  unfold entry at h
  split at h
  · cases h
  · split_ifs at h with hthere
    cases h
    exact hthere

/-- Putting an entry under an id changes that rule only. -/
lemma WellKept.insert (h : b.WellKept) (id : Int) (e : RuleEntry)
    (hclosed : ∀ k, e.category = some k → k ∈ b.categories) : Moves b { b with rules := b.rules.insert id e } [] [] [id] where
  kept := by
    refine ⟨fun id' e' he' => ?_, h.given⟩
    rcases eq_or_ne id' id with rfl | hne
    · rw [Finmap.lookup_insert] at he'
      exact Option.some.inj he' ▸ hclosed
    · rw [Finmap.lookup_insert_of_ne _ hne] at he'
      exact h.closed id' e' he'
  categoryIds := .nil _
  ruleIds := .nil _
  categories _ _ := rfl
  rules id' hid' := Finmap.lookup_insert_of_ne _ (by simpa using hid')

lemma WellKept.erase (h : b.WellKept) (id : Int) :
    Moves b { b with rules := b.rules.erase id } [] [] [id] where
  kept := by
    refine ⟨fun id' e' he' => ?_, h.given⟩
    rcases eq_or_ne id' id with rfl | hne
    · rw [Finmap.lookup_erase] at he'
      cases he'
    · rw [Finmap.lookup_erase_ne hne] at he'
      exact h.closed id' e' he'
  categoryIds := .nil _
  ruleIds := .nil _
  categories _ _ := rfl
  rules id' hid' := Finmap.lookup_erase_ne (by simpa using hid')

/-- A category under a new id changes that category only. -/
lemma WellKept.insertCategory (h : b.WellKept) (hlt : b.lastCategory < id) (row : CategoryRow) :
    Moves b { b with categories := b.categories.insert id row, lastCategory := id } [id] [] [] where
  kept := by
    refine ⟨fun id' e he k hk => Finmap.mem_insert.2 (.inr (h.closed id' e he k hk)), ?_⟩
    intro id' hid'
    rcases Finmap.mem_insert.1 hid' with rfl | hold
    · exact le_rfl
    · exact (h.given id' hold).trans hlt.le
  categoryIds := .single hlt
  ruleIds := .nil _
  categories id' hid' := Finmap.lookup_insert_of_ne _ (by simpa using hid')
  rules _ _ := rfl

lemma WellKept.addCategory (h : b.WellKept) {row : CategoryRow}
    (hadd : b.addCategory row = .ok (b', id)) : Moves b b' [id] [] [] := by
  obtain ⟨id, hfresh, hadd⟩ := Outcome.bind_eq_ok.1 hadd
  split_ifs at hadd
  cases hadd
  exact h.insertCategory (fresh_ok hfresh) row

lemma WellKept.addRule (h : b.WellKept) {r : RuleDraft} (hadd : b.addRule r = .ok (b', id)) :
    Moves b b' [] [id] [id] := by
  obtain ⟨reference, -, hadd⟩ := Outcome.bind_eq_ok.1 hadd
  obtain ⟨id, hfresh, hadd⟩ := Outcome.bind_eq_ok.1 hadd
  obtain ⟨e, he, hadd⟩ := Outcome.bind_eq_ok.1 hadd
  cases hadd
  have hinsert := h.insert id e (entry_closed he)
  exact ⟨⟨hinsert.kept.closed, hinsert.kept.given⟩, .nil _, .single (fresh_ok hfresh),
    hinsert.categories, hinsert.rules⟩

lemma WellKept.addRules (h : b.WellKept) {rs : List RuleDraft} {ids : List Int}
    (hadd : b.addRules rs = .ok (b', ids)) :
    Moves b b' [] ids ids ∧ (rs.zipWith RuleDraft.ruleAt ids).map (·.id) = ids.map Value.int := by
  induction rs generalizing b ids with
  | nil =>
    cases hadd
    exact ⟨h.moves, rfl⟩
  | cons r rest ih =>
    obtain ⟨⟨b₁, id⟩, hfirst, hadd⟩ := Outcome.bind_eq_ok.1 hadd
    obtain ⟨⟨b₂, ids⟩, hrest, hadd⟩ := Outcome.bind_eq_ok.1 hadd
    cases hadd
    have hmove := h.addRule hfirst
    obtain ⟨hmoves, hids⟩ := ih hmove.kept hrest
    exact ⟨hmove.trans hmoves, by rw [List.zipWith_cons_cons, List.map_cons, hids]; rfl⟩

lemma WellKept.updateRule (h : b.WellKept) {r : RuleDraft} (hupdate : b.updateRule r = .ok b') :
    ∃ id, r.id = some id ∧ Moves b b' [] [] [id] := by
  unfold RuleBook.updateRule at hupdate
  split at hupdate
  · cases hupdate
  · next id hid =>
    refine ⟨id, hid, ?_⟩
    obtain ⟨reference, -, hupdate⟩ := Outcome.bind_eq_ok.1 hupdate
    obtain ⟨id', hword, hupdate⟩ := Outcome.bind_eq_ok.1 hupdate
    obtain ⟨-, rfl⟩ := word_ok hword
    split_ifs at hupdate
    obtain ⟨e, he, hupdate⟩ := Outcome.bind_eq_ok.1 hupdate
    cases hupdate
    exact h.insert id e (entry_closed he)

lemma isWord_of_setActive {active : Bool} (h : b.setActive id active = .ok b') :
    Cell.isWord id = true := by
  obtain ⟨_, hword, -⟩ := Outcome.bind_eq_ok.1 h
  exact (word_ok hword).1

lemma WellKept.setActive (h : b.WellKept) {active : Bool} (hswitch : b.setActive id active = .ok b') :
    Moves b b' [] [] [id] := by
  obtain ⟨id', hword, hswitch⟩ := Outcome.bind_eq_ok.1 hswitch
  obtain ⟨-, rfl⟩ := word_ok hword
  split at hswitch
  · cases hswitch
  · next e he =>
    cases hswitch
    exact h.insert id { e with active := active } (h.closed id e he)

lemma WellKept.deleteRule (h : b.WellKept) (hdelete : b.deleteRule id = .ok b') :
    Moves b b' [] [] [id] := by
  obtain ⟨id', hword, hdelete⟩ := Outcome.bind_eq_ok.1 hdelete
  obtain ⟨-, rfl⟩ := word_ok hword
  cases hdelete
  exact h.erase id

/-! ### Calls and runs -/

/-- A call moves the book by what its answer gives out and by the rule that it is about. -/
lemma WellKept.call (h : b.WellKept) (c : Call) :
    ∃ cs rs own, Moves b (b.call c).1 cs rs own ∧ categoryIds (b.call c).2 = cs.map Value.int ∧
      ruleIds (b.call c).2 = rs.map Value.int ∧ c.ownRules (b.call c).2 = own.map Value.int := by
  unfold RuleBook.call
  cases hc : b.respond c with
  | error e => exact ⟨[], [], [], h.moves, rfl, rfl, rfl⟩
  | ok outcome =>
    cases c with
    | category row id =>
      obtain ⟨⟨b', id⟩, hadd, rfl⟩ := Outcome.map_eq_ok.1 hc
      exact ⟨[id], [], [], h.addCategory hadd, rfl, rfl, rfl⟩
    | rule r =>
      obtain ⟨⟨b', id⟩, hadd, rfl⟩ := Outcome.map_eq_ok.1 hc
      exact ⟨[], [id], [id], h.addRule hadd, rfl, rfl, rfl⟩
    | rules rs =>
      obtain ⟨⟨b', ids⟩, hadd, rfl⟩ := Outcome.map_eq_ok.1 hc
      obtain ⟨hmoves, hids⟩ := h.addRules hadd
      exact ⟨[], ids, ids, hmoves, rfl, hids, hids⟩
    | update r =>
      obtain ⟨b', hupdate, rfl⟩ := Outcome.map_eq_ok.1 hc
      obtain ⟨id, hid, hmoves⟩ := h.updateRule hupdate
      exact ⟨[], [], [id], hmoves, rfl, rfl, by simp [settle, Call.ownRules, RuleDraft.rule, hid]⟩
    | setActive id active =>
      obtain ⟨b', hswitch, rfl⟩ := Outcome.map_eq_ok.1 hc
      exact ⟨[], [], [id], h.setActive hswitch, rfl, rfl, rfl⟩
    | delete id =>
      obtain ⟨b', hdelete, rfl⟩ := Outcome.map_eq_ok.1 hc
      exact ⟨[], [], [id], h.deleteRule hdelete, rfl, rfl, rfl⟩

/-- The ids that a run gives out ascend, and a book that it leaves is well kept. -/
theorem WellKept.callAll (h : b.WellKept) (calls : List Call) :
    ∃ cs rs own, Moves b (b.callAll calls).1 cs rs own ∧
      (b.callAll calls).2.flatMap categoryIds = cs.map Value.int ∧
      (b.callAll calls).2.flatMap ruleIds = rs.map Value.int := by
  induction calls generalizing b with
  | nil => exact ⟨[], [], [], h.moves, rfl, rfl⟩
  | cons c rest ih =>
    obtain ⟨cs, rs, own, hmove, hcs, hrs, -⟩ := h.call c
    obtain ⟨cs', rs', own', hmoves, hcs', hrs'⟩ := ih hmove.kept
    refine ⟨cs ++ cs', rs ++ rs', own ++ own', hmove.trans hmoves, ?_, ?_⟩
    · rw [List.map_append, ← hcs, ← hcs', RuleBook.callAll, List.flatMap_cons]
    · rw [List.map_append, ← hrs, ← hrs', RuleBook.callAll, List.flatMap_cons]

end RuleBook

end TransactionRules
