import TransactionRules.Proofs.Changes
import TransactionRules.Proofs.Outcome
import TransactionRules.Store.Rules
import TransactionRules.Store.Transactions

/-!
# Refused writes

Callers hold rules and transactions as objects, which get their ids from what they save
(`Desk.perform`). Each write is one change and hands ids out only when the change is carried out, so
a write that is refused leaves every table, with its greatest id, and every object as they were.
Switching a rule reads the rule after the change; what the change was carried out for, the read
does not refuse.
-/

namespace TransactionRules

/-! ## Switching a rule -/

lemma Cell.bind_position {position position' : Nat} {v : Value} {c : Cell}
    (h : Cell.bind position v = .ok c) : Cell.bind position' v = .ok c := by
  cases v <;> simp_all [Cell.bind]

namespace Change

/-- What is known once a rule was switched: it is there, and nothing else has changed. -/
lemma setActive_ok {id active : Value} {db after : Database}
    (h : (setActive id active).result db = (.ok (), after)) :
    db.created ∧ ∃ cell n row flag, Cell.bind 2 id = .ok cell ∧ cell.asId? = some n ∧
      db.rules.get? n = some row ∧
      after = { db with rules := db.rules.put n { row with active := flag } } := by
  unfold setActive flag at h
  cases hnumber : active.whole with
  | error e => simp [hnumber] at h
  | ok number =>
    by_cases hcreated : db.created
    · cases hflag : Cell.bind 1 (.int number) with
      | error e => simp [hnumber, hflag, Database.check, hcreated] at h
      | ok flag =>
        cases hcell : Cell.bind 2 id with
        | error e => simp [hnumber, hflag, hcell, Database.check, hcreated] at h
        | ok cell =>
          simp only [hnumber, hflag, hcell, Database.check, hcreated, result_bind, result_pure,
            result_get, result_ofExcept, if_true] at h
          split at h
          · cases h
          · next n row hfound =>
            obtain ⟨m, hm, hrow⟩ := Option.bind_eq_some_iff.1 hfound
            obtain ⟨row', hrow', heq⟩ := Option.map_eq_some_iff.1 hrow
            cases heq
            cases h
            exact ⟨hcreated, cell, n, row, flag, rfl, hm, hrow', rfl⟩
    · simp [hnumber, Database.check, hcreated] at h

end Change

namespace Store

variable {α β : Type} {s : Store}

/-- A write that is refused, whatever its result is turned into, leaves the database as it was. -/
lemma database_of_write_map_error {act : Change α} {f : α → β} {e : StoreError}
    (h : (s.write act).2.map f = .error e) : (s.write act).1.database = s.database := by
  cases hwrite : s.write act with
  | mk s' result =>
    cases result with
    | ok a =>
      rw [hwrite] at h
      cases h
    | error e' => exact database_of_write_error hwrite

/-- Once a rule was switched, it can be read. -/
lemma rule?_of_setActive {s' : Store} {id active : Value}
    (h : s.write (Change.setActive id active) = (s', .ok ())) :
    ∃ r, (s'.rule? id).2 = .ok (some r) := by
  obtain ⟨sound, hresult⟩ := write_ok h
  obtain ⟨hcreated, cell, n, row, flag, hcell, hn, -, hafter⟩ := Change.setActive_ok hresult
  refine ⟨RuleRow.toRule s'.database n { row with active := flag }, ?_⟩
  rw [rule?, read_of_sound sound, hafter]
  simp [Database.check, hcreated, Cell.bind_position hcell, hn]

lemma database_of_updateRule_error {r : Rule} {e : StoreError}
    (h : (s.updateRule r).2 = .error e) : (s.updateRule r).1.database = s.database := by
  unfold updateRule at h ⊢
  split_ifs at h ⊢
  · rfl
  · exact database_of_write_map_error h

lemma database_of_setActive_error {id active : Value} {e : StoreError}
    (h : (s.setActive id active).2 = .error e) : (s.setActive id active).1.database = s.database := by
  unfold setActive at h ⊢
  split at h
  · next hwrite => exact database_of_write_error hwrite
  · next hwrite =>
    obtain ⟨r, hr⟩ := rule?_of_setActive hwrite
    rw [hr] at h
    cases h

lemma saveTransaction_error {pool : Pool} {position : Nat} {e : StoreError}
    (h : (s.saveTransaction pool position).2.2 = .error e) :
    (s.saveTransaction pool position).1.database = s.database ∧
      (s.saveTransaction pool position).2.1 = pool := by
  unfold saveTransaction at h ⊢
  split at h
  · cases h
  · next hwrite => exact ⟨database_of_write_error hwrite, rfl⟩

lemma saveTransactions_error {pool : Pool} {batch : List Nat} {e : StoreError}
    (h : (s.saveTransactions pool batch).2.2 = .error e) :
    (s.saveTransactions pool batch).1.database = s.database ∧
      (s.saveTransactions pool batch).2.1 = pool := by
  unfold saveTransactions at h ⊢
  split at h
  · cases h
  · next hwrite => exact ⟨database_of_write_error hwrite, rfl⟩

end Store

/-! ## Objects and the store -/

/-- A store, and the rules and transactions that its callers hold, by position. -/
structure Desk where
  store : Store
  rules : List Rule
  pool : Pool

/-- A write that a caller asks for. -/
inductive Write where
  | category (c : Category)
  | rule (position : Nat)
  | rules (positions : List Nat)
  | update (position : Nat)
  | setActive (id active : Value)
  | transaction (position : Nat)
  | transactions (positions : List Nat)

namespace Desk

def rule (d : Desk) (position : Nat) : Rule := d.rules.getD position default

/-- Gives the object at a position its id. -/
def nameRule (rules : List Rule) (position : Nat) (id : Value) : List Rule :=
  rules.modify position fun r => { r with id := id }

/-- The desk after a rule write of the store. -/
def afterRules {α : Type} (d : Desk) (outcome : Store × Except StoreError α)
    (named : α → List (Nat × Value)) : Desk × Except StoreError Unit :=
  match outcome with
  | (s, .error e) => ({ d with store := s }, .error e)
  | (s, .ok a) =>
    let rules := (named a).foldl (fun rules (position, id) => nameRule rules position id) d.rules
    ({ d with store := s, rules := rules }, .ok ())

/-- The desk after a write of the store that carries the pool along. -/
def afterPool (d : Desk) (outcome : Store × Pool × Except StoreError Unit) :
    Desk × Except StoreError Unit :=
  ({ d with store := outcome.1, pool := outcome.2.1 }, outcome.2.2)

/-- The desk after a write, and whether the write was refused. -/
def perform (d : Desk) : Write → Desk × Except StoreError Unit
  | .category c => d.afterRules (d.store.saveCategory c) fun _ => []
  | .rule position =>
    d.afterRules (d.store.saveRule (d.rule position)) fun saved => [(position, saved.id)]
  | .rules positions =>
    d.afterRules (d.store.saveRules (positions.map d.rule)) fun saved =>
      positions.zip (saved.map (·.id))
  | .update position => d.afterRules (d.store.updateRule (d.rule position)) fun _ => []
  | .setActive id active => d.afterRules (d.store.setActive id active) fun _ => []
  | .transaction position => d.afterPool (d.store.saveTransaction d.pool position)
  | .transactions positions => d.afterPool (d.store.saveTransactions d.pool positions)

/-- Whether two desks have the same rows, greatest ids and objects, the ids of the objects included. -/
def Same (d d' : Desk) : Prop :=
  d'.store.database = d.store.database ∧ d'.rules = d.rules ∧ d'.pool = d.pool

variable {d : Desk} {e : StoreError}

lemma same_afterRules {α : Type} {outcome : Store × Except StoreError α}
    {named : α → List (Nat × Value)} (h : (d.afterRules outcome named).2 = .error e)
    (kept : ∀ {e}, outcome.2 = .error e → outcome.1.database = d.store.database) :
    d.Same (d.afterRules outcome named).1 := by
  unfold afterRules at h ⊢
  split at h
  · exact ⟨kept rfl, rfl, rfl⟩
  · cases h

/-- A write that is refused leaves every table, with its greatest id, and every object as they were. -/
theorem same_perform (w : Write) (h : (d.perform w).2 = .error e) : d.Same (d.perform w).1 := by
  cases w with
  | category c => exact same_afterRules h Store.database_of_write_map_error
  | rule position => exact same_afterRules h Store.database_of_write_map_error
  | rules positions => exact same_afterRules h Store.database_of_write_map_error
  | update position => exact same_afterRules h Store.database_of_updateRule_error
  | setActive id active => exact same_afterRules h Store.database_of_setActive_error
  | transaction position =>
    obtain ⟨hdatabase, hpool⟩ := Store.saveTransaction_error h
    exact ⟨hdatabase, rfl, hpool⟩
  | transactions positions =>
    obtain ⟨hdatabase, hpool⟩ := Store.saveTransactions_error h
    exact ⟨hdatabase, rfl, hpool⟩

/-- The first rule of a batch is added before the second is refused, and is not kept. -/
theorem same_perform_unsaved_category :
    let fits : Rule :=
      { name := .text "a", condition := .text "amount > 1", priority := .int 0, customer := .text "c" }
    let unsaved : Rule := { fits with category := some ⟨.text "food", .text "", .null⟩ }
    let d : Desk :=
      { store := { path := "store.db", database := { created := true } }, rules := [fits, unsaved],
        pool := [] }
    (d.perform (.rules [0])).1.store.database.rules.last = 1 ∧
      (d.perform (.rules [0, 1])).2 = .error (.categoryUnsaved (.text "food") (.text "a")) ∧
      d.Same (d.perform (.rules [0, 1])).1 :=
  ⟨rfl, rfl, same_perform _ rfl⟩

end Desk

end TransactionRules
