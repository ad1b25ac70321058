import TransactionRules.Proofs.Changes
import TransactionRules.Proofs.RuleBooks

/-!
# Stored rules as a rule book

The tables of categories and rules hold what a rule book holds under the same ids
(`Database.Agrees`). Each change of the tables takes agreeing tables to tables that agree with the
changed book, or both refuse for the same reason (`Simulates`), so the answers of any calls are those
of the book.
-/

namespace TransactionRules

open RuleBook (Call Answer)

/-! ## Tables -/

namespace Table

variable {α : Type} {t : Table α} {id : Int} {a : α}

lemma get?_eq_some_iff : t.get? id = some a ↔ (id, a) ∈ t.rows := by
  have hkeys : ∀ rows : List (Int × α), rows.Pairwise (·.1 < ·.1) →
      (rows.lookup id = some a ↔ (id, a) ∈ rows) := by
    intro rows hrows
    induction rows with
    | nil => simp
    | cons r rest ih =>
      obtain ⟨hr, hrest⟩ := List.pairwise_cons.1 hrows
      obtain ⟨key, b⟩ := r
      rw [List.lookup_cons, List.mem_cons]
      rcases eq_or_ne id key with rfl | hne
      · have hlater : (id, a) ∉ rest := fun hmem => lt_irrefl id (hr _ hmem)
        simp [hlater, eq_comm]
      · simp [beq_false_of_ne hne, hne, ih hrest]
  exact hkeys t.rows t.ordered

lemma le_last_of_get? (h : t.get? id = some a) : id ≤ t.last := t.bounded _ (get?_eq_some_iff.1 h)

lemma fresh?_eq (t : Table α) : RuleBook.fresh t.last = t.fresh?.elim (.error .full) .ok := by
  unfold RuleBook.fresh fresh?
  split_ifs <;> rfl

end Table

/-! ## Agreement -/

/-- The row of an entry. -/
def RuleEntry.row (e : RuleEntry) : RuleRow where
  name := e.name
  condition := e.condition
  priority := .int e.priority
  active := .int (if e.active then 1 else 0)
  customer := e.customer
  category := e.category

lemma RuleRow.reference_error {c : Cell} {e : StoreError} (h : reference c = .error e) :
    e = .foreignKey := by
  unfold reference at h
  split at h
  · cases h
  · split at h <;> cases h
    rfl

/-- The tables hold what the book holds, and the book is well kept. -/
structure Database.Agrees (db : Database) (b : RuleBook) : Prop where
  created : db.created = true
  categories : ∀ id, db.categories.get? id = b.categories.lookup id
  lastCategory : db.categories.last = b.lastCategory
  rules : ∀ id, db.rules.get? id = (b.rules.lookup id).map RuleEntry.row
  lastRule : db.rules.last = b.lastRule
  kept : b.WellKept

/-- A change of the tables comes to a change of the book. -/
def Simulates {α : Type} (outcome : Except StoreError α × Database)
    (step : Except StoreError (RuleBook × α)) : Prop :=
  match step with
  | .error e => outcome.1 = .error e
  | .ok (b, a) => outcome.1 = .ok a ∧ outcome.2.Agrees b

/-- Changes one after the other come to steps one after the other. -/
lemma Simulates.bind {α β : Type} {db : Database} {act : Change α} {next : α → Change β}
    {step : Except StoreError (RuleBook × α)}
    {nextStep : RuleBook × α → Except StoreError (RuleBook × β)}
    (hact : Simulates (act.result db) step)
    (hnext : ∀ db done, Database.Agrees db done.1 →
      Simulates ((next done.2).result db) (nextStep done)) :
    Simulates ((act >>= next).result db) (step >>= nextStep) := by
  rw [Change.result_bind]
  rcases hresult : act.result db with ⟨outcome, after⟩
  rw [hresult] at hact
  cases step with
  | error e =>
    obtain rfl : outcome = .error e := hact
    rfl
  | ok done =>
    obtain ⟨rfl, hagrees⟩ : outcome = .ok done.2 ∧ after.Agrees done.1 := hact
    exact hnext after done hagrees

namespace Database.Agrees

variable {db : Database} {b : RuleBook}

lemma contains_category (h : db.Agrees b) (id : Int) :
    db.categories.contains id = decide (id ∈ b.categories) := by
  rw [Table.contains, h.categories, Bool.eq_iff_iff, decide_eq_true_iff, Finmap.lookup_isSome]

lemma contains_rule (h : db.Agrees b) (id : Int) :
    db.rules.contains id = decide (id ∈ b.rules) := by
  rw [Table.contains, h.rules, Option.isSome_map, Bool.eq_iff_iff, decide_eq_true_iff,
    Finmap.lookup_isSome]

/-- A rule that a statement names is found where the book has it. -/
lemma filter_contains_rule (h : db.Agrees b) (id : Int) :
    (some id).filter db.rules.contains = if id ∈ b.rules then some id else none := by
  simp [Option.filter, h.contains_rule]

lemma le_lastRule (h : db.Agrees b) {id : Int} {e : RuleEntry} (he : b.rules.lookup id = some e) :
    id ≤ b.lastRule := by
  have hget : db.rules.get? id = some e.row := (h.rules id).trans (congrArg _ he)
  exact h.lastRule ▸ Table.le_last_of_get? hget

lemma check (h : db.Agrees b) (table : String) : db.check table = .ok () := if_pos h.created

/-- A name is taken in the table if it is in the book. -/
lemma hasName (h : db.Agrees b) {name : String} {id : Int} (hid : b.lastCategory < id) :
    db.hasName name id = decide (b.Named name) := by
  rw [Database.hasName, Bool.eq_iff_iff, decide_eq_true_iff, List.any_eq_true]
  constructor
  · rintro ⟨⟨other, row⟩, hmem, hrow⟩
    have hlookup := (h.categories other).symm.trans (Table.get?_eq_some_iff.2 hmem)
    refine ⟨other, ?_, row, hlookup, by simpa using (Bool.and_eq_true_iff.1 hrow).2⟩
    exact Finmap.mem_keys.2 (Finmap.mem_of_lookup_eq_some hlookup)
  · rintro ⟨other, -, row, hlookup, rfl⟩
    have hget := (h.categories other).trans hlookup
    have hle := Table.le_last_of_get? hget
    rw [h.lastCategory] at hle
    have hne : other ≠ id := by omega
    exact ⟨(other, row), Table.get?_eq_some_iff.1 hget, by simp [hne]⟩

/-- Rows are shown as the book shows its entries. -/
lemma toRule (h : db.Agrees b) {id : Int} {e : RuleEntry} (he : b.rules.lookup id = some e) :
    e.row.toRule db id = b.shown id e := by
  have hcategory : (e.row.toRule db id).category = (b.shown id e).category := by
    cases hk : e.category with
    | none => simp [RuleRow.toRule, RuleEntry.row, RuleBook.shown, hk]
    | some k =>
      obtain ⟨row, hrow⟩ := Finmap.mem_iff.1 (h.kept.closed id e he k hk)
      simp [RuleRow.toRule, RuleEntry.row, RuleBook.shown, RuleBook.category?, hk, h.categories, hrow]
  have hactive : (e.row.active).holds = e.active := by
    cases ha : e.active <;> simp [RuleEntry.row, Cell.holds, Cell.toValue, Value.truthy, ha]
  rw [RuleRow.toRule, RuleBook.shown, Rule.mk.injEq]
  exact ⟨rfl, rfl, rfl, rfl, hcategory, congrArg Value.bool hactive, rfl⟩

lemma hasReference (h : db.Agrees b) (k : Option Int) :
    db.hasReference k = decide (∀ id ∈ k, id ∈ b.categories) := by
  cases k with
  | none => rfl
  | some id => simp [Database.hasReference, h.contains_category]

/-- A row that the table takes, where the book takes the entry. -/
lemma entry_ok (h : db.Agrees b) {r : RuleDraft} {c : Cell} {e : RuleEntry}
    (he : b.entry r c = .ok e) :
    ∃ k, RuleRow.reference c = .ok k ∧ e = r.entry k ∧
      ∀ id, db.putRule id e.row = .ok { db with rules := db.rules.put id e.row } := by
  unfold RuleBook.entry at he
  split at he
  · cases he
  · next k hk =>
    split_ifs at he with hthere
    cases he
    exact ⟨k, hk, rfl, fun id => if_pos ((h.hasReference k).trans (decide_eq_true hthere))⟩

/-- A constraint that is not kept, where the book does not take the entry. -/
lemma entry_error (h : db.Agrees b) {r : RuleDraft} {c : Cell} {e : StoreError}
    (he : b.entry r c = .error e) :
    e = .categoryMissing r.category ∧ (RuleRow.reference c = .error .foreignKey ∨
      ∃ k, RuleRow.reference c = .ok k ∧ ∀ id, db.putRule id (r.entry k).row = .error .foreignKey) := by
  unfold RuleBook.entry at he
  split at he
  · next e' he' =>
    cases he
    exact ⟨rfl, .inl (RuleRow.reference_error he' ▸ he')⟩
  · next k hk =>
    split_ifs at he with hthere
    cases he
    refine ⟨rfl, .inr ⟨k, hk, fun id => if_neg ?_⟩⟩
    rw [h.hasReference, decide_eq_true_iff]
    exact hthere

/-! ### Agreeing after a change -/

lemma putCategory (h : db.Agrees b) {id : Int} (hlt : b.lastCategory < id) (row : CategoryRow) :
    ({ db with categories := db.categories.put id row } : Database).Agrees
      { b with categories := b.categories.insert id row, lastCategory := id } where
  created := h.created
  categories id' := by
    rcases eq_or_ne id' id with rfl | hne
    · rw [Table.get?_put_self, Finmap.lookup_insert]
    · rw [Table.get?_put_of_ne _ _ hne, h.categories, Finmap.lookup_insert_of_ne _ hne]
  lastCategory := by
    rw [← h.lastCategory] at hlt
    exact max_eq_right hlt.le
  rules := h.rules
  lastRule := h.lastRule
  kept := (h.kept.insertCategory hlt row).kept

/-- Tables that got a row, and a book that got its entry under the same id. -/
lemma putRule (h : db.Agrees b) {id last : Int} {e : RuleEntry}
    (hclosed : ∀ k, e.category = some k → k ∈ b.categories) (hlast : last = max b.lastRule id) :
    ({ db with rules := db.rules.put id e.row } : Database).Agrees
      { b with rules := b.rules.insert id e, lastRule := last } where
  created := h.created
  categories := h.categories
  lastCategory := h.lastCategory
  rules id' := by
    rcases eq_or_ne id' id with rfl | hne
    · rw [Table.get?_put_self, Finmap.lookup_insert, Option.map_some]
    · rw [Table.get?_put_of_ne _ _ hne, h.rules, Finmap.lookup_insert_of_ne _ hne]
  lastRule := by rw [hlast, ← h.lastRule]; rfl
  kept := ⟨(h.kept.insert id e hclosed).kept.closed, h.kept.given⟩

lemma eraseRule (h : db.Agrees b) (id : Int) :
    ({ db with rules := db.rules.erase id } : Database).Agrees
      { b with rules := b.rules.erase id } where
  created := h.created
  categories := h.categories
  lastCategory := h.lastCategory
  rules id' := by
    rcases eq_or_ne id' id with rfl | hne
    · rw [Table.get?_erase_self, Finmap.lookup_erase, Option.map_none]
    · rw [Table.get?_erase_of_ne _ hne, h.rules, Finmap.lookup_erase_ne hne]
  lastRule := h.lastRule
  kept := (h.kept.erase id).kept

end Database.Agrees

/-! ## Changes -/

namespace RuleDraft

/-- The reference of a draft is the one of the rule that it writes, as a cell. -/
lemma reference_eq (r : RuleDraft) : r.reference = r.rule.reference >>= Cell.bind 6 := by
  unfold reference Rule.reference
  cases hcategory : r.category with
  | none => simp [rule, hcategory, Cell.bind]
  | some c => by_cases hnull : c.id.isNull <;> simp [rule, hcategory, hnull]

end RuleDraft

namespace Change

@[simp] lemma result_flag (active : Bool) (db : Database) :
    (flag (.bool active)).result db = (.ok (.int (if active then 1 else 0)), db) := rfl

lemma result_bindRule (r : RuleDraft) (reference : Value) (db : Database) :
    (bindRule r.rule (.int (if r.active then 1 else 0)) reference).result db =
      ((Cell.bind 6 reference).map fun c => (RuleRow.reference c).map fun k => (r.entry k).row, db) := by
  have hpriority : Cell.bind 3 r.rule.priority = .ok (.int r.priority) := if_pos r.word
  have hactive : Cell.bind 4 (.int (if r.active then 1 else 0)) =
      .ok (.int (if r.active then 1 else 0)) := by
    cases r.active <;> rfl
  simp only [bindRule, result_bind, result_ofExcept, hpriority, hactive]
  cases hc : Cell.bind 6 reference with
  | error e => simp [RuleDraft.rule, Cell.bind]
  | ok c =>
    simp only [RuleDraft.rule, Cell.bind, RuleRow.ofCells, required, requiredNumber, Cell.asText?_text,
      Outcome.ok_bind, Outcome.ok_map, result_pure]
    cases RuleRow.reference c <;> rfl

lemma result_blaming_ok {α : Type} (r : Rule) (a : α) (db : Database) :
    (blaming r (.ok a)).result db = (.ok a, db) := rfl

lemma result_blaming_foreignKey {α : Type} (r : Rule) (db : Database) :
    (blaming r (.error .foreignKey : Except StoreError α)).result db =
      (.error (.categoryMissing r.category), db) := rfl

variable {db : Database} {b : RuleBook}

/-- An unsaved category is refused first, then a cell that does not fit, then the lack of an id, and a
category that is not there last. -/
lemma simulates_insertRule (h : db.Agrees b) (r : RuleDraft) :
    Simulates ((insertRule r.rule).result db) (b.addRule r) := by
  have hactive : r.rule.active = .bool r.active := rfl
  unfold insertRule RuleBook.addRule
  rw [r.reference_eq, ← h.lastRule, Table.fresh?_eq]
  simp only [hactive, result_bind, result_flag, result_ofExcept, result_get]
  cases hv : r.rule.reference with
  | error e => simp [Simulates]
  | ok v =>
    simp only [h.check, result_bindRule, Outcome.ok_bind]
    cases hc : Cell.bind 6 v with
    | error e => simp [Simulates]
    | ok c =>
      dsimp only [Outcome.ok_map]
      cases hfresh : db.rules.fresh? with
      | none => rfl
      | some id =>
        cases he : b.entry r c with
        | error e =>
          obtain ⟨rfl, hk | ⟨k, hk, hput⟩⟩ := h.entry_error he
          · simp [Simulates, he, hk, result_blaming_foreignKey, RuleDraft.rule]
          · simp [Simulates, he, hk, hput, result_blaming_ok, result_blaming_foreignKey, RuleDraft.rule]
        | ok e =>
          obtain ⟨k, hk, rfl, hput⟩ := h.entry_ok he
          have hlt : b.lastRule < id :=
            RuleBook.fresh_ok (by rw [← h.lastRule, Table.fresh?_eq, hfresh]; rfl)
          have hagrees := h.putRule (RuleBook.entry_closed he) (max_eq_right hlt.le).symm
          simpa [Simulates, he, hk, hput, result_blaming_ok] using hagrees

/-- Rules are added one after the other. -/
lemma simulates_insertRules (h : db.Agrees b) (rs : List RuleDraft) :
    Simulates (((rs.map RuleDraft.rule).mapM insertRule).result db) (b.addRules rs) := by
  induction rs generalizing db b with
  | nil => exact ⟨rfl, h⟩
  | cons r rest ih =>
    rw [List.map_cons, List.mapM_cons]
    exact (simulates_insertRule h r).bind fun _ _ hfirst =>
      (ih hfirst).bind fun _ _ hrest => ⟨rfl, hrest⟩

/-- The cells are made before the rule is looked for, and its category is looked for last. -/
lemma simulates_updateRule (h : db.Agrees b) {r : RuleDraft} {id : Int} (hid : r.id = some id) :
    Simulates ((updateRule r.rule).result db) ((b.updateRule r).map fun b' => (b', ())) := by
  have hactive : r.rule.active = .bool r.active := rfl
  have hrule : r.rule.id = .int id := by simp [RuleDraft.rule, hid]
  unfold updateRule RuleBook.updateRule
  rw [r.reference_eq, hid, hrule]
  simp only [hactive, result_bind, result_flag, result_ofExcept, result_get]
  cases hv : r.rule.reference with
  | error e => simp [Simulates]
  | ok v =>
    simp only [h.check, result_bindRule, Outcome.ok_bind]
    cases hc : Cell.bind 6 v with
    | error e => simp [Simulates]
    | ok c =>
      by_cases hword : Cell.isWord id
      · simp only [Cell.bind, RuleBook.word, hword, if_true, Outcome.ok_map, Outcome.ok_bind,
          Cell.asId?_int]
        rw [h.filter_contains_rule]
        by_cases hthere : id ∈ b.rules
        · obtain ⟨old, hold⟩ := Finmap.mem_iff.1 hthere
          rw [if_pos hthere, if_pos hthere]
          cases he : b.entry r c with
          | error e =>
            obtain ⟨rfl, hk | ⟨k, hk, hput⟩⟩ := h.entry_error he
            · simp [Simulates, hk, result_blaming_foreignKey, RuleDraft.rule]
            · simp [Simulates, hk, hput, result_blaming_ok, result_blaming_foreignKey, RuleDraft.rule]
          | ok e =>
            obtain ⟨k, hk, rfl, hput⟩ := h.entry_ok he
            have hagrees := h.putRule (RuleBook.entry_closed he) (max_eq_left (h.le_lastRule hold)).symm
            simpa [Simulates, hk, hput, result_blaming_ok] using hagrees
        · rw [if_neg hthere, if_neg hthere]
          rfl
      · simp [Simulates, Cell.bind, RuleBook.word, hword]

lemma simulates_setActive (h : db.Agrees b) (id : Int) (active : Bool) :
    Simulates ((setActive (.int id) (.bool active)).result db)
      ((b.setActive id active).map fun b' => (b', ())) := by
  have hactive : Cell.bind 1 (.int (if active then 1 else 0)) = .ok (.int (if active then 1 else 0)) := by
    cases active <;> rfl
  unfold setActive RuleBook.setActive
  simp only [result_bind, result_flag, result_ofExcept, result_get, h.check, hactive]
  by_cases hword : Cell.isWord id
  · simp only [Cell.bind, RuleBook.word, hword, if_true, Outcome.ok_bind, Cell.asId?_int]
    cases he : b.rules.lookup id with
    | none =>
      have hmissing : ((some id).bind fun id => (db.rules.get? id).map (id, ·)) = none := by
        simp [h.rules, he]
      rw [hmissing]
      rfl
    | some e =>
      have hfound : ((some id).bind fun id => (db.rules.get? id).map (id, ·)) = some (id, e.row) := by
        simp [h.rules, he]
      have hclosed : ∀ k, ({ e with active := active } : RuleEntry).category = some k →
          k ∈ b.categories := h.kept.closed id e he
      rw [hfound]
      exact ⟨rfl, h.putRule hclosed (max_eq_left (h.le_lastRule he)).symm⟩
  · simp [Simulates, Cell.bind, RuleBook.word, hword]

lemma simulates_deleteRule (h : db.Agrees b) (id : Int) :
    Simulates ((deleteRule (.int id)).result db)
      ((b.deleteRule id).map fun b' => (b', decide (id ∈ b.rules))) := by
  unfold deleteRule RuleBook.deleteRule
  simp only [result_bind, result_ofExcept, result_get, h.check]
  by_cases hword : Cell.isWord id
  · simp only [Cell.bind, RuleBook.word, hword, if_true, Outcome.ok_bind, Cell.asId?_int]
    rw [h.filter_contains_rule]
    by_cases hthere : id ∈ b.rules
    · rw [if_pos hthere]
      exact ⟨by simp [hthere], h.eraseRule id⟩
    · -- the book erases nothing where it has nothing
      have hsame : b.rules.erase id = b.rules := by
        refine Finmap.ext_lookup fun other => ?_
        rcases eq_or_ne other id with rfl | hne
        · rw [Finmap.lookup_erase, Finmap.lookup_eq_none.2 hthere]
        · exact Finmap.lookup_erase_ne hne
      rw [if_neg hthere, hsame]
      exact ⟨by simp [hthere], h⟩
  · simp [Simulates, Cell.bind, RuleBook.word, hword]

lemma simulates_insertCategory (h : db.Agrees b) (row : CategoryRow) (id : Value) :
    Simulates ((insertCategory ⟨.text row.name, .text row.description, id⟩).result db)
      (b.addCategory row) := by
  unfold insertCategory RuleBook.addCategory
  rw [← h.lastCategory, Table.fresh?_eq]
  simp only [result_bind, result_ofExcept, result_get, h.check, Cell.bind]
  cases hfresh : db.categories.fresh? with
  | none => rfl
  | some id =>
    have hlt : b.lastCategory < id :=
      RuleBook.fresh_ok (by rw [← h.lastCategory, Table.fresh?_eq, hfresh]; rfl)
    simp only [Option.elim_some, Outcome.ok_bind]
    by_cases hnamed : b.Named row.name
    · have hput : db.putCategory id row = .error (.notUnique "categories" "name") := by
        rw [Database.putCategory, h.hasName hlt, if_pos (decide_eq_true hnamed)]
      simp [Simulates, CategoryRow.ofCells, required, hput, hnamed]
    · have hput : db.putCategory id row = .ok { db with categories := db.categories.put id row } := by
        rw [Database.putCategory, h.hasName hlt, if_neg (by simpa using hnamed)]
      simpa [Simulates, CategoryRow.ofCells, required, hput, hnamed] using h.putCategory hlt row

end Change

/-! ## Calls -/

namespace Store

/-- A call of the store's categories and rules. -/
def call (s : Store) : Call → Store × Except StoreError Answer
  | .category row old =>
    (s.saveCategory ⟨.text row.name, .text row.description, old⟩).map id (Except.map .category)
  | .rule r => (s.saveRule r.rule).map id (Except.map fun saved => .saved [saved])
  | .rules rs => (s.saveRules (rs.map RuleDraft.rule)).map id (Except.map .saved)
  | .update r => (s.updateRule r.rule).map id (Except.map .updated)
  | .setActive rule active =>
    (s.setActive (.int rule) (.bool active)).map id (Except.map .switched)
  | .delete rule => (s.deleteRule (.int rule)).map id (Except.map .deleted)

def callAll (s : Store) : List Call → Store × List (Except StoreError Answer)
  | [] => (s, [])
  | c :: rest =>
    let (s', answer) := s.call c
    let (s', answers) := s'.callAll rest
    (s', answer :: answers)

/-- A store that works, whose tables hold what the book holds. -/
structure Agrees (s : Store) (b : RuleBook) : Prop where
  sound : s.defect = none
  database : s.database.Agrees b

variable {s : Store} {b : RuleBook}

namespace Agrees

/-- A write of the store comes to what its change comes to. -/
lemma write {α : Type} (h : s.Agrees b) {act : Change α} {step : Except StoreError (RuleBook × α)}
    (hsimulates : Simulates (act.result s.database) step) :
    (s.write act).1.Agrees (b.settle step).1 ∧ (s.write act).2 = (b.settle step).2 := by
  rw [write_of_sound h.sound, Change.result_atomically]
  rcases hresult : act.result s.database with ⟨outcome, after⟩
  rw [hresult] at hsimulates
  cases step with
  | error e =>
    obtain rfl : outcome = .error e := hsimulates
    exact ⟨⟨h.sound, h.database⟩, rfl⟩
  | ok step =>
    obtain ⟨rfl, hagrees⟩ : outcome = .ok step.2 ∧ after.Agrees step.1 := hsimulates
    exact ⟨⟨h.sound, hagrees⟩, rfl⟩

/-- A call that is one change answers as the book does. -/
lemma call_of_write {α : Type} (h : s.Agrees b) {c : Call} {act : Change α}
    {step : Except StoreError (RuleBook × α)} (f : α → Answer)
    (hstore : s.call c = (s.write act).map id (Except.map f))
    (hbook : b.respond c = step.map fun p => (p.1, f p.2))
    (hsimulates : Simulates (act.result s.database) step) :
    (s.call c).1.Agrees (b.call c).1 ∧ (s.call c).2 = (b.call c).2 := by
  obtain ⟨hagrees, hanswer⟩ := h.write hsimulates
  rw [hstore, RuleBook.call, hbook]
  cases step with
  | error e => exact ⟨hagrees, congrArg (Except.map f) hanswer⟩
  | ok step => exact ⟨hagrees, congrArg (Except.map f) hanswer⟩

lemma read {α : Type} (h : s.Agrees b) (query : Database → Except StoreError α) :
    (s.read query).1.Agrees b ∧ (s.read query).2 = query s.database := by
  rw [read_of_sound h.sound]
  exact ⟨⟨h.sound, h.database⟩, rfl⟩

lemma rule? (h : s.Agrees b) (id : Int) :
    (s.rule? (.int id)).1.Agrees b ∧
      (s.rule? (.int id)).2 = if Cell.isWord id then .ok (b.rule? id) else .error .tooLarge := by
  rw [Store.rule?]
  refine ⟨(h.read _).1, (h.read _).2.trans ?_⟩
  rw [h.database.check]
  by_cases hword : Cell.isWord id
  · simp only [Cell.bind, hword, if_true, Outcome.ok_bind, Cell.asId?_int]
    cases he : b.rules.lookup id with
    | none => simp [h.database.rules, he, RuleBook.rule?]
    | some e => simp [h.database.rules, he, RuleBook.rule?, h.database.toRule he]
  · simp [Cell.bind, hword]

lemma category? (h : s.Agrees b) (id : Int) :
    (s.category? (.int id)).2 = if Cell.isWord id then .ok (b.category? id) else .error .tooLarge := by
  rw [Store.category?, (h.read _).2, h.database.check]
  by_cases hword : Cell.isWord id
  · simp only [Cell.bind, hword, if_true, Outcome.ok_bind, Cell.asId?_int]
    cases hrow : b.categories.lookup id with
    | none => simp [h.database.categories, hrow, RuleBook.category?]
    | some row => simp [h.database.categories, hrow, RuleBook.category?]
  · simp [Cell.bind, hword]

/-- A call of the store answers as the book does, and both agree again. -/
lemma call (h : s.Agrees b) (c : Call) :
    (s.call c).1.Agrees (b.call c).1 ∧ (s.call c).2 = (b.call c).2 := by
  cases c with
  | category row old =>
    refine h.call_of_write (fun id => .category (row.toCategory id)) ?_ rfl
      (Change.simulates_insertCategory h.database row old)
    rw [Store.call, saveCategory]
    rcases s.write (Change.insertCategory _) with ⟨_, _ | _⟩ <;> rfl
  | rule r =>
    refine h.call_of_write (fun id => .saved [r.ruleAt id]) ?_ rfl
      (Change.simulates_insertRule h.database r)
    rw [Store.call, saveRule]
    rcases s.write (Change.insertRule _) with ⟨_, _ | _⟩ <;> rfl
  | rules rs =>
    refine h.call_of_write (fun ids => .saved (rs.zipWith RuleDraft.ruleAt ids)) ?_ rfl
      (Change.simulates_insertRules h.database rs)
    rw [Store.call, saveRules]
    rcases s.write (List.mapM _ _) with ⟨_, _ | ids⟩
    · rfl
    · simp only [List.zipWith_map_left]
      rfl
  | update r =>
    cases hid : r.id with
    | none =>
      rw [Store.call, updateRule, RuleBook.call, RuleBook.respond, RuleBook.updateRule, hid]
      simp only [RuleDraft.rule, hid]
      exact ⟨h, rfl⟩
    | some id =>
      refine h.call_of_write (fun _ => .updated r.rule) ?_ ?_
        (Change.simulates_updateRule h.database hid)
      · rw [Store.call, updateRule, if_neg (by simp [RuleDraft.rule, hid, Value.isNull])]
        rcases s.write (Change.updateRule _) with ⟨_, _ | _⟩ <;> rfl
      · rw [RuleBook.respond]
        cases b.updateRule r <;> rfl
  | setActive id active =>
    obtain ⟨hagrees, hanswer⟩ := h.write (Change.simulates_setActive h.database id active)
    rw [Store.call, setActive, RuleBook.call, RuleBook.respond]
    generalize s.write (Change.setActive (.int id) (.bool active)) = written at hagrees hanswer ⊢
    obtain ⟨s', outcome⟩ := written
    cases hswitch : b.setActive id active with
    | error e =>
      rw [hswitch] at hagrees hanswer
      obtain rfl : outcome = .error e := hanswer
      exact ⟨hagrees, rfl⟩
    | ok b' =>
      rw [hswitch] at hagrees hanswer
      obtain rfl : outcome = .ok () := hanswer
      obtain ⟨hread, hrule⟩ := hagrees.rule? id
      refine ⟨hread, (congrArg (Except.map Answer.switched) hrule).trans ?_⟩
      rw [if_pos (RuleBook.isWord_of_setActive hswitch)]
      rfl
  | delete id =>
    refine h.call_of_write .deleted rfl ?_ (Change.simulates_deleteRule h.database id)
    rw [RuleBook.respond]
    cases b.deleteRule id <;> rfl

lemma callAll (h : s.Agrees b) (calls : List Call) :
    (s.callAll calls).1.Agrees (b.callAll calls).1 ∧ (s.callAll calls).2 = (b.callAll calls).2 := by
  induction calls generalizing s b with
  | nil => exact ⟨h, rfl⟩
  | cons c rest ih =>
    obtain ⟨hagrees, hanswer⟩ := h.call c
    obtain ⟨hrest, hanswers⟩ := ih hagrees
    exact ⟨hrest, congrArg₂ List.cons hanswer hanswers⟩

end Agrees

/-- A store with empty tables of categories and rules, whatever transactions it has. -/
def blank (path : String) (isOpen : Bool) (transactions : Table TransactionRow) : Store where
  path := path
  database := { (default : Database) with created := true, transactions := transactions }
  isOpen := isOpen

lemma agrees_blank (path : String) (isOpen : Bool) (transactions : Table TransactionRow) :
    (blank path isOpen transactions).Agrees {} where
  sound := rfl
  database := ⟨rfl, fun _ => rfl, rfl, fun _ => rfl, rfl, RuleBook.wellKept_empty⟩

end Store

end TransactionRules
