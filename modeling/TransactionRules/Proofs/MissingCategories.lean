import TransactionRules.Proofs.Changes
import TransactionRules.Proofs.Outcome
import TransactionRules.Store.Rules

/-!
# What a missing category is blamed for

A rule that is written to the store is refused for its category when the category has no id, or when
a constraint of the table of rules is not kept. The table has constraints besides the one on
categories: a rule needs a name, a condition, a priority and a customer. So a rule that lacks one of
those is refused for its category too, whatever category it has. These are all causes: a write is
refused for a category only if one of its rules lacks the category or a needed field.

Writing a rule has three parts: the cells are made (`Change.prepare`), an id is found, and the row
is put under it (`Change.place`).
-/

namespace TransactionRules

/-- The store says that the category of a rule does not exist. -/
def StoreError.IsCategoryNotFound : StoreError → Prop
  | .categoryMissing _ | .categoryUnsaved .. => True
  | _ => False

/-- Null, or the float that is no number: a cell holds nothing for both. -/
def Value.IsNothing : Value → Prop
  | .null => True
  | .float x => Exact.ofFloat x = .nan
  | _ => False

namespace Rule

/-- The rule has a category, but that has no id, or one under which the table has nothing. -/
def LacksCategory (r : Rule) (categories : Table CategoryRow) : Prop :=
  ∃ c, r.category = some c ∧ (c.id = .null ∨ ∃ cell, Cell.bind 6 c.id = .ok cell ∧ cell ≠ .null ∧
    ∀ id, cell.asId? = some id → categories.contains id = false)

/-- A field that every rule needs is nothing. -/
def LacksField (r : Rule) : Prop :=
  ∃ v ∈ [r.name, r.condition, r.priority, r.customer], v.IsNothing

end Rule

/-! ## Cells of a rule -/

lemma Cell.bind_eq_null {position : Nat} {v : Value} :
    Cell.bind position v = .ok .null ↔ v.IsNothing := by
  cases v with
  | int n => by_cases hword : Cell.isWord n <;> simp [Cell.bind, Value.IsNothing, hword]
  | float x => cases hx : Exact.ofFloat x <;> simp [Cell.bind, Value.IsNothing, hx]
  | null | bool | text | list | map => simp [Cell.bind, Value.IsNothing]

lemma Cell.eq_null_iff {position : Nat} {v : Value} {c : Cell}
    (h : Cell.bind position v = .ok c) : c = .null ↔ v.IsNothing := by
  rw [← Cell.bind_eq_null, h, Except.ok.injEq]

lemma required_asText?_error {table column : String} {c : Cell} {e : StoreError}
    (h : required table column c.asText? = .error e) : e.isConstraint = true ∧ c = .null := by
  cases c with
  | null =>
    cases h
    exact ⟨rfl, rfl⟩
  | int | real | text => cases h

lemma required_ok {α : Type} {table column : String} {x : Option α} {a : α}
    (h : required table column x = .ok a) : x = some a := by
  cases x <;> cases h
  rfl

lemma Cell.ne_null_of_asText? {c : Cell} {s : String} (h : c.asText? = some s) : c ≠ .null := by
  rintro rfl
  cases h

lemma requiredNumber_error {table column : String} {c : Cell} {e : StoreError}
    (h : requiredNumber table column c = .error e) : e.isConstraint = true ∧ c = .null := by
  cases c with
  | null =>
    cases h
    exact ⟨rfl, rfl⟩
  | int | real | text => cases h

lemma requiredNumber_ok {table column : String} {c d : Cell}
    (h : requiredNumber table column c = .ok d) : c ≠ .null := by
  rintro rfl
  cases h

namespace RuleRow

lemma reference_refused {cell : Cell} {e : StoreError} (h : reference cell = .error e) :
    e.isConstraint = true ∧ cell ≠ .null ∧ cell.asId? = none := by
  unfold reference at h
  split at h
  · cases h
  · next hnull =>
    split at h
    · cases h
    · next hid =>
      cases h
      exact ⟨rfl, hnull, hid⟩

lemma reference_ok {cell : Cell} {id : Int} (h : reference cell = .ok (some id)) :
    cell ≠ .null ∧ cell.asId? = some id := by
  unfold reference at h
  split at h
  · cases h
  · next hnull =>
    split at h
    · next hid =>
      cases h
      exact ⟨hnull, hid⟩
    · cases h

end RuleRow

/-- The cells that a row of rules is made of. -/
structure RuleCells where
  name : Cell
  condition : Cell
  priority : Cell
  active : Cell
  customer : Cell
  category : Cell

namespace RuleCells

def row (c : RuleCells) : Except StoreError RuleRow :=
  RuleRow.ofCells c.name c.condition c.priority c.active c.customer c.category

variable {c : RuleCells}

lemma row_error {e : StoreError} (h : c.row = .error e) :
    e.isConstraint = true ∧
      (c.name = .null ∨ c.condition = .null ∨ c.priority = .null ∨ c.active = .null ∨
        c.customer = .null ∨ RuleRow.reference c.category = .error e) := by
  obtain h | ⟨name, -, h⟩ := Outcome.bind_eq_error.1 h
  · exact (required_asText?_error h).imp_right .inl
  obtain h | ⟨condition, -, h⟩ := Outcome.bind_eq_error.1 h
  · exact (required_asText?_error h).imp_right fun hnull => .inr (.inl hnull)
  obtain h | ⟨priority, -, h⟩ := Outcome.bind_eq_error.1 h
  · exact (requiredNumber_error h).imp_right fun hnull => .inr (.inr (.inl hnull))
  obtain h | ⟨active, -, h⟩ := Outcome.bind_eq_error.1 h
  · exact (requiredNumber_error h).imp_right fun hnull => .inr (.inr (.inr (.inl hnull)))
  obtain h | ⟨customer, -, h⟩ := Outcome.bind_eq_error.1 h
  · exact (required_asText?_error h).imp_right fun hnull =>
      .inr (.inr (.inr (.inr (.inl hnull))))
  obtain h | ⟨category, -, h⟩ := Outcome.bind_eq_error.1 h
  · exact ⟨(RuleRow.reference_refused h).1, .inr (.inr (.inr (.inr (.inr h))))⟩
  · cases h

lemma row_ok {row : RuleRow} (h : c.row = .ok row) :
    (c.name.asText? = some row.name ∧ c.condition.asText? = some row.condition ∧
      requiredNumber "rules" "priority" c.priority = .ok row.priority ∧
      c.customer.asText? = some row.customer) ∧
      RuleRow.reference c.category = .ok row.category := by
  obtain ⟨name, hname, h⟩ := Outcome.bind_eq_ok.1 h
  obtain ⟨condition, hcondition, h⟩ := Outcome.bind_eq_ok.1 h
  obtain ⟨priority, hpriority, h⟩ := Outcome.bind_eq_ok.1 h
  obtain ⟨active, -, h⟩ := Outcome.bind_eq_ok.1 h
  obtain ⟨customer, hcustomer, h⟩ := Outcome.bind_eq_ok.1 h
  obtain ⟨category, hcategory, h⟩ := Outcome.bind_eq_ok.1 h
  cases h
  exact ⟨⟨required_ok hname, required_ok hcondition, hpriority, required_ok hcustomer⟩, hcategory⟩

end RuleCells

/-- The cells are those of the rule: none of its values is refused. -/
structure Rule.Binds (r : Rule) (c : RuleCells) : Prop where
  name : Cell.bind 1 r.name = .ok c.name
  condition : Cell.bind 2 r.condition = .ok c.condition
  priority : Cell.bind 3 r.priority = .ok c.priority
  active : ∃ n, r.active.whole = .ok n ∧ Cell.bind 4 (.int n) = .ok c.active
  customer : Cell.bind 5 r.customer = .ok c.customer
  category : ∃ v, r.reference = .ok v ∧ Cell.bind 6 v = .ok c.category

namespace Rule.Binds

variable {r : Rule} {c : RuleCells} {categories : Table CategoryRow} {db : Database}

lemma lacksCategory (h : r.Binds c) (hnull : c.category ≠ .null)
    (habsent : ∀ id, c.category.asId? = some id → categories.contains id = false) :
    r.LacksCategory categories := by
  obtain ⟨v, hv, hcell⟩ := h.category
  unfold reference at hv
  split at hv
  · cases hv
    exact absurd (Except.ok.inj hcell).symm hnull
  · next category hcategory =>
    split_ifs at hv
    cases hv
    exact ⟨category, hcategory, .inr ⟨c.category, hcell, hnull, habsent⟩⟩

/-- A row that cannot be made of the cells of a rule. -/
lemma lacks_of_row_error (h : r.Binds c) {e : StoreError} (he : c.row = .error e) :
    r.LacksCategory categories ∨ r.LacksField := by
  rcases (RuleCells.row_error he).2 with hnull | hnull | hnull | hnull | hnull | hreference
  · exact .inr ⟨r.name, by simp, (Cell.eq_null_iff h.name).1 hnull⟩
  · exact .inr ⟨r.condition, by simp, (Cell.eq_null_iff h.condition).1 hnull⟩
  · exact .inr ⟨r.priority, by simp, (Cell.eq_null_iff h.priority).1 hnull⟩
  · obtain ⟨n, -, hn⟩ := h.active
    have hnothing : (Value.int n).IsNothing := (Cell.eq_null_iff hn).1 hnull
    exact False.elim hnothing
  · exact .inr ⟨r.customer, by simp, (Cell.eq_null_iff h.customer).1 hnull⟩
  · obtain ⟨-, hne, hid⟩ := RuleRow.reference_refused hreference
    refine .inl (h.lacksCategory hne fun id hsome => ?_)
    cases hid.symm.trans hsome

/-- A row that names a category that is not there. -/
lemma lacksCategory_of_row (h : r.Binds c) {row : RuleRow} (hrow : c.row = .ok row)
    (habsent : db.hasReference row.category = false) : r.LacksCategory db.categories := by
  have hreference := (RuleCells.row_ok hrow).2
  cases hcategory : row.category with
  | none =>
    rw [hcategory] at habsent
    cases habsent
  | some id =>
    rw [hcategory] at habsent hreference
    obtain ⟨hne, hid⟩ := RuleRow.reference_ok hreference
    refine h.lacksCategory hne fun id' hid' => ?_
    cases hid.symm.trans hid'
    exact habsent

/-- No row can be made for a rule without one of the fields that it needs. -/
lemma exists_row_error (h : r.Binds c) (hlacks : r.LacksField) :
    ∃ e, c.row = .error e ∧ e.isConstraint = true := by
  cases hrow : c.row with
  | error e => exact ⟨e, rfl, (RuleCells.row_error hrow).1⟩
  | ok row =>
    obtain ⟨⟨hname, hcondition, hpriority, hcustomer⟩, -⟩ := RuleCells.row_ok hrow
    obtain ⟨v, hv, hnothing⟩ := hlacks
    simp only [List.mem_cons, List.not_mem_nil, or_false] at hv
    rcases hv with rfl | rfl | rfl | rfl
    · exact absurd ((Cell.eq_null_iff h.name).2 hnothing) (Cell.ne_null_of_asText? hname)
    · exact absurd ((Cell.eq_null_iff h.condition).2 hnothing) (Cell.ne_null_of_asText? hcondition)
    · exact absurd ((Cell.eq_null_iff h.priority).2 hnothing) (requiredNumber_ok hpriority)
    · exact absurd ((Cell.eq_null_iff h.customer).2 hnothing) (Cell.ne_null_of_asText? hcustomer)

end Rule.Binds

/-! ## The parts of writing a rule -/

namespace Change

variable {α β : Type}

/-- Whatever it is refused for, no category is said to be missing. -/
def Blameless (act : Change α) : Prop :=
  ∀ db after e, act.result db = (.error e, after) → ¬ e.IsCategoryNotFound

namespace Blameless

lemma bind {act : Change α} {next : α → Change β} (hact : act.Blameless)
    (hnext : ∀ a, (next a).Blameless) : (act >>= next).Blameless := by
  intro db after e h
  obtain h | ⟨a, between, -, h⟩ := result_bind_error h
  · exact hact db after e h
  · exact hnext a between after e h

lemma pure (a : α) : Blameless (Pure.pure a) := by
  intro db after e h
  cases h

lemma get : Blameless get := by
  intro db after e h
  cases h

lemma cell (position : Nat) (v : Value) : Blameless (ofExcept (Cell.bind position v)) := by
  intro db after e h
  rw [result_ofExcept] at h
  obtain ⟨h, -⟩ := Prod.mk.inj h
  cases v with
  | null | bool | text => cases h
  | int n =>
    rw [Cell.bind] at h
    split at h <;> cases h
    exact id
  | float x =>
    rw [Cell.bind] at h
    split at h <;> cases h
  | list | map =>
    cases h
    exact id

lemma check (db : Database) (table : String) : Blameless (ofExcept (db.check table)) := by
  intro db' after e h
  rw [result_ofExcept, Database.check] at h
  split at h <;> cases h
  exact id

lemma flag (v : Value) : Blameless (flag v) := by
  intro db after e h
  unfold Change.flag at h
  split at h <;> cases h
  exact id

lemma bindRule (r : Rule) (active reference : Value) : Blameless (bindRule r active reference) := by
  refine (cell 1 r.name).bind fun name => ?_
  refine (cell 2 r.condition).bind fun condition => ?_
  refine (cell 3 r.priority).bind fun priority => ?_
  refine (cell 4 active).bind fun active => ?_
  refine (cell 5 r.customer).bind fun customer => ?_
  refine (cell 6 reference).bind fun category => ?_
  exact pure _

end Blameless

/-- The row of a rule, or the constraint that its cells do not keep. -/
def prepare (r : Rule) : Change (Except StoreError RuleRow) := do
  let active ← flag r.active
  let reference ← ofExcept r.reference
  ofExcept ((← get).check "rules")
  bindRule r active reference

/-- Puts a row under an id, or blames the category of the rule. -/
def place (r : Rule) (row : Except StoreError RuleRow) (id : Int) : Change Unit := do
  let row ← blaming r row
  set (← blaming r ((← get).putRule id row))

lemma insertRule_eq (r : Rule) :
    insertRule r = do
      let row ← prepare r
      match (← get).rules.fresh? with
      | none => throw .full
      | some id =>
        place r row id
        return id := by
  simp only [prepare, place, bind_assoc]
  rfl

lemma updateRule_eq (r : Rule) :
    updateRule r = (do
      let row ← prepare r
      let id ← ofExcept (Cell.bind 7 r.id)
      match id.asId?.filter (← get).rules.contains with
      | none => throw (.ruleMissing r.id)
      | some id => place r row id) := by
  simp only [prepare, place, bind_assoc]
  rfl

variable {r : Rule} {row : Except StoreError RuleRow} {id : Int} {db after : Database}
  {e : StoreError}

lemma flag_ok {v flag : Value} (h : (Change.flag v).result db = (.ok flag, after)) :
    ∃ n, v.whole = .ok n ∧ flag = .int n ∧ db = after := by
  unfold Change.flag at h
  split at h
  · next n hn =>
    cases h
    exact ⟨n, hn, rfl, rfl⟩
  · cases h

lemma bindRule_ok {active reference : Value}
    (h : (bindRule r active reference).result db = (.ok row, after)) :
    db = after ∧ ∃ c : RuleCells, Cell.bind 1 r.name = .ok c.name ∧
      Cell.bind 2 r.condition = .ok c.condition ∧ Cell.bind 3 r.priority = .ok c.priority ∧
      Cell.bind 4 active = .ok c.active ∧ Cell.bind 5 r.customer = .ok c.customer ∧
      Cell.bind 6 reference = .ok c.category ∧ row = c.row := by
  obtain ⟨name, db₁, h₁, h⟩ := result_bind_ok h
  obtain ⟨hname, rfl⟩ := ofExcept_ok h₁
  obtain ⟨condition, db₂, h₂, h⟩ := result_bind_ok h
  obtain ⟨hcondition, rfl⟩ := ofExcept_ok h₂
  obtain ⟨priority, db₃, h₃, h⟩ := result_bind_ok h
  obtain ⟨hpriority, rfl⟩ := ofExcept_ok h₃
  obtain ⟨active, db₄, h₄, h⟩ := result_bind_ok h
  obtain ⟨hactive, rfl⟩ := ofExcept_ok h₄
  obtain ⟨customer, db₅, h₅, h⟩ := result_bind_ok h
  obtain ⟨hcustomer, rfl⟩ := ofExcept_ok h₅
  obtain ⟨category, db₆, h₆, h⟩ := result_bind_ok h
  obtain ⟨hcategory, rfl⟩ := ofExcept_ok h₆
  cases h
  exact ⟨rfl, ⟨name, condition, priority, active, customer, category⟩, hname, hcondition,
    hpriority, hactive, hcustomer, hcategory, rfl⟩

lemma prepare_ok (h : (prepare r).result db = (.ok row, after)) :
    db = after ∧ ∃ c, r.Binds c ∧ row = c.row := by
  obtain ⟨active, db₁, h₁, h⟩ := result_bind_ok h
  obtain ⟨n, hn, rfl, rfl⟩ := flag_ok h₁
  obtain ⟨reference, db₂, h₂, h⟩ := result_bind_ok h
  obtain ⟨hreference, rfl⟩ := ofExcept_ok h₂
  obtain ⟨_, db₃, h₃, h⟩ := result_bind_ok h
  cases h₃
  obtain ⟨_, db₄, h₄, h⟩ := result_bind_ok h
  obtain ⟨-, rfl⟩ := ofExcept_ok h₄
  obtain ⟨hafter, c, hname, hcondition, hpriority, hactive, hcustomer, hcategory, hrow⟩ :=
    bindRule_ok h
  exact ⟨hafter, c, ⟨hname, hcondition, hpriority, ⟨n, hn, hactive⟩, hcustomer,
    ⟨reference, hreference, hcategory⟩⟩, hrow⟩

/-- The only category that is missed before a row is put into the table is one without an id. -/
lemma prepare_error (h : (prepare r).result db = (.error e, after)) (he : e.IsCategoryNotFound)
    (categories : Table CategoryRow) : r.LacksCategory categories := by
  obtain h | ⟨active, between, -, h⟩ := result_bind_error h
  · exact (Blameless.flag _ _ _ _ h he).elim
  obtain h | ⟨reference, between, -, h⟩ := result_bind_error h
  · obtain ⟨h, -⟩ := Prod.mk.inj h
    unfold Rule.reference at h
    split at h
    · cases h
    · next c hc =>
      split_ifs at h with hnull
      refine ⟨c, hc, .inl ?_⟩
      cases hid : c.id with
      | null => rfl
      | bool | int | float | text | list | map =>
        rw [hid] at hnull
        cases hnull
  · have hrest : Blameless (do
        ofExcept ((← get).check "rules")
        bindRule r active reference) := by
      refine Blameless.get.bind fun db => ?_
      exact (Blameless.check db _).bind fun _ => Blameless.bindRule r active reference
    exact (hrest _ _ _ h he).elim

lemma place_error (h : (place r row id).result db = (.error e, after)) :
    (∃ e', row = .error e') ∨ ∃ row', row = .ok row' ∧ db.hasReference row'.category = false := by
  cases row with
  | error e' => exact .inl ⟨e', rfl⟩
  | ok row' =>
    refine .inr ⟨row', rfl, ?_⟩
    by_contra hthere
    rw [Bool.not_eq_false] at hthere
    simp [place, blaming, Database.putRule, hthere] at h

lemma lacks_of_place_error {c : RuleCells} (hc : r.Binds c)
    (h : (place r c.row id).result db = (.error e, after)) :
    r.LacksCategory db.categories ∨ r.LacksField := by
  obtain ⟨e', he'⟩ | ⟨row, hrow, habsent⟩ := place_error h
  · exact hc.lacks_of_row_error he'
  · exact .inl (hc.lacksCategory_of_row hrow habsent)

lemma blaming_ok {x : Except StoreError α} {a : α}
    (h : (blaming r x).result db = (.ok a, after)) : x = .ok a ∧ db = after := by
  unfold blaming at h
  split at h
  · cases h
    exact ⟨rfl, rfl⟩
  · cases h

lemma place_ok (h : (place r row id).result db = (.ok (), after)) :
    ∃ row', row = .ok row' ∧ after = { db with rules := db.rules.put id row' } := by
  obtain ⟨row', db₁, h₁, h⟩ := result_bind_ok h
  obtain ⟨hrow, rfl⟩ := blaming_ok h₁
  obtain ⟨_, db₂, h₂, h⟩ := result_bind_ok h
  cases h₂
  obtain ⟨placed, db₃, h₃, h⟩ := result_bind_ok h
  obtain ⟨hput, rfl⟩ := blaming_ok h₃
  cases h
  rw [Database.putRule] at hput
  split_ifs at hput
  cases hput
  exact ⟨row', hrow, rfl⟩

lemma insertRule_error (h : (insertRule r).result db = (.error e, after))
    (he : e.IsCategoryNotFound) : r.LacksCategory db.categories ∨ r.LacksField := by
  rw [insertRule_eq] at h
  obtain h | ⟨row, db₁, h₁, h⟩ := result_bind_error h
  · exact .inl (prepare_error h he _)
  obtain ⟨rfl, c, hc, rfl⟩ := prepare_ok h₁
  obtain h | ⟨_, db₂, h₂, h⟩ := result_bind_error h
  · cases h
  cases h₂
  split at h
  · cases h
    exact he.elim
  · next id _ =>
    obtain h | ⟨_, db₃, -, h⟩ := result_bind_error h
    · exact lacks_of_place_error hc h
    · cases h

lemma updateRule_error (h : (updateRule r).result db = (.error e, after))
    (he : e.IsCategoryNotFound) : r.LacksCategory db.categories ∨ r.LacksField := by
  rw [updateRule_eq] at h
  obtain h | ⟨row, db₁, h₁, h⟩ := result_bind_error h
  · exact .inl (prepare_error h he _)
  obtain ⟨rfl, c, hc, rfl⟩ := prepare_ok h₁
  obtain h | ⟨id, db₂, h₂, h⟩ := result_bind_error h
  · exact (Blameless.cell _ _ _ _ _ h he).elim
  obtain ⟨-, rfl⟩ := ofExcept_ok h₂
  obtain h | ⟨_, db₃, h₃, h⟩ := result_bind_error h
  · cases h
  cases h₃
  split at h
  · cases h
    exact he.elim
  · exact lacks_of_place_error hc h

/-- A rule that is added is a row of its cells, under a new id. -/
lemma insertRule_ok {id : Int} (h : (insertRule r).result db = (.ok id, after)) :
    ∃ c row, r.Binds c ∧ c.row = .ok row ∧ db.rules.fresh? = some id ∧
      after = { db with rules := db.rules.put id row } := by
  rw [insertRule_eq] at h
  obtain ⟨row, db₁, h₁, h⟩ := result_bind_ok h
  obtain ⟨rfl, c, hc, rfl⟩ := prepare_ok h₁
  obtain ⟨_, db₂, h₂, h⟩ := result_bind_ok h
  cases h₂
  split at h
  · cases h
  · next id hid =>
    obtain ⟨_, db₃, h₃, h⟩ := result_bind_ok h
    cases h
    obtain ⟨row, hrow, rfl⟩ := place_ok h₃
    exact ⟨c, row, hc, hrow, hid, rfl⟩

/-- A batch is refused at one of its rules, and the categories are then what they were. -/
lemma insertRules_error {rs : List Rule} (h : (rs.mapM insertRule).result db = (.error e, after))
    (he : e.IsCategoryNotFound) : ∃ r ∈ rs, r.LacksCategory db.categories ∨ r.LacksField := by
  induction rs generalizing db with
  | nil => cases h
  | cons r rest ih =>
    rw [List.mapM_cons] at h
    obtain h | ⟨id, db₁, h₁, h⟩ := result_bind_error h
    · exact ⟨r, List.mem_cons_self, insertRule_error h he⟩
    obtain h | ⟨ids, db₂, -, h⟩ := result_bind_error h
    · obtain ⟨r', hr', hlacks⟩ := ih h
      obtain ⟨_, _, -, -, -, rfl⟩ := insertRule_ok h₁
      exact ⟨r', List.mem_cons_of_mem r hr', hlacks⟩
    · cases h

/-- A rule without a field that it needs is refused for its category, once its cells are made. -/
lemma result_insertRule_of_lacksField {c : RuleCells} (hcreated : db.created = true)
    (hc : r.Binds c) (hlacks : r.LacksField) (hid : db.rules.fresh? = some id) :
    ((insertRule r).result db).1 = .error (.categoryMissing r.category) := by
  obtain ⟨n, hn, hactive⟩ := hc.active
  obtain ⟨v, hv, hcategory⟩ := hc.category
  obtain ⟨e, hrow, he⟩ := hc.exists_row_error hlacks
  have hbind : (bindRule r (.int n) v).result db = (.ok c.row, db) := by
    simp only [bindRule, result_bind, result_ofExcept, hc.name, hc.condition, hc.priority, hactive,
      hc.customer, hcategory, result_pure, RuleCells.row]
  have hflag : (flag r.active).result db = (.ok (.int n), db) := by
    rw [flag, hn]
    rfl
  have hprepare : (prepare r).result db = (.ok c.row, db) := by
    simp only [prepare, result_bind, hflag, result_ofExcept, hv, result_get, Database.check,
      hcreated, if_true, hbind]
  simp only [insertRule_eq, result_bind, hprepare, result_get, hid, place, hrow, blaming, he,
    if_true, result_throw]

end Change

/-! ## Writes of the store -/

/-- A write of whole rules. -/
inductive RuleWrite where
  | save (r : Rule)
  | saveAll (rs : List Rule)
  | update (r : Rule)

namespace RuleWrite

def rules : RuleWrite → List Rule
  | .save r | .update r => [r]
  | .saveAll rs => rs

/-- Why the store refuses the write, if it does. -/
def outcome (s : Store) : RuleWrite → Except StoreError Unit
  | .save r => (s.saveRule r).2.map fun _ => ()
  | .saveAll rs => (s.saveRules rs).2.map fun _ => ()
  | .update r => (s.updateRule r).2.map fun _ => ()

end RuleWrite

namespace Store

variable {s : Store}

/-- If a write is refused because a category does not exist, then one of its rules lacks its
category, or lacks a field that every rule needs. -/
theorem lacks_of_categoryNotFound (sound : s.defect = none) (w : RuleWrite) {e : StoreError}
    (h : w.outcome s = .error e) (he : e.IsCategoryNotFound) :
    ∃ r ∈ w.rules, r.LacksCategory s.database.categories ∨ r.LacksField := by
  cases w with
  | save r =>
    have hsave := Outcome.map_eq_error.1 (Outcome.map_eq_error.1 h)
    obtain ⟨left, hinsert⟩ := write_error_of_sound sound hsave
    exact ⟨r, List.mem_cons_self, Change.insertRule_error hinsert he⟩
  | saveAll rs =>
    have hsave := Outcome.map_eq_error.1 (Outcome.map_eq_error.1 h)
    obtain ⟨left, hinsert⟩ := write_error_of_sound sound hsave
    exact Change.insertRules_error hinsert he
  | update r =>
    have hupdate := Outcome.map_eq_error.1 h
    unfold updateRule at hupdate
    split_ifs at hupdate
    · cases hupdate
      exact he.elim
    · have hwrite := Outcome.map_eq_error.1 hupdate
      obtain ⟨left, hchange⟩ := write_error_of_sound sound hwrite
      exact ⟨r, List.mem_cons_self, Change.updateRule_error hchange he⟩

/-- A category that is not there. -/
theorem lacks_of_categoryNotFound_unknown :
    let s : Store := { path := "store.db", database := { created := true } }
    let r : Rule :=
      { name := .text "a", condition := .text "true", priority := .int 0, customer := .text "c",
        category := some ⟨.text "food", .text "", .int 7⟩ }
    s.defect = none ∧ (RuleWrite.save r).outcome s = .error (.categoryMissing r.category) ∧
      ∃ r' ∈ (RuleWrite.save r).rules, r'.LacksCategory s.database.categories ∨ r'.LacksField :=
  ⟨rfl, rfl, lacks_of_categoryNotFound rfl _ rfl trivial⟩

/-- Every rule without a field that it needs is refused for its category, the category being there
or not. -/
theorem saveRule_of_lacksField (sound : s.defect = none) (hcreated : s.database.created = true)
    {r : Rule} {c : RuleCells} (hc : r.Binds c) (hlacks : r.LacksField)
    (hfree : s.database.rules.last < Table.greatestId) :
    (s.saveRule r).2 = .error (.categoryMissing r.category) := by
  have hinsert := Change.result_insertRule_of_lacksField hcreated hc hlacks (if_pos hfree)
  have hwrite : (s.write (Change.insertRule r)).2 = .error (.categoryMissing r.category) := by
    rw [write_of_sound sound, Change.result_atomically]
    split
    · next hresult =>
      rw [hresult] at hinsert
      cases hinsert
    · next hresult =>
      rw [hresult] at hinsert
      exact hinsert
  exact Outcome.map_eq_error.2 hwrite

/-- A rule without a name in a category that is there. -/
theorem saveRule_nameless :
    let food : Category := ⟨.text "food", .text "", .int 1⟩
    let s : Store :=
      { path := "store.db",
        database := { created := true, categories := Table.put {} 1 ⟨"food", ""⟩ } }
    let r : Rule :=
      { name := .null, condition := .text "true", priority := .int 0, customer := .text "c",
        category := some food }
    (s.category? (.int 1)).2 = .ok (some food) ∧
      (s.saveRule r).2 = .error (.categoryMissing (some food)) ∧
      ¬ r.LacksCategory s.database.categories := by
  refine ⟨rfl, rfl, ?_⟩
  rintro ⟨c, hc, hnull | ⟨cell, hcell, -, habsent⟩⟩
  · cases hc
    cases hnull
  · cases hc
    cases hcell
    cases habsent 1 rfl

end Store

end TransactionRules
