import TransactionRules.Rule.Basic
import TransactionRules.Store.Categories

/-!
# Stored rules

A rule names its category by the id; what is read back has the category of that id in it. A rule
whose category is not there is refused.
-/

namespace TransactionRules

namespace RuleRow

def toRule (db : Database) (id : Int) (row : RuleRow) : Rule where
  name := .text row.name
  condition := .text row.condition
  priority := row.priority.toValue
  customer := .text row.customer
  category := row.category.map fun id =>
    match db.categories.get? id with
    | some category => category.toCategory id
    | none => ⟨.null, .null, .int id⟩
  active := .bool row.active.holds
  id := .int id

/-- Highest priority first. -/
def before (a b : Int × RuleRow) : Bool := a.2.priority.order b.2.priority != .lt

end RuleRow

namespace Rule

/-- What a row names the category of a rule by. -/
def reference (r : Rule) : Except StoreError Value :=
  match r.category with
  | none => .ok .null
  | some c => if c.id.isNull then .error (.categoryUnsaved c.name r.name) else .ok c.id

end Rule

namespace Change

variable {α : Type}

/-- A flag as a whole number. -/
def flag (v : Value) : Change Value :=
  match v.whole with
  | .ok n => return .int n
  | .error e => throw (.notWhole e)

/-- Blames the category of a rule for a constraint that was not kept. -/
def blaming (r : Rule) (result : Except StoreError α) : Change α :=
  match result with
  | .ok a => return a
  | .error e => throw (if e.isConstraint then .categoryMissing r.category else e)

/-- The cells of a rule, in the order of the columns. -/
def bindRule (r : Rule) (active reference : Value) : Change (Except StoreError RuleRow) := do
  let name ← ofExcept (Cell.bind 1 r.name)
  let condition ← ofExcept (Cell.bind 2 r.condition)
  let priority ← ofExcept (Cell.bind 3 r.priority)
  let active ← ofExcept (Cell.bind 4 active)
  let customer ← ofExcept (Cell.bind 5 r.customer)
  let category ← ofExcept (Cell.bind 6 reference)
  return RuleRow.ofCells name condition priority active customer category

/-- Adds a rule and gives its id. -/
def insertRule (r : Rule) : Change Int := do
  let active ← flag r.active
  let reference ← ofExcept r.reference
  ofExcept ((← get).check "rules")
  let row ← bindRule r active reference
  match (← get).rules.fresh? with
  | none => throw .full
  | some id =>
    let row ← blaming r row
    set (← blaming r ((← get).putRule id row))
    return id

/-- Replaces all fields of the rule with the same id. -/
def updateRule (r : Rule) : Change Unit := do
  let active ← flag r.active
  let reference ← ofExcept r.reference
  ofExcept ((← get).check "rules")
  let row ← bindRule r active reference
  let id ← ofExcept (Cell.bind 7 r.id)
  match id.asId?.filter (← get).rules.contains with
  | none => throw (.ruleMissing r.id)
  | some id =>
    let row ← blaming r row
    set (← blaming r ((← get).putRule id row))

/-- Switches a rule on or off. -/
def setActive (id active : Value) : Change Unit := do
  let active ← flag active
  ofExcept ((← get).check "rules")
  let active ← ofExcept (Cell.bind 1 active)
  let cell ← ofExcept (Cell.bind 2 id)
  let rules := (← get).rules
  match cell.asId?.bind fun id => (rules.get? id).map (id, ·) with
  | none => throw (.ruleMissing id)
  | some (id, row) =>
    modify fun db => { db with rules := db.rules.put id { row with active := active } }

/-- Removes a rule, and tells whether it was there. -/
def deleteRule (id : Value) : Change Bool := do
  ofExcept ((← get).check "rules")
  let cell ← ofExcept (Cell.bind 1 id)
  match cell.asId?.filter (← get).rules.contains with
  | none => return false
  | some id =>
    modify fun db => { db with rules := db.rules.erase id }
    return true

end Change

namespace Store

/-- Adds a rule and gives it with its id. -/
def saveRule (s : Store) (r : Rule) : Store × Except StoreError Rule :=
  let (s, result) := s.write (Change.insertRule r)
  (s, result.map fun id => { r with id := .int id })

/-- Adds rules, or none of them if one is refused. -/
def saveRules (s : Store) (rules : List Rule) : Store × Except StoreError (List Rule) :=
  let (s, result) := s.write (rules.mapM Change.insertRule)
  (s, result.map fun ids => rules.zipWith (fun r id => { r with id := .int id }) ids)

def rule? (s : Store) (id : Value) : Store × Except StoreError (Option Rule) :=
  s.read fun db => do
    db.check "rules"
    let id ← Cell.bind 1 id
    return do
      let id ← id.asId?
      let row ← db.rules.get? id
      return row.toRule db id

/-- The rules of a customer, highest priority first, then in the order of their ids. -/
def rulesOf (s : Store) (customer : Value) : Store × Except StoreError (List Rule) :=
  s.read fun db => do
    db.check "rules"
    let customer ← Cell.bind 1 customer
    let rows := db.rules.rows.filter fun (_, row) => some row.customer == customer.asText?
    return (rows.mergeSort RuleRow.before).map fun (id, row) => row.toRule db id

/-- Replaces all fields of a stored rule. -/
def updateRule (s : Store) (r : Rule) : Store × Except StoreError Rule :=
  if r.id.isNull then (s, .error .ruleUnsaved)
  else
    let (s, result) := s.write (Change.updateRule r)
    (s, result.map fun () => r)

/-- Switches a rule on or off, and gives it as it is then. -/
def setActive (s : Store) (id active : Value) : Store × Except StoreError (Option Rule) :=
  match s.write (Change.setActive id active) with
  | (s, .error e) => (s, .error e)
  | (s, .ok ()) => s.rule? id

def deleteRule (s : Store) (id : Value) : Store × Except StoreError Bool :=
  s.write (Change.deleteRule id)

end Store

end TransactionRules
