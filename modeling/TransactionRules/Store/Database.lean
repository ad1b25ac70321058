import TransactionRules.Store.Cell
import TransactionRules.Store.Table

/-!
# The database

Three tables: categories, rules and transactions. A row can be made only of cells that keep the
constraints of its table. A `Change` is a sequence of statements; it leaves what the statements
before a failure did, and `atomically` takes that back.
-/

namespace TransactionRules

structure CategoryRow where
  name : String
  description : String
deriving Inhabited, Repr

structure RuleRow where
  name : String
  condition : String
  priority : Cell
  active : Cell
  customer : String
  category : Option Int
deriving Inhabited, Repr

structure TransactionRow where
  merchant : Option String
  merchantType : Option String
  amount : Cell
  location : Option String
  category : Option String
deriving Inhabited, Repr

/-- What a column that is never empty holds. -/
def required {α : Type} (table column : String) : Option α → Except StoreError α
  | some a => .ok a
  | none => .error (.notNull table column)

/-- A column of numbers that is never empty. -/
def requiredNumber (table column : String) (c : Cell) : Except StoreError Cell :=
  match c with
  | .null => .error (.notNull table column)
  | c => .ok c.asNumber

namespace CategoryRow

def ofCells (name description : Cell) : Except StoreError CategoryRow := do
  let name ← required "categories" "name" name.asText?
  let description ← required "categories" "description" description.asText?
  return ⟨name, description⟩

end CategoryRow

namespace RuleRow

/-- The id that a rule names its category by. -/
def reference (category : Cell) : Except StoreError (Option Int) :=
  match category with
  | .null => .ok none
  | c => match c.asId? with
    | some id => .ok (some id)
    | none => .error .foreignKey

def ofCells (name condition priority active customer category : Cell) :
    Except StoreError RuleRow := do
  let name ← required "rules" "name" name.asText?
  let condition ← required "rules" "condition_expression" condition.asText?
  let priority ← requiredNumber "rules" "priority" priority
  let active ← requiredNumber "rules" "active" active
  let customer ← required "rules" "customer_id" customer.asText?
  return ⟨name, condition, priority, active, customer, ← reference category⟩

end RuleRow

namespace TransactionRow

def ofCells (merchant merchantType amount location category : Cell) : TransactionRow :=
  ⟨merchant.asText?, merchantType.asText?, amount.asReal, location.asText?, category.asText?⟩

end TransactionRow

structure Database where
  /-- Whether the tables are there. -/
  created : Bool := false
  categories : Table CategoryRow := {}
  rules : Table RuleRow := {}
  transactions : Table TransactionRow := {}
deriving Inhabited

namespace Database

/-- The version of the tables. -/
def version : Int := 1

def create (db : Database) : Database := { db with created := true }

/-- Refuses a statement about a table before the tables are there. -/
def check (db : Database) (table : String) : Except StoreError Unit :=
  if db.created then .ok () else .error (.noTable table)

/-- Whether a category other than `id` has a name. -/
def hasName (db : Database) (name : String) (id : Int) : Bool :=
  db.categories.rows.any fun (other, row) => other != id && row.name == name

/-- Whether the category that a rule names is there. -/
def hasReference (db : Database) : Option Int → Bool
  | none => true
  | some id => db.categories.contains id

/-- Puts a category into the table, if no other has its name. -/
def putCategory (db : Database) (id : Int) (row : CategoryRow) : Except StoreError Database :=
  if db.hasName row.name id then .error (.notUnique "categories" "name")
  else .ok { db with categories := db.categories.put id row }

/-- Puts a rule into the table, if its category is there. -/
def putRule (db : Database) (id : Int) (row : RuleRow) : Except StoreError Database :=
  if db.hasReference row.category then .ok { db with rules := db.rules.put id row }
  else .error .foreignKey

def putTransaction (db : Database) (id : Int) (row : TransactionRow) : Database :=
  { db with transactions := db.transactions.put id row }

end Database

/-- Statements on a database, the last of which may be refused. -/
abbrev Change (α : Type) := ExceptT StoreError (StateM Database) α

namespace Change

variable {α : Type}

/-- What a change gives, and the database that it leaves. -/
def result (act : Change α) (db : Database) : Except StoreError α × Database := act.run.run db

def ofExcept (r : Except StoreError α) : Change α := ExceptT.mk (pure r)

/-- All of a change, or nothing of it. -/
def atomically (act : Change α) : Change α := ExceptT.mk fun db =>
  match act.result db with
  | (.ok a, after) => (.ok a, after)
  | (.error e, _) => (.error e, db)

theorem atomically_of_error {act : Change α} {db : Database} {e : StoreError}
    (h : (act.atomically.result db).1 = .error e) : (act.atomically.result db).2 = db := by
  show (match act.result db with
    | (.ok a, after) => (.ok a, after)
    | (.error e, _) => (.error e, db) : Except StoreError α × Database).2 = db
  change (match act.result db with
    | (.ok a, after) => (.ok a, after)
    | (.error e, _) => (.error e, db) : Except StoreError α × Database).1 = .error e at h
  split at h
  · cases h
  · rfl

theorem atomically_of_ok {act : Change α} {db after : Database} {a : α}
    (h : act.result db = (.ok a, after)) : act.atomically.result db = (.ok a, after) := by
  show (match act.result db with
    | (.ok a, after) => (.ok a, after)
    | (.error e, _) => (.error e, db) : Except StoreError α × Database) = (.ok a, after)
  rw [h]

end Change

end TransactionRules
