import TransactionRules.Json.Reader
import TransactionRules.Json.Writer
import TransactionRules.Store.Database

/-!
# Archives

A database as a text, in which it outlasts the program: for each table the greatest id that was ever
given, and the rows. A text that is none of these is not read.
-/

namespace TransactionRules

namespace Table

variable {α : Type}

/-- A table with some rows, in which the ids up to `last` count as given. -/
def ofRows (last : Int) (rows : List (Int × α)) : Table α :=
  let t : Table α := rows.foldl (fun t (id, row) => t.put id row) default
  { rows := t.rows
    last := max t.last last
    ordered := t.ordered
    bounded := fun r hr => Int.le_trans (t.bounded r hr) (Int.le_max_left ..) }

end Table

namespace Archive

variable {α : Type}

def ofTable (fields : α → List Value) (t : Table α) : Value :=
  .map [("last", .int t.last),
    ("rows", .list (t.rows.map fun (id, row) => .list (.int id :: fields row)))]

def ofCategory (row : CategoryRow) : List Value := [.text row.name, .text row.description]

def ofRule (row : RuleRow) : List Value :=
  [.text row.name, .text row.condition, row.priority.toValue, row.active.toValue,
    .text row.customer, (row.category.map Value.int).getD .null]

def ofTransaction (row : TransactionRow) : List Value :=
  [Cell.ofText? row.merchant, Cell.ofText? row.merchantType, row.amount.toValue,
    Cell.ofText? row.location, Cell.ofText? row.category]

def ofDatabase (db : Database) : Value :=
  .map [("version", .int Database.version), ("categories", ofTable ofCategory db.categories),
    ("rules", ofTable ofRule db.rules), ("transactions", ofTable ofTransaction db.transactions)]

/-- A database as a text. -/
def write (db : Database) : String := Json.write .spaced (ofDatabase db) ++ "\n"

/-- The cells of some fields. -/
def cells? (fields : List Value) : Option (List Cell) :=
  fields.mapM fun v => (Cell.bind 0 v).toOption

def row? (make : List Cell → Option α) (v : Value) : Option (Int × α) := do
  let .list (.int id :: fields) := v | none
  return (id, ← make (← cells? fields))

def table? (make : List Cell → Option α) (v : Value) : Option (Table α) := do
  let .map entries := v | none
  let .int last ← Value.ofKey? entries "last" | none
  let .list items ← Value.ofKey? entries "rows" | none
  (items.mapM (row? make)).map (Table.ofRows last)

def category? : List Cell → Option CategoryRow
  | [name, description] => (CategoryRow.ofCells name description).toOption
  | _ => none

def rule? : List Cell → Option RuleRow
  | [name, condition, priority, active, customer, category] =>
    (RuleRow.ofCells name condition priority active customer category).toOption
  | _ => none

def transaction? : List Cell → Option TransactionRow
  | [merchant, merchantType, amount, location, category] =>
    some (.ofCells merchant merchantType amount location category)
  | _ => none

def database? (v : Value) : Option Database := do
  let .map entries := v | none
  let .int version ← Value.ofKey? entries "version" | none
  if version != Database.version then none
  else return {
    created := true
    categories := ← table? category? (← Value.ofKey? entries "categories")
    rules := ← table? rule? (← Value.ofKey? entries "rules")
    transactions := ← table? transaction? (← Value.ofKey? entries "transactions") }

/-- The database that a text is. -/
def read? (s : String) : Option Database := do
  database? (← (Json.read s).toOption)

end Archive

end TransactionRules
