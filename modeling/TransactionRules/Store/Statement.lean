import TransactionRules.Store.Database

/-!
# Statements in words

An operator may change rows by a statement in words: `UPDATE`, `DELETE FROM` or `INSERT INTO` one of
the tables, with plain values. The rows keep the constraints of their tables whatever a statement
says.
-/

namespace TransactionRules

/-- A row column by column, without its id. -/
abbrev Record := List (String × Cell)

/-- The words of a statement. -/
inductive Word where
  | name (s : String)
  | value (c : Cell)
  | symbol (s : String)
deriving Repr

/-- A condition on one column. -/
structure ColumnTest where
  column : String
  comparison : Comparison
  value : Cell
  /-- Whether nothing is compared like a value. -/
  strict : Bool
deriving Repr

inductive Statement where
  | update (table : String) (assignments : Record) (tests : List ColumnTest)
  | delete (table : String) (tests : List ColumnTest)
  | insert (table : String) (record : Record)
deriving Repr

namespace Word

/-- The rest of a text in quotes, of which two stand for one. -/
def quotedText (acc : List Char) : List Char → Option (List Char × List Char)
  | [] => none
  | '\'' :: '\'' :: cs => quotedText ('\'' :: acc) cs
  | '\'' :: cs => some (acc.reverse, cs)
  | c :: cs => quotedText (c :: acc) cs

def isNumberChar (c : Char) : Bool := c.isDigit || c == '.' || c == 'e' || c == 'E'

/-- The first word of a text behind its blanks, and the rest. -/
def next : List Char → Option (Word × List Char)
  | [] => none
  | '\'' :: cs => (quotedText [] cs).map fun (text, rest) => (.value (.text (String.ofList text)), rest)
  | '<' :: '>' :: cs => some (.symbol "<>", cs)
  | '!' :: '=' :: cs => some (.symbol "<>", cs)
  | '<' :: '=' :: cs => some (.symbol "<=", cs)
  | '>' :: '=' :: cs => some (.symbol ">=", cs)
  | '=' :: '=' :: cs => some (.symbol "=", cs)
  | c :: cs =>
    if c.isAlpha || c == '_' then
      let word := (c :: cs).takeWhile fun d => d.isAlphanum || d == '_'
      some (.name (String.ofList word), (c :: cs).drop word.length)
    else if c.isDigit then
      let word := (c :: cs).takeWhile isNumberChar
      (Cell.numeric? (String.ofList word)).map fun v => (.value v, (c :: cs).drop word.length)
    else some (.symbol (String.singleton c), cs)

/-- The words of a text, as many as its length allows. -/
def scan : Nat → List Char → Option (List Word)
  | 0, _ => some []
  | fuel + 1, cs =>
    match cs.dropWhile Cell.isSpace with
    | [] => some []
    | cs => do
      let (word, rest) ← next cs
      return word :: (← scan fuel rest)

/-- Whether a word is a keyword, which is written in any letter case. -/
def isKeyword (keyword : String) : Word → Bool
  | .name s => s.toUpper == keyword
  | _ => false

/-- The words behind some keywords. -/
def behind : List String → List Word → Option (List Word)
  | [], words => some words
  | keyword :: more, word :: words => if word.isKeyword keyword then behind more words else none
  | _ :: _, [] => none

/-- A plain value, and the words behind it. -/
def plainValue : List Word → Option (Cell × List Word)
  | .value c :: words => some (c, words)
  | .symbol "-" :: .value (.int n) :: words => some (.int (-n), words)
  | .symbol "-" :: .value (.real x) :: words => some (.real (-x), words)
  | .name s :: words => match s.toUpper with
    | "NULL" => some (.null, words)
    | "TRUE" => some (.int 1, words)
    | "FALSE" => some (.int 0, words)
    | _ => none
  | _ => none

end Word

namespace Statement

open Word

/-- Assignments up to the condition. -/
def assignments : Nat → List Word → Option (Record × List Word)
  | 0, _ => none
  | fuel + 1, words => do
    let .name column :: .symbol "=" :: words := words | none
    let (v, words) ← plainValue words
    match words with
    | .symbol "," :: words =>
      let (record, words) ← assignments fuel words
      return ((column, v) :: record, words)
    | words => return ([(column, v)], words)

def comparison? : String → Option Comparison
  | "=" => some .eq
  | "<>" => some .ne
  | "<" => some .lt
  | "<=" => some .le
  | ">" => some .gt
  | ">=" => some .ge
  | _ => none

/-- One test of a condition. -/
def test (words : List Word) : Option (ColumnTest × List Word) :=
  match words with
  | .name column :: .symbol s :: words => do
    let comparison ← comparison? s
    let (v, words) ← plainValue words
    return (⟨column, comparison, v, true⟩, words)
  | .name column :: word :: words => do
    if !word.isKeyword "IS" then none
    else match behind ["NOT"] words with
      | some words =>
        let (v, words) ← plainValue words
        return (⟨column, .ne, v, false⟩, words)
      | none =>
        let (v, words) ← plainValue words
        return (⟨column, .eq, v, false⟩, words)
  | _ => none

/-- Tests that all have to hold, to the end of the statement. -/
def tests : Nat → List Word → Option (List ColumnTest)
  | 0, _ => none
  | fuel + 1, words => do
    let (first, words) ← test words
    match words with
    | [] => return [first]
    | words => return first :: (← tests fuel (← behind ["AND"] words))

/-- The condition of a statement, to its end. -/
def condition (words : List Word) : Option (List ColumnTest) :=
  match words with
  | [] => some []
  | words => do tests words.length (← behind ["WHERE"] words)

/-- Names or values between brackets, with commas between them. -/
def listed {α : Type} (item : List Word → Option (α × List Word)) :
    Nat → List Word → Option (List α × List Word)
  | 0, _ => none
  | fuel + 1, words => do
    let (a, words) ← item words
    match words with
    | .symbol ")" :: words => return ([a], words)
    | .symbol "," :: words =>
      let (more, words) ← listed item fuel words
      return (a :: more, words)
    | _ => none

def columnName : List Word → Option (String × List Word)
  | .name s :: words => some (s, words)
  | _ => none

def ofWords? (words : List Word) : Option Statement :=
  match words with
  | [] => none
  | word :: words =>
    if word.isKeyword "UPDATE" then do
      let .name table :: words := words | none
      let (record, words) ← assignments words.length (← behind ["SET"] words)
      return .update table record (← condition words)
    else if word.isKeyword "DELETE" then do
      let .name table :: words ← behind ["FROM"] words | none
      return .delete table (← condition words)
    else if word.isKeyword "INSERT" then do
      let .name table :: .symbol "(" :: words ← behind ["INTO"] words | none
      let (columns, words) ← listed columnName words.length words
      let .symbol "(" :: words ← behind ["VALUES"] words | none
      let (values, []) ← listed plainValue words.length words | none
      if columns.length == values.length then return .insert table (columns.zip values) else none
    else none

/-- The statement that a text is; a semicolon may end it. -/
def ofText? (s : String) : Option Statement := do
  let words ← scan s.length s.toList
  match words.reverse with
  | .symbol ";" :: rest => ofWords? rest.reverse
  | _ => ofWords? words

end Statement

namespace Database

/-- The rows of a table, column by column. -/
def records (db : Database) (table : String) : Except StoreError (List (Int × Record)) := do
  db.check table
  let text := fun s => (Cell.text s : Cell)
  let text? := fun (s : Option String) => (s.map text).getD .null
  match table with
  | "categories" => return db.categories.rows.map fun (id, row) =>
      (id, [("name", text row.name), ("description", text row.description)])
  | "rules" => return db.rules.rows.map fun (id, row) =>
      (id, [("name", text row.name), ("condition_expression", text row.condition),
        ("priority", row.priority), ("active", row.active), ("customer_id", text row.customer),
        ("category_id", (row.category.map Cell.int).getD .null)])
  | "transactions" => return db.transactions.rows.map fun (id, row) =>
      (id, [("merchant", text? row.merchant), ("merchant_type", text? row.merchantType),
        ("amount", row.amount), ("location", text? row.location), ("category", text? row.category)])
  | table => throw (.noTable table)

/-- What the columns of a new row hold that a statement does not name. -/
def blank : String → Record
  | "categories" => [("name", .null), ("description", .text "")]
  | "rules" => [("name", .null), ("condition_expression", .null), ("priority", .int 0),
      ("active", .int 1), ("customer_id", .null), ("category_id", .null)]
  | _ => [("merchant", .null), ("merchant_type", .null), ("amount", .null), ("location", .null),
      ("category", .null)]

def cellOf (record : Record) (column : String) : Cell := (record.lookup column).getD .null

/-- Puts a row into a table; the references between the tables are not looked at. -/
def putRecord (db : Database) (table : String) (id : Int) (record : Record) :
    Except StoreError Database := do
  let cell := cellOf record
  match table with
  | "categories" =>
    db.putCategory id (← CategoryRow.ofCells (cell "name") (cell "description"))
  | "rules" =>
    let row ← RuleRow.ofCells (cell "name") (cell "condition_expression") (cell "priority")
      (cell "active") (cell "customer_id") (cell "category_id")
    return { db with rules := db.rules.put id row }
  | _ =>
    return db.putTransaction id (.ofCells (cell "merchant") (cell "merchant_type")
      (cell "amount") (cell "location") (cell "category"))

def eraseRecord (db : Database) (table : String) (id : Int) : Database :=
  match table with
  | "categories" => { db with categories := db.categories.erase id }
  | "rules" => { db with rules := db.rules.erase id }
  | _ => { db with transactions := db.transactions.erase id }

/-- An id for a new row of a table. -/
def freshId (db : Database) (table : String) : Except StoreError Int :=
  let id := match table with
    | "categories" => db.categories.fresh?
    | "rules" => db.rules.fresh?
    | _ => db.transactions.fresh?
  (id.map .ok).getD (.error .full)

/-- Whether every category that a rule names is there. -/
def referencesHold (db : Database) : Bool :=
  db.rules.rows.all fun (_, row) => db.hasReference row.category

end Database

namespace ColumnTest

/-- Whether a column holds numbers. -/
def isNumeric (column : String) : Bool :=
  ["id", "priority", "active", "category_id", "amount"].contains column

/-- Whether a test holds of what its column has. -/
def holds (t : ColumnTest) (c : Cell) : Bool :=
  let value := if isNumeric t.column then t.value.asNumber
    else match t.value.asText? with
      | some s => .text s
      | none => .null
  match c, value with
  | .null, .null => !t.strict && t.comparison.holds .eq
  | .null, _ | _, .null => !t.strict && t.comparison == .ne
  | c, value => t.comparison.holds (c.order value)

end ColumnTest

namespace Statement

/-- The columns of a record, the id among them. -/
def columnsOf (id : Int) (record : Record) : Record := ("id", .int id) :: record

/-- Refuses a column that a table does not have. -/
def checkColumns (table : String) (columns : List String) : Except StoreError Unit :=
  columns.forM fun column =>
    if column == "id" || (Database.blank table).any (·.1 == column) then .ok ()
    else .error (.noColumn column)

/-- The rows of a table that pass some tests. -/
def select (db : Database) (table : String) (tests : List ColumnTest) :
    Except StoreError (List (Int × Record)) := do
  let rows ← db.records table
  checkColumns table (tests.map (·.column))
  return rows.filter fun (id, record) =>
    tests.all fun t => t.holds (Database.cellOf (columnsOf id record) t.column)

/-- A record with some columns changed. -/
def assign (record changes : Record) : Record :=
  record.map fun (column, c) => (column, (changes.lookup column).getD c)

/-- Puts a row under the id that it names. -/
def placeRecord (db : Database) (table : String) (old : Option Int) (record : Record) :
    Except StoreError Database := do
  let id ← match record.lookup "id", old with
    | some .null, none | none, none => db.freshId table
    | some c, _ => (c.asId?.map .ok).getD (.error .idMismatch)
    | none, some id => pure id
  let taken := (← db.records table).any (·.1 == id)
  if taken && old != some id then throw (.notUnique table "id")
  let db := match old with
    | some old => if old = id then db else db.eraseRecord table old
    | none => db
  db.putRecord table id record

/-- Carries a statement out, and gives the number of rows that it concerns. -/
def run (db : Database) : Statement → Except StoreError (Database × Int)
  | .update table changes tests => do
    let rows ← select db table tests
    checkColumns table (changes.map (·.1))
    let db ← rows.foldlM (fun db (id, record) =>
      placeRecord db table (some id) (assign (columnsOf id record) changes)) db
    return (db, rows.length)
  | .delete table tests => do
    let rows ← select db table tests
    return (rows.foldl (fun db (id, _) => db.eraseRecord table id) db, rows.length)
  | .insert table record => do
    let _ ← db.records table
    checkColumns table (record.map (·.1))
    let id := match record.lookup "id" with
      | some c => [("id", c)]
      | none => []
    let db ← placeRecord db table none (id ++ assign (Database.blank table) record)
    return (db, 1)

/-- Carries out the statement that a text is. -/
def execute (s : String) : Change Int := do
  match ofText? s with
  | none => throw (.statement s)
  | some statement =>
    let (db, count) ← Change.ofExcept (statement.run (← get))
    if db.referencesHold then
      set db
      return count
    else throw .foreignKey

end Statement

end TransactionRules
