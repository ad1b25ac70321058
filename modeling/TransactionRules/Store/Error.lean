import TransactionRules.Category
import TransactionRules.Value.Whole

/-!
# What the store refuses

A statement can be refused because of a value, because of a constraint of the tables, or because
what it is about is not there.
-/

namespace TransactionRules

inductive StoreError where
  /-- The tables have not been created. -/
  | noTable (table : String)
  | noColumn (column : String)
  | notNull (table column : String)
  | notUnique (table column : String)
  /-- A rule would name a category that is not there. -/
  | foreignKey
  /-- A row's id is no whole number. -/
  | idMismatch
  /-- All ids have been given out. -/
  | full
  /-- The database cannot be opened, or is none. -/
  | cannotOpen
  | notDatabase
  /-- A whole number has more than 64 bits. -/
  | tooLarge
  /-- No column holds such a value. -/
  | notStorable (position : Nat) (kind : ValueKind)
  | notWhole (e : WholeError)
  | categoryMissing (category : Option Category)
  | categoryUnsaved (category rule : Value)
  | ruleMissing (id : Value)
  | ruleUnsaved
  | statement (near : String)
deriving Repr

namespace StoreError

def message : StoreError → String
  | .noTable table => s!"no such table: {table}"
  | .noColumn column => s!"no such column: {column}"
  | .notNull table column => s!"NOT NULL constraint failed: {table}.{column}"
  | .notUnique table column => s!"UNIQUE constraint failed: {table}.{column}"
  | .foreignKey => "FOREIGN KEY constraint failed"
  | .idMismatch => "datatype mismatch"
  | .full => "database or disk is full"
  | .cannotOpen => "unable to open database file"
  | .notDatabase => "file is not a database"
  | .tooLarge => "Python int too large to convert to SQLite INTEGER"
  | .notStorable position kind =>
    s!"Error binding parameter {position}: type '{kind.label}' is not supported"
  | .notWhole e => e.message
  | .categoryMissing category =>
    let shown := match category with
      | some c => c.shown
      | none => "None"
    s!"Category {shown} does not exist"
  | .categoryUnsaved category rule =>
    s!"Category '{category.plain}' must be saved before rule '{rule.plain}'"
  | .ruleMissing id => s!"Rule with ID {id.plain} not found"
  | .ruleUnsaved => "Cannot update rule without ID"
  | .statement near => s!"near \"{near}\": syntax error"

/-- Whether a constraint of the tables is why a statement was refused. -/
def isConstraint : StoreError → Bool
  | .notNull .. | .notUnique .. | .foreignKey | .idMismatch => true
  | _ => false

end StoreError

end TransactionRules
