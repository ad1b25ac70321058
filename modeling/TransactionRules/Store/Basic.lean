import TransactionRules.Event
import TransactionRules.Store.Database

/-!
# The store

A store is a database at a path and the connection to it, which is opened by the first statement.
Every write is all or nothing.
-/

namespace TransactionRules

structure Store where
  path : String
  database : Database := {}
  isOpen : Bool := false
  /-- Why what stands at the path is no database, if it is none. -/
  defect : Option StoreError := none
deriving Inhabited

namespace Store

variable {α : Type}

def close (s : Store) : Store := { s with isOpen := false }

/-- Opens the connection, unless it is open. -/
def connect (s : Store) : Store × Except StoreError Unit :=
  match s.defect with
  | some .cannotOpen => (s, .error .cannotOpen)
  | _ => ({ s with isOpen := true }, .ok ())

/-- What is reported when a store has come from `before` to `after`. -/
def reports (before after : Store) : List Event :=
  if !before.isOpen && after.isOpen then [.databaseOpened after.path] else []

/-- A statement that changes nothing. -/
def read (s : Store) (query : Database → Except StoreError α) : Store × Except StoreError α :=
  match s.connect with
  | (s, .error e) => (s, .error e)
  | (s, .ok ()) => match s.defect with
    | some e => (s, .error e)
    | none => (s, query s.database)

/-- All statements of a change, or none of them. -/
def write (s : Store) (act : Change α) : Store × Except StoreError α :=
  match s.connect with
  | (s, .error e) => (s, .error e)
  | (s, .ok ()) =>
    let (r, database) := act.atomically.result s.database
    match s.defect, r with
    | some e, .ok _ | some e, .error (.noTable _) => (s, .error e)
    | _, r => ({ s with database := database }, r)

/-- Creates the tables, unless they are there. -/
def createTables (s : Store) : Store × Except StoreError Unit :=
  s.write (modify Database.create)

/-- The version of the tables, if they are there. -/
def schemaVersion (s : Store) : Store × Except StoreError (Option Int) :=
  s.read fun db => .ok (if db.created then some Database.version else none)

end Store

end TransactionRules
