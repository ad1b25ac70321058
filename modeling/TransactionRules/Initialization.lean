import TransactionRules.CommandLine.App

/-!
# Initialization

Creates the store of the settings and loads the demo data, in one go and without a command line.
-/

namespace TransactionRules.Initialization

/-- Where the tables are described. -/
def schemaLabel : String := "<schema>"

/-- What initialization has done so far: the files, the store and the lines that it printed. -/
structure Progress where
  around : Surroundings
  database : Database := {}
  lines : List String := []
deriving Inhabited

/-- Initialization may stop half way. -/
abbrev Task (α : Type) := ExceptT CommandError (StateM Progress) α

namespace Task

variable {α : Type}

def ofExcept (r : Except CommandError α) : Task α := ExceptT.mk (pure r)

def print (line : String) : Task Unit := modify fun p => { p with lines := p.lines ++ [line] }

end Task

/-- The lines at the end, by the version of the tables. -/
def closing (version : Option Int) (added : Nat) : List String :=
  match version with
  | none => ["✗ Schema was not applied"]
  | some version =>
    ["✓ Rule store ready", s!"  Schema version: {version}", s!"  Demo rules inserted: {added}"]

def task : Task Unit := do
  let settings ← Task.ofExcept ((Settings.current (← get).around).mapError .settings)
  let path ← Task.ofExcept ((App.storePath settings).mapError .shape)
  let p ← get
  let (files, store) ← Task.ofExcept
    ((App.storeAt p.around.files path p.database).mapError .file)
  set { p with around := { p.around with files := files } }
  Task.print s!"Initializing rule store at: {path.text}"
  Task.print s!"Executing schema from: {schemaLabel}"
  let (store, created) := store.createTables
  modify ({ · with database := store.database })
  Task.ofExcept (created.mapError .store)
  let plan ← Task.ofExcept ((Settings.seedPlan (← get).around).mapError .settings)
  let (store, _, seeded) := store.seed plan
  modify ({ · with database := store.database })
  let added ← Task.ofExcept (seeded.mapError .seed)
  let version ← Task.ofExcept (store.schemaVersion.2.mapError .store)
  (closing version added).forM Task.print

/-- One initialization: the error that ended it, if one did, and how far it came. -/
def run (around : Surroundings) (database : Database) : Option CommandError × Progress :=
  let (r, progress) := task.run.run { around := around, database := database }
  (match r with
    | .ok () => none
    | .error e => some e, progress)

end TransactionRules.Initialization
