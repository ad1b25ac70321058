import TransactionRules.CommandLine.Command
import TransactionRules.CommandLine.Report

/-!
# The application

What lasts from one command to the next: the files, the logs, the engines, and the classifier with
its store, which the first command makes. A command line is looked at in three steps: the options of
the program, its preparation, and the words of the command; the first step that fails ends it.
-/

namespace TransactionRules

structure App where
  around : Surroundings := {}
  logging : Logging := {}
  registry : Registry := {}
  classifier : Option Classifier := none
  /-- What the database held before the first command. -/
  found : Database := {}
deriving Inhabited

/-- What the log needs to know from outside: the time, and how long a build takes. -/
structure Clock where
  time : String
  elapsed : String
deriving Repr

/-- How a command ends. -/
inductive Ending where
  | done
  | failed
  /-- The words are no command. -/
  | misused (e : UsageError)
  | helped
  /-- The program could not be prepared. -/
  | crashed (e : CommandError)
deriving Repr

namespace Ending

/-- The exit status of a process. -/
def status : Ending → Nat
  | .done | .helped => 0
  | .failed | .crashed _ => 1
  | .misused _ => 2

end Ending

namespace App

/-- The path of the store in some settings. -/
def storePath (settings : Value) : Except ShapeError Path := do
  let database := (← settings.get? "database").getD (.map [])
  match (← database.get? "path").getD (.text "data/rules.db") with
  | .text path => return .ofText path
  | v => throw (.notPath v.kind)

/-- The store at a path, in a folder that is made if it is not there. -/
def storeAt (fs : Files) (path : Path) (found : Database) : Except FileError (Files × Store) := do
  let fs ← fs.makeFolder path.parent
  let defect : Option StoreError := match fs.entry path with
    | .folder => some .cannotOpen
    | .file text => if text.isEmpty then none else some .notDatabase
    | .absent => none
  return (fs, { path := path.text, database := found, defect := defect })

/-- Hands events to the log. -/
def report (app : App) (clock : Clock) (events : List Event) : App :=
  let (logging, files) := app.logging.emitAll app.around.files clock.time clock.elapsed events
  { app with logging := logging, around := { app.around with files := files } }

def withFiles (app : App) (files : Files) : App :=
  { app with around := { app.around with files := files } }

/-- Sets the log up as the settings say. -/
def setupLogging (app : App) (verbose : Bool) (settings : Value) :
    App × Except CommandError Unit :=
  let wanted : Except ShapeError (Value × Value) := do
    let logging := (← settings.get? "logging").getD (.map [])
    let level ← if verbose then pure (some (.text "DEBUG")) else logging.get? "level"
    return (level.getD (.text "WARNING"), (← logging.get? "file").getD .null)
  match wanted with
  | .error e => (app, .error (.shape e))
  | .ok (level, file) =>
    let (logging, files, r) := app.logging.setup app.around.files level file
    ({ app with logging := logging }.withFiles files, r.mapError .log)

/-- Makes the classifier and its store. -/
def setupClassifier (app : App) (clock : Clock) (engine : Option Engine) (settings : Value) :
    App × Except CommandError Unit :=
  match storePath settings with
  | .error e => (app, .error (.shape e))
  | .ok path =>
    match storeAt app.around.files path app.found with
    | .error e => (app, .error (.file e))
    | .ok (files, store) =>
      let app := app.withFiles files
      let type := engine.map fun e => Value.text e.name
      let (registry, events, r) := app.registry.create app.around type
      let app := { app with registry := registry }.report clock events
      match r with
      | .error e => (app, .error (.registry e))
      | .ok engine => ({ app with classifier := some (.ofEngine store registry engine) }, .ok ())

/-- Prepares the program for a command. -/
def prepare (app : App) (clock : Clock) (engine : Option Engine) (verbose : Bool) :
    App × Except CommandError Unit :=
  match Settings.current app.around with
  | .error e => (app, .error (.settings e))
  | .ok settings =>
    match app.setupLogging verbose settings with
    | (app, .error e) => (app, .error e)
    | (app, .ok ()) =>
      if app.classifier.isSome then (app, .ok ())
      else app.setupClassifier clock engine settings

/-- Work of a command on the classifier: what it printed stays printed when it fails, and what it
reported stays reported. -/
abbrev Work (α : Type) := ExceptT CommandError (StateM (Classifier × List Printed × List Event)) α

namespace Work

variable {α : Type}

def ofExcept (r : Except CommandError α) : Work α := ExceptT.mk (pure r)

def print (p : Printed) : Work Unit := do
  let (c, printed, events) ← get
  set (c, printed ++ [p], events)

/-- An operation of the classifier. -/
def classifier (op : Classifier → Classifier × List Event × Except CommandError α) : Work α := do
  let (c, printed, events) ← get
  let (c, more, r) := op c
  set (c, printed, events ++ more)
  ofExcept r

/-- An operation of the store. -/
def store (op : Store → Store × Except StoreError α) : Work α :=
  classifier fun c =>
    let (s, r) := op c.store
    ({ c with store := s }, c.store.reports s, r.mapError .store)

/-- A classification of the transactions of a pool. -/
def classifying (op : Classifier → Classifier × Pool × List Event × Except ClassifierError Unit) :
    Work Pool :=
  classifier fun c =>
    let (c, pool, events, r) := op c
    (c, events, (r.map fun () => pool).mapError .classifier)

/-- Saves transactions of a pool, which then have their ids. -/
def saving (op : Store → Store × Pool × Except StoreError Unit) : Work Pool :=
  store fun s =>
    let (s, pool, r) := op s
    (s, r.map fun () => pool)

/-- The name of the engine in use. -/
def engineName : Work String := do
  let (c, _, _) ← get
  return (c.cache.map (·.engine.name)).getD ""

def initDb (around : Surroundings) (seed : Bool) : Work Unit := do
  store (·.createTables)
  let (c, _, _) ← get
  print (Report.done s!"Schema ready at {c.store.path}")
  if seed then
    let plan ← ofExcept ((Settings.seedPlan around).mapError .settings)
    let count ← classifier fun c =>
      let (s, events, r) := c.store.seed plan
      ({ c with store := s }, events, r.mapError .seed)
    print (Report.done s!"Seeded {count} demo rules")

def rules (around : Surroundings) (customer : String) : Work Unit := do
  let rules ← classifier fun c =>
    let (c, events, r) := c.rulesFor around customer
    (c, events, r.mapError .classifier)
  print (← ofExcept ((Report.rules customer rules).mapError .print))

def classify (around : Surroundings) (customer : String) (t : Transaction) (save : Bool) :
    Work Unit := do
  let pool ← classifying (·.classify around [t] 0 customer)
  let pool ← if save then saving (·.saveTransaction pool 0) else pure pool
  let title := s!"Classified with {← engineName}"
  print (← ofExcept ((Report.transactions pool title).mapError .print))

/-- The transaction of an entry in a file. -/
def transactionOf (entry : Value) : Except ShapeError Transaction := do
  let field (key : String) : Except ShapeError Value := return (← entry.get? key).getD .null
  let id ← field "id"
  let merchant ← field "merchant"
  let other ← field "merchant_type"
  let merchantType := (← entry.get? "merchantType").getD other
  return { id := id, merchant := merchant, merchantType := merchantType
           amount := ← field "amount", location := ← field "location" }

/-- The transactions of a file. -/
def transactionsOf (fs : Files) (path : Path) : Except CommandError Pool := do
  let text ← (fs.read path).mapError .file
  let entries ← (Json.read text).mapError (.malformed text)
  (do (← entries.elements).mapM transactionOf : Except ShapeError Pool).mapError .shape

def classifyBatch (around : Surroundings) (customer : String) (path : Path) (save : Bool) :
    Work Unit := do
  let pool ← ofExcept (transactionsOf around.files path)
  let batch := List.range pool.length
  let pool ← classifying (·.classifyBatch around pool batch customer)
  let pool ← if save then saving (·.saveTransactions pool batch) else pure pool
  let summary : Summary := ⟨customer, ← engineName, pool⟩
  print (← ofExcept ((Report.transactions pool s!"Batch for {customer}").mapError .print))
  (← ofExcept ((Report.summary summary).mapError .print)).forM print

/-- The work that a command asks for. -/
def ofCommand (around : Surroundings) : Command → Work Unit
  | .initDb seed => initDb around seed
  | .rules customer => rules around customer
  | .classify customer t save => classify around customer t save
  | .classifyBatch customer file save => classifyBatch around customer file save

end Work

/-- Carries a command out: what it prints, and how it ends. -/
def carryOut (app : App) (clock : Clock) (verbose : Bool) (command : Command) :
    App × List Printed × Ending :=
  match app.classifier with
  | none => (app, [], .done)
  | some c =>
    let (r, c, printed, events) := (Work.ofCommand app.around command).run.run (c, [], [])
    let app := { app with classifier := some c }.report clock events
    match r with
    | .ok () => (app, printed, .done)
    | .error e =>
      (app, printed ++ Report.failed e :: (if verbose then [.origin e] else []), .failed)

/-- Runs a command line. -/
def run (app : App) (clock : Clock) (words : List String) : App × List Printed × Ending :=
  match Invocation.ofWords words with
  | .error .help => (app, [], .helped)
  | .error (.usage e) => (app, [], .misused e)
  | .ok i =>
    match app.prepare clock i.engine i.verbose with
    | (app, .error e) => (app, [], .crashed e)
    | (app, .ok ()) =>
      match Command.ofWords app.around.files i.command i.words with
      | .error .help => (app, [], .helped)
      | .error (.usage e) => (app, [], .misused e)
      | .ok command => app.carryOut clock i.verbose command

end App

end TransactionRules
