import Std.Time.Zoned
import TransactionRules.CommandLine.Layout
import TransactionRules.Store.Archive

/-!
# The program

Reads the files that a command line may need, runs it, and writes back what it left: the log and the
database. All that is decided is decided by `App.run`.
-/

namespace TransactionRules.Program

/-- A number with two digits at least. -/
def twoDigits (n : Nat) : String := if n < 10 then s!"0{n}" else toString n

/-- The time as a record of the log has it. -/
def timeStamp : IO String := do
  let now ← Std.Time.PlainDateTime.now
  let date := now.date
  let time := now.time
  let day := s!"{date.year.toInt}-{twoDigits date.month.val.toNat}-{twoDigits date.day.val.toNat}"
  let hour := s!"{twoDigits time.hour.val.toNat}:{twoDigits time.minute.val.toNat}"
  return s!"{day} {hour}:{twoDigits time.second.val.toNat}"

/-- Adds what stands at a path: a file with its text, or a folder. -/
def look (fs : Files) (path : Path) : IO Files := do
  match fs.locate path with
  | none => return fs
  | some place =>
    try return fs.write place (← IO.FS.readFile path.text)
    catch
      | .noFileOrDirectory .. => return fs
      | _ => return { fs with folders := place :: fs.folders }

/-- Where the program runs, with the files that the words may be about. -/
def surroundings (words : List String) : IO Surroundings := do
  let folder := match ← IO.getEnv "TXN_CLASSIFIER_CONFIG_DIR" with
    | some folder => if folder.isEmpty then "config" else folder
    | none => "config"
  let engine ← IO.getEnv "TXN_CLASSIFIER_ENGINE"
  let folder := Path.ofText folder
  let settings := ["settings.json", "seed_data.json"].map fun name => folder.join (.ofText name)
  let files ← (settings ++ words.map Path.ofText).foldlM look {}
  return { files := files, userFolder := some folder, engine := engine }

/-- The program before its first command. A file that is an archive is the database; any other file
in its place stays what it is. -/
def start (words : List String) : IO App := do
  let around ← surroundings words
  match (Settings.current around).toOption.bind fun settings => (App.storePath settings).toOption with
  | none => return { around := around }
  | some path =>
    let files ← look around.files path
    match (files.read path).toOption.bind Archive.read? with
    | some db => return { around := around, found := db }
    | none => return { around := { around with files := files } }

/-- Makes the folder of a file, and those that it stands in. -/
def makeFolder (path : Path) : IO Unit := IO.FS.createDirAll path.parent.text

/-- Adds what was logged to the files of the log. -/
def writeLog (app : App) : IO Unit := do
  IO.eprint app.logging.errorStream
  for handler in app.logging.handlers do
    match handler.place with
    | none => pure ()
    | some place =>
      let path := Path.ofPlace place
      makeFolder path
      let log ← IO.FS.Handle.mk path.text .append
      log.putStr ((app.around.files.files.lookup place).getD "")

/-- Writes the database, if it has tables. -/
def writeDatabase (app : App) : IO Unit := do
  match app.classifier with
  | none => pure ()
  | some c =>
    let store := c.store
    if store.defect.isNone && store.database.created then
      makeFolder (.ofText store.path)
      IO.FS.writeFile store.path (Archive.write store.database)

def run (words : List String) : IO UInt32 := do
  let app ← start words
  let (app, printed, ending) := app.run ⟨← timeStamp, "0.0"⟩ words
  (printed.flatMap Layout.lines).forM IO.println
  (Layout.ending ending).forM IO.eprintln
  writeLog app
  writeDatabase app
  return ending.status.toUInt32

end TransactionRules.Program

def main (words : List String) : IO UInt32 := TransactionRules.Program.run words
