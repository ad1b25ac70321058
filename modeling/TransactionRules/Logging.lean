import TransactionRules.Event
import TransactionRules.Settings.Error
import TransactionRules.Text.Case

/-!
# Logging

Records of at least the level of the root go to its handlers: one for the error stream and one for a
file, if a file is set. Setting up again replaces the handlers.
-/

namespace TransactionRules

inductive LogError where
  | shape (e : ShapeError)
  /-- The name of the level is that of something else. -/
  | notLevel (shown : String)
  | file (e : FileError)
deriving Repr

def LogError.message : LogError → String
  | .shape e => e.message
  | .notLevel shown => s!"Unknown level: {shown}"
  | .file e => e.message

/-- Where records go: to the place of a file, or to the error stream. -/
structure LogHandler where
  place : Option (List String)
  level : Int
deriving DecidableEq, Repr

structure Logging where
  rootLevel : Int := 30
  handlers : List LogHandler := []
  errorStream : String := ""
deriving Inhabited, Repr

namespace Logging

/-- The levels that have names. -/
def levels : List (String × Int) :=
  [("CRITICAL", 50), ("FATAL", 50), ("ERROR", 40), ("WARNING", 30), ("WARN", 30), ("INFO", 20),
    ("DEBUG", 10), ("NOTSET", 0)]

/-- A name that is a setting of another kind. -/
def recordFormat : String := "%(levelname)s:%(name)s:%(message)s"

/-- The level of a name in any letter case; what is no name means the level of infos. -/
def levelOf (v : Value) : Except LogError Int :=
  match v with
  | .text s =>
    let name := capitals s
    if name == "BASIC_FORMAT" then .error (.notLevel (quoted recordFormat))
    else .ok ((levels.lookup name).getD 20)
  | v => .error (.shape (.noOperation v.kind "upper"))

/-- The name of a level in a record. -/
def levelName (level : Int) : String :=
  match levels.find? (·.2 == level) with
  | some (name, _) => name
  | none => s!"Level {level}"

/-- The place of a log file, in a folder that is made if it is not there. -/
def openFile (fs : Files) (path : Path) : Except FileError (Files × List String) := do
  let fs ← fs.makeFolder path.parent
  match fs.entry path, fs.locate path with
  | .folder, _ => .error (.isFolder path)
  | _, none => .error (.missing path)
  | _, some place => return (fs.append place "", place)

/-- Sets the level, and replaces the handlers. The level is changed even if the file cannot be
opened; then no handler is left. -/
def setup (log : Logging) (fs : Files) (level file : Value) :
    Logging × Files × Except LogError Unit :=
  match levelOf level with
  | .error e => (log, fs, .error e)
  | .ok n =>
    let bare := { log with rootLevel := n, handlers := [] }
    if !file.truthy then ({ bare with handlers := [⟨none, n⟩] }, fs, .ok ())
    else match file with
      | .text path =>
        match openFile fs (.ofText path) with
        | .ok (fs, place) =>
          ({ bare with handlers := [⟨none, n⟩, ⟨some place, n⟩] }, fs, .ok ())
        | .error e => (bare, fs, .error (.file e))
      | v => (bare, fs, .error (.shape (.notPath v.kind)))

/-- A record as a line. -/
def line (time logger : String) (level : Int) (message : String) : String :=
  s!"{time} [{levelName level}] {logger}: {message}\n"

/-- Hands a record to the handlers. A record of level zero is none. -/
def emit (log : Logging) (fs : Files) (time logger : String) (level : Int) (message : String) :
    Logging × Files :=
  if level ≤ 0 ∨ level < log.rootLevel then (log, fs)
  else
    let text := line time (if logger.isEmpty then "root" else logger) level message
    log.handlers.foldl (fun (log, fs) handler =>
      if level < handler.level then (log, fs)
      else match handler.place with
        | none => ({ log with errorStream := log.errorStream ++ text }, fs)
        | some place => (log, fs.append place text)) (log, fs)

/-- Hands events to the handlers. -/
def emitAll (log : Logging) (fs : Files) (time elapsed : String) (events : List Event) :
    Logging × Files :=
  events.foldl (fun (log, fs) e =>
    log.emit fs time s!"transaction_classifier.{e.source}" e.severity.level (e.message elapsed))
    (log, fs)

end Logging

end TransactionRules
