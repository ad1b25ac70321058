import TransactionRules.Settings.Error
import TransactionRules.Settings.Defaults

/-!
# Settings

A user's file takes the place of the packaged file of the same name. The settings proper are merged
instead: what the user sets overrides the defaults, at every depth.
-/

namespace TransactionRules

/-- Where the library runs: the files, the folder of the user's settings, and the engine that the
environment asks for. -/
structure Surroundings where
  files : Files := {}
  userFolder : Option Path := some (.ofText "config")
  engine : Option String := none
deriving Inhabited, Repr

namespace Settings

/-- The entries with `v` under `key`. -/
def put (key : String) (v : Value) (entries : List (String × Value)) : List (String × Value) :=
  Json.put key v entries

mutual

/-- Each entry of `override` in the place of the one in `base`; maps in the same place are merged. -/
def merge (base : List (String × Value)) : List (String × Value) → List (String × Value)
  | [] => base
  | (key, v) :: rest => merge (put key (mergeValue (Value.ofKey? base key) v) base) rest

def mergeValue (old : Option Value) : Value → Value
  | .map entries => match old with
    | some (.map base) => .map (merge base entries)
    | _ => .map entries
  | v => v

end

/-- The entries of a value that is a map, or that lists pairs. -/
def entriesOf (v : Value) : Except ShapeError (List (String × Value)) :=
  match v with
  | .map entries => .ok entries
  | v => do
    let items ← v.elements
    let pairs ← items.zipIdx.mapM fun (item, index) =>
      match item.elements with
      | .error _ => .error (.notSequence index)
      | .ok [key, w] =>
        if key.isHashable then .ok (key.plain, w) else .error (.notHashable key.kind)
      | .ok parts => .error (.notPair index parts.length)
    return pairs.foldl (fun entries (key, w) => put key w entries) []

/-- `merge` for values that should be maps. -/
def mergeValues (base override : Value) : Except ShapeError Value := do
  let base ← entriesOf base
  match override with
  | .map entries => return .map (merge base entries)
  | v => .error (.noOperation v.kind "items")

def parse (source : String) : Except SettingsError Value :=
  match Json.read source with
  | .ok v => .ok v
  | .error e => .error (.malformed source e)

/-- The user's file of a name, if there is one. -/
def userFile? (s : Surroundings) (name : String) : Except SettingsError (Option String) :=
  match s.userFolder with
  | none => .ok none
  | some folder =>
    let path := folder.join (.ofText name)
    match s.files.entry path with
    | .absent => .ok none
    | _ => match s.files.read path with
      | .ok text => .ok (some text)
      | .error e => .error (.file e)

/-- The packaged files stand in a folder of their own. -/
def packagedFolder : Path := .ofText "<defaults>"

/-- The file of a name: the user's, or else the packaged one. -/
def load (s : Surroundings) (name : String) : Except SettingsError Value := do
  match ← userFile? s name with
  | some text => parse text
  | none =>
    let path := Path.ofText name
    match packaged.lookup path.text with
    | some v => return v
    | none =>
      if Files.isAbove path.parts && !path.absolute then
        .error (.file (.isFolder (packagedFolder.join path)))
      else
        let user := (s.userFolder.getD (.ofText "config")).join path
        .error (.notFound name user.text (packagedFolder.join path).text)

/-- `load` for a name that a caller hands in. -/
def loadNamed (s : Surroundings) : Value → Except SettingsError Value
  | .text name => load s name
  | v => .error (.shape (.notJoinable v.kind))

/-- The settings: the packaged ones under the user's. -/
def current (s : Surroundings) : Except SettingsError Value := do
  match ← userFile? s "settings.json" with
  | none => return .map defaults
  | some text =>
    match mergeValues (.map defaults) (← parse text) with
    | .ok v => return v
    | .error e => .error (.shape e)

def seedPlan (s : Surroundings) : Except SettingsError Value := load s "seed_data.json"

end Settings

end TransactionRules
