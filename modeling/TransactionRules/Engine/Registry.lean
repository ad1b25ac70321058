import TransactionRules.Engine.Catalogue
import TransactionRules.Order.Insertion
import TransactionRules.Settings.Basic
import TransactionRules.Text.Case

/-!
# The registry of engines

Engines are created by the name of their type. A name is bound to one class and stays bound to it;
an empty registry is filled from the settings when the first engine is asked for.
-/

namespace TransactionRules

inductive RegistryError where
  | notEngineClass (shown : String)
  | alreadyRegistered (type : Value)
  | notRegistered (type : String) (available : List String)
  | noInstances
  | className (e : ClassNameError)
  | shape (e : ShapeError)
  | settings (e : SettingsError)
  /-- A name in a list of names is no text. -/
  | notName (index : Nat) (kind : ValueKind)
  | fault (f : Fault)
deriving Repr

def EngineClass.shown : EngineClass → String
  | .engine e => s!"<class '{Catalogue.home}.engine.{e.name}.{e.className}'>"
  | .abstract => Catalogue.classText (Catalogue.home ++ ".engine.base") "EvaluationEngine"
  | .other shown => shown

namespace RegistryError

def message : RegistryError → String
  | .notEngineClass shown => s!"{shown} must inherit from EvaluationEngine"
  | .alreadyRegistered type => s!"Engine '{type.plain}' is already registered"
  | .notRegistered type available =>
    s!"No engine registered for '{type}'. Available engines: " ++ ", ".intercalate available
  | .noInstances =>
    "Can't instantiate abstract class EvaluationEngine with abstract methods apply, build"
  | .className e => e.message
  | .shape e => e.message
  | .settings e => e.message
  | .notName index kind => s!"sequence item {index}: expected str instance, {kind.label} found"
  | .fault f => f.message

end RegistryError

/-- Classes under the names of their types, in the order of registration. -/
structure Registry where
  classes : List (Value × EngineClass) := []
deriving Inhabited, Repr

namespace Registry

def lookup? (r : Registry) (type : Value) : Option EngineClass :=
  (r.classes.find? (·.1.equal type)).map (·.2)

/-- Binds a name to a class, unless another class has it. -/
def register (r : Registry) (type : Value) (c : EngineClass) : Except RegistryError Registry :=
  match c with
  | .other shown => .error (.notEngineClass shown)
  | c =>
    if !type.isHashable then .error (.fault (.notHashable type.kind))
    else match r.lookup? type with
      | none => .ok ⟨r.classes ++ [(type, c)]⟩
      | some d => if c = d then .ok r else .error (.alreadyRegistered type)

/-- The registered names in order. -/
def available (r : Registry) : Except Fault (List Value) :=
  Insertion.sort (Value.ordered .lt) (r.classes.map (·.1))

/-- Registers what a list of settings names, up to the first entry that cannot be registered. -/
def registerAll (r : Registry) : List Value → Registry × Except RegistryError Unit
  | [] => (r, .ok ())
  | entry :: rest =>
    let registered : Except RegistryError Registry := do
      let name ← (entry.require "class").mapError .shape
      let c ← (Catalogue.find name.plain).mapError .className
      let type ← (entry.require "type").mapError .shape
      r.register type c
    match registered with
    | .ok r => r.registerAll rest
    | .error e => (r, .error e)

/-- Registers the engines of some settings. -/
def loadFrom (r : Registry) (settings : Value) : Registry × Except RegistryError Unit :=
  match settings.get? "engines" with
  | .error e => (r, .error (.shape e))
  | .ok none => (r, .ok ())
  | .ok (some list) => match list.elements with
    | .error e => (r, .error (.shape e))
    | .ok entries => r.registerAll entries

/-- `loadFrom` the current settings. -/
def load (r : Registry) (s : Surroundings) : Registry × Except RegistryError Unit :=
  match Settings.current s with
  | .error e => (r, .error (.settings e))
  | .ok settings => r.loadFrom settings

/-- The type of engine to use where none is named, by some settings. -/
def defaultTypeOf (s : Surroundings) (settings : Except SettingsError Value) :
    Except RegistryError Value :=
  match s.engine with
  | some name => if name.isEmpty then ofSettings else .ok (.text name)
  | none => ofSettings
where
  ofSettings : Except RegistryError Value := do
    let type ← ((← settings.mapError .settings).get? "engine").mapError .shape
    return type.getD (.text Engine.forwardChaining.name)

def defaultType (s : Surroundings) : Except RegistryError Value :=
  defaultTypeOf s (Settings.current s)

/-- The names as one text needs them. -/
def names (types : List Value) : Except RegistryError (List String) :=
  types.zipIdx.mapM fun (type, index) =>
    match type with
    | .text s => .ok s
    | v => .error (.notName index v.kind)

/-- The engine of a type; the name is compared in small letters and without margins. -/
def createNamed (r : Registry) (type : Value) : List Event × Except RegistryError Engine :=
  match type with
  | .text s =>
    let name := smallLetters (withoutMargins s)
    match r.lookup? (.text name) with
    | some c =>
      ([.engineChosen name], match c with
        | .engine e => .ok e
        | _ => .error .noInstances)
    | none =>
      ([], do
        let types ← r.available.mapError .fault
        .error (.notRegistered name (← names types)))
  | v => ([], .error (.shape (.noOperation v.kind "strip")))

/-- The engine of a type, or of the default type. -/
def create (r : Registry) (s : Surroundings) (type : Option Value) :
    Registry × List Event × Except RegistryError Engine :=
  let (r, loaded) := if r.classes.isEmpty then r.load s else (r, .ok ())
  match loaded with
  | .error e => (r, [], .error e)
  | .ok () =>
    match type.elim (defaultType s) .ok with
    | .error e => (r, [], .error e)
    | .ok type =>
      let (events, result) := r.createNamed type
      (r, events, result)

end Registry

end TransactionRules
