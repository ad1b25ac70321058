import TransactionRules.Files.Basic
import TransactionRules.Json.Reader
import TransactionRules.Value.Order

/-!
# What can be wrong with settings

Settings come from files, so a place in them may hold any value. `ShapeError` is a use of such a
value that its type does not allow; `SettingsError` is also about the files themselves.
-/

namespace TransactionRules

inductive ShapeError where
  /-- The value has no operation of this name. -/
  | noOperation (kind : ValueKind) (name : String)
  | notIterable (kind : ValueKind)
  | notIndexable (kind : ValueKind)
  /-- A text or a list has no entries under keys. -/
  | noKeys (kind : ValueKind)
  | missingKey (key : String)
  | notPath (kind : ValueKind)
  | notHashable (kind : ValueKind)
  /-- An item of a list of entries is no pair. -/
  | notPair (index length : Nat)
  | notSequence (index : Nat)
  | notJoinable (kind : ValueKind)
deriving DecidableEq, Repr

namespace ShapeError

def message : ShapeError → String
  | .noOperation kind name => s!"'{kind.label}' object has no attribute '{name}'"
  | .notIterable kind => s!"'{kind.label}' object is not iterable"
  | .notIndexable kind => s!"'{kind.label}' object is not subscriptable"
  | .noKeys .text => "string indices must be integers, not 'str'"
  | .noKeys _ => "list indices must be integers or slices, not str"
  | .missingKey key => quoted key
  | .notPath kind => s!"expected str, bytes or os.PathLike object, not {kind.label}"
  | .notHashable kind => s!"unhashable type: '{kind.label}'"
  | .notPair index length =>
    s!"dictionary update sequence element #{index} has length {length}; 2 is required"
  | .notSequence index =>
    s!"cannot convert dictionary update sequence element #{index} to a sequence"
  | .notJoinable kind => s!"unsupported operand type(s) for /: 'PosixPath' and '{kind.label}'"

end ShapeError

namespace Value

/-- The entry under a key of what should be a map, where its absence is no error. -/
def get? (v : Value) (key : String) : Except ShapeError (Option Value) :=
  match v with
  | .map entries => .ok (ofKey? entries key)
  | v => .error (.noOperation v.kind "get")

/-- The entry under a key of what should be a map. -/
def require (v : Value) (key : String) : Except ShapeError Value :=
  match v with
  | .map entries => match ofKey? entries key with
    | some w => .ok w
    | none => .error (.missingKey key)
  | .text _ | .list _ => .error (.noKeys v.kind)
  | v => .error (.notIndexable v.kind)

/-- What a value has one after the other: items, characters or keys. -/
def elements : Value → Except ShapeError (List Value)
  | .list items => .ok items
  | .text s => .ok (s.toList.map fun c => .text (String.singleton c))
  | .map entries => .ok (entries.map fun (key, _) => .text key)
  | v => .error (.notIterable v.kind)

end Value

inductive SettingsError where
  | malformed (source : String) (e : Json.Error)
  | shape (e : ShapeError)
  | file (e : FileError)
  | notFound (name : String) (user packaged : String)
deriving Repr

def SettingsError.message : SettingsError → String
  | .malformed source e => e.message source
  | .shape e => e.message
  | .file e => e.message
  | .notFound name user packaged =>
    s!"Config file '{name}' not found in:\n - {user}\n - {packaged}"

end TransactionRules
