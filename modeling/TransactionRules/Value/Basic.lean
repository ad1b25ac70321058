import TransactionRules.Number.Notation
import TransactionRules.Text.Quoted

/-!
# Values

What a field of a transaction or a rule, or a place in a settings file, may hold. Callers hand in
whatever they have, so a field may hold a value of a type that its use does not allow; such a use
ends in a `Fault`.
-/

namespace TransactionRules

inductive Value where
  | null
  | bool (b : Bool)
  | int (n : Int)
  | float (x : Float)
  | text (s : String)
  | list (items : List Value)
  | map (entries : List (String × Value))
deriving Inhabited, Repr

/-- The types of values. -/
inductive ValueKind where
  | null | bool | int | float | text | list | map
deriving DecidableEq, Repr

/-- The name of a type in messages. -/
def ValueKind.label : ValueKind → String
  | .null => "NoneType"
  | .bool => "bool"
  | .int => "int"
  | .float => "float"
  | .text => "str"
  | .list => "list"
  | .map => "dict"

namespace Value

def kind : Value → ValueKind
  | .null => .null
  | .bool _ => .bool
  | .int _ => .int
  | .float _ => .float
  | .text _ => .text
  | .list _ => .list
  | .map _ => .map

def isNull : Value → Bool
  | .null => true
  | _ => false

/-- Null, false, zero and the empty text, list and map do not hold. -/
def truthy : Value → Bool
  | .null => false
  | .bool b => b
  | .int n => n != 0
  | .float x => match Exact.ofFloat x with
    | .finite m _ => m != 0
    | _ => true
  | .text s => s != ""
  | .list items => !items.isEmpty
  | .map entries => !entries.isEmpty

/-- Numbers by the quantity they stand for; the booleans are the numbers zero and one. -/
def quantity? : Value → Option Exact
  | .bool b => some (.ofInt (if b then 1 else 0))
  | .int n => some (.ofInt n)
  | .float x => some (.ofFloat x)
  | _ => none

/-- `v`, or `other` if `v` does not hold. -/
def orElse (v other : Value) : Value := if v.truthy then v else other

mutual

/-- A value inside a message: texts in quotes. -/
def shown : Value → String
  | .null => "None"
  | .bool b => if b then "True" else "False"
  | .int n => toString n
  | .float x => FloatStyle.display.write x
  | .text s => quoted s
  | .list items => "[" ++ ", ".intercalate (shownItems items) ++ "]"
  | .map entries => "\x7b" ++ ", ".intercalate (shownEntries entries) ++ "\x7d"

def shownItems : List Value → List String
  | [] => []
  | v :: rest => v.shown :: shownItems rest

def shownEntries : List (String × Value) → List String
  | [] => []
  | (key, v) :: rest => (quoted key ++ ": " ++ v.shown) :: shownEntries rest

end

/-- A value as part of a text: a text is itself. -/
def plain : Value → String
  | .text s => s
  | v => v.shown

/-- The entry of a map under a key. -/
def ofKey? (entries : List (String × Value)) (key : String) : Option Value :=
  (entries.find? (·.1 == key)).map (·.2)

end Value

end TransactionRules
