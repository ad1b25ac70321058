import TransactionRules.Value.Basic

/-!
# Comparing and using values

Equality is defined between all values: numbers are equal as quantities, all else only within its
type. Order is defined between two numbers, two texts and two lists; negation on numbers; the text
methods on texts. Every other use is a `Fault`, which says what was used and how.
-/

namespace TransactionRules

inductive Comparison where
  | eq | ne | lt | le | gt | ge
deriving DecidableEq, Repr

namespace Comparison

def symbol : Comparison → String
  | .eq => "=="
  | .ne => "!="
  | .lt => "<"
  | .le => "<="
  | .gt => ">"
  | .ge => ">="

/-- Whether a comparison holds of two operands in this order. -/
def holds : Comparison → Ordering → Bool
  | .eq, o => o == .eq
  | .ne, o => o != .eq
  | .lt, o => o == .lt
  | .le, o => o != .gt
  | .gt, o => o == .gt
  | .ge, o => o != .lt

end Comparison

/-- The methods that a condition may call on a field. -/
inductive TextMethod where
  | contains | startsWith | endsWith
deriving DecidableEq, Repr

namespace TextMethod

/-- The method as a condition writes it. -/
def name : TextMethod → String
  | .contains => "contains"
  | .startsWith => "startsWith"
  | .endsWith => "endsWith"

/-- The method as messages about values name it. -/
def label (m : TextMethod) : String := m.name.toLower

def ofName? : String → Option TextMethod
  | "contains" => some .contains
  | "startsWith" => some .startsWith
  | "endsWith" => some .endsWith
  | _ => none

theorem ofName?_name (m : TextMethod) : ofName? m.name = some m := by cases m <;> rfl

end TextMethod

/-- A use of a value that its type does not allow. -/
inductive Fault where
  /-- No order is defined between the two types. -/
  | notOrdered (c : Comparison) (left right : ValueKind)
  | notNegatable (kind : ValueKind)
  /-- The target of a containment test is neither a text nor a list or map. -/
  | notContainer (kind : ValueKind)
  /-- A text can only contain a text. -/
  | notContained (kind : ValueKind)
  | noMethod (kind : ValueKind) (m : TextMethod)
  | badAffix (m : TextMethod) (kind : ValueKind)
  | notHashable (kind : ValueKind)
  /-- A condition that is neither a text nor empty. -/
  | notText (kind : ValueKind)
  /-- Only a text or a list has a leading part. -/
  | notSliceable (kind : ValueKind)
deriving DecidableEq, Repr

namespace Fault

/-- The kind of a fault, as logs name it. -/
def label : Fault → String
  | .noMethod .. => "AttributeError"
  | _ => "TypeError"

def message : Fault → String
  | .notOrdered c left right =>
    s!"'{c.symbol}' not supported between instances of '{left.label}' and '{right.label}'"
  | .notNegatable kind => s!"bad operand type for unary -: '{kind.label}'"
  | .notContainer kind => s!"argument of type '{kind.label}' is not iterable"
  | .notContained kind => s!"'in <string>' requires string as left operand, not {kind.label}"
  | .noMethod kind m => s!"'{kind.label}' object has no attribute '{m.label}'"
  | .badAffix m kind => s!"{m.label} first arg must be str or a tuple of str, not {kind.label}"
  | .notHashable kind => s!"unhashable type: '{kind.label}'"
  | .notText kind => s!"expected string or bytes-like object, got '{kind.label}'"
  | .notSliceable .map => "unhashable type: 'slice'"
  | .notSliceable kind => s!"'{kind.label}' object is not subscriptable"

end Fault

/-- Texts are ordered by code points. -/
def textOrder (a b : String) : Ordering := if a < b then .lt else if a = b then .eq else .gt

/-- Whether `needle` stands somewhere in `hay`. -/
def isPartOf (needle : List Char) : List Char → Bool
  | [] => needle.isEmpty
  | c :: cs => needle.isPrefixOf (c :: cs) || isPartOf needle cs

namespace Value

mutual

def equal : Value → Value → Bool
  | .null, .null => true
  | .text a, .text b => a == b
  | .list a, .list b => equalItems a b
  | .map a, .map b => a.length == b.length && equalEntries a b
  | a, b => match a.quantity?, b.quantity? with
    | some x, some y => x.order y == some .eq
    | _, _ => false

def equalItems : List Value → List Value → Bool
  | [], [] => true
  | a :: as, b :: bs => equal a b && equalItems as bs
  | _, _ => false

/-- Every entry of the first map is in the second. -/
def equalEntries : List (String × Value) → List (String × Value) → Bool
  | [], _ => true
  | (key, v) :: rest, other =>
    (match ofKey? other key with
      | some w => equal v w
      | none => false) && equalEntries rest other

end

mutual

/-- The order relations `<`, `<=`, `>`, `>=` (and the same scheme for `==` and `!=` on numbers). -/
def ordered (c : Comparison) : Value → Value → Except Fault Bool
  | .text a, .text b => .ok (c.holds (textOrder a b))
  | .list a, .list b => orderedItems c a b
  | a, b => match a.quantity?, b.quantity? with
    | some x, some y => .ok ((x.order y).any c.holds)
    | _, _ => .error (.notOrdered c a.kind b.kind)

/-- Lists are ordered by the first items that differ, then by length. -/
def orderedItems (c : Comparison) : List Value → List Value → Except Fault Bool
  | [], [] => .ok (c.holds .eq)
  | [], _ :: _ => .ok (c.holds .lt)
  | _ :: _, [] => .ok (c.holds .gt)
  | a :: as, b :: bs => if equal a b then orderedItems c as bs else ordered c a b

end

/-- Equality never fails; the order relations fail between values that have no order. -/
def compare (c : Comparison) (a b : Value) : Except Fault Bool :=
  match c with
  | .eq => .ok (equal a b)
  | .ne => .ok (!equal a b)
  | c => ordered c a b

def negate : Value → Except Fault Value
  | .bool b => .ok (.int (if b then -1 else 0))
  | .int n => .ok (.int (-n))
  | .float x => .ok (.float (-x))
  | v => .error (.notNegatable v.kind)

/-- Whether a value may be looked up as a key. -/
def isHashable : Value → Bool
  | .list _ | .map _ => false
  | _ => true

/-- `arg` in `target`: a part of a text, an item of a list, a key of a map. -/
def contains (target arg : Value) : Except Fault Bool :=
  match target with
  | .text s => match arg with
    | .text t => .ok (isPartOf t.toList s.toList)
    | v => .error (.notContained v.kind)
  | .list items => .ok (items.any (equal arg))
  | .map entries =>
    if arg.isHashable then .ok (entries.any fun (key, _) => equal arg (.text key))
    else .error (.notHashable arg.kind)
  | v => .error (.notContainer v.kind)

/-- Whether a text starts or ends with another one. -/
def affix (m : TextMethod) (test : List Char → List Char → Bool) (target arg : Value) :
    Except Fault Bool :=
  match target with
  | .text s => match arg with
    | .text t => .ok (test t.toList s.toList)
    | v => .error (.badAffix m v.kind)
  | v => .error (.noMethod v.kind m)

def call : TextMethod → Value → Value → Except Fault Bool
  | .contains => contains
  | .startsWith => affix .startsWith List.isPrefixOf
  | .endsWith => affix .endsWith List.isSuffixOf

end Value

end TransactionRules
