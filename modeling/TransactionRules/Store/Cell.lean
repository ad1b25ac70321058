import TransactionRules.Number.Reading
import TransactionRules.Store.Error
import TransactionRules.Value.Order

/-!
# Cells

What a column of a table holds. A column has a preferred type and converts what it is given to that
type if nothing is lost; a text stays a text in a column of numbers unless all of it is a number.
-/

namespace TransactionRules

inductive Cell where
  | null
  | int (n : Int)
  | real (x : Float)
  | text (s : String)
deriving Inhabited, Repr

namespace Cell

/-- Whether a whole number has at most 64 bits. -/
def isWord (n : Int) : Bool := -0x8000000000000000 ≤ n && n < 0x8000000000000000

/-- The cell for a value; no column holds what is not a number. -/
def bind (position : Nat) : Value → Except StoreError Cell
  | .null => .ok .null
  | .bool b => .ok (.int (if b then 1 else 0))
  | .int n => if isWord n then .ok (.int n) else .error .tooLarge
  | .float x => match Exact.ofFloat x with
    | .nan => .ok .null
    | _ => .ok (.real x)
  | .text s => .ok (.text s)
  | v => .error (.notStorable position v.kind)

def toValue : Cell → Value
  | .null => .null
  | .int n => .int n
  | .real x => .float x
  | .text s => .text s

theorem bind_toValue_int (position : Nat) (n : Int) (h : isWord n) :
    bind position (toValue (.int n)) = .ok (.int n) := by
  simp only [toValue, bind]
  exact if_pos h

/-- A real as a whole number, if it is one between the least and the greatest. -/
def wholeOrReal (x : Float) : Cell :=
  match Exact.ofFloat x with
  | .finite m e => match Exact.whole? m e with
    | some n => if isWord (n - 1) ∧ isWord (n + 1) then .int n else .real x
    | none => .real x
  | _ => .real x

/-- A blank around a number in a cell. -/
def isSpace (c : Char) : Bool := c == ' ' || (0x09 ≤ c.toNat && c.toNat ≤ 0x0d)

/-- The number that a text spells from end to end, blanks aside. -/
def numeric? (s : String) : Option Cell :=
  let cs := ((s.toList.dropWhile isSpace).reverse.dropWhile isSpace).reverse
  let (negative, digits) := NumberText.signed cs
  (Decimal.ofChars? digits).map fun d =>
    let n := NumberText.wholeOf negative digits
    if digits.all Char.isDigit ∧ isWord n then .int n
    else wholeOrReal (d.toFloat negative)

/-- A cell in a column of numbers. -/
def asNumber : Cell → Cell
  | .real x => wholeOrReal x
  | .text s => (numeric? s).getD (.text s)
  | c => c

/-- A cell in a column of reals. -/
def asReal (c : Cell) : Cell :=
  match c.asNumber with
  | .int n => .real (Exact.nearestFloat (n < 0) n.natAbs 1)
  | c => c

/-- A cell in a column of texts. -/
def asText? : Cell → Option String
  | .null => none
  | .int n => some (toString n)
  | .real x => some (FloatStyle.column.write x)
  | .text s => some s

/-- A cell as the id of a row. -/
def asId? (c : Cell) : Option Int :=
  match c.asNumber with
  | .int n => some n
  | _ => none

@[simp] theorem asId?_int (n : Int) : asId? (.int n) = some n := rfl

@[simp] theorem asText?_text (s : String) : asText? (.text s) = some s := rfl

/-- The value of a column of texts. -/
def ofText? (s : Option String) : Value :=
  match s with
  | some s => .text s
  | none => .null

/-- Numbers come before texts, and nothing before numbers. -/
def order (a b : Cell) : Ordering :=
  match a, b with
  | .text s, .text t => textOrder s t
  | .null, .null => .eq
  | .null, _ => .lt
  | _, .null => .gt
  | .text _, _ => .gt
  | _, .text _ => .lt
  | a, b => match a.toValue.quantity?, b.toValue.quantity? with
    | some x, some y => (x.order y).getD .eq
    | _, _ => .eq

/-- A flag holds unless it is zero, or nothing. -/
def holds : Cell → Bool
  | .null => false
  | c => c.toValue.truthy

end Cell

end TransactionRules
