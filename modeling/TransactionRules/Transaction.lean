import TransactionRules.Value.Order

/-!
# Transactions

A transaction has six fields. Classification writes the category and nothing else.
-/

namespace TransactionRules

structure Transaction where
  merchant : Value := .null
  merchantType : Value := .null
  amount : Value := .null
  location : Value := .null
  category : Value := .null
  id : Value := .null
deriving Inhabited, Repr

/-- The fields that a condition may read. -/
inductive Field where
  | merchant | merchantType | amount | location | category | id
deriving DecidableEq, Repr

namespace Field

/-- The field of a name in a condition. -/
def ofName? : String → Option Field
  | "amount" => some .amount
  | "merchantType" | "merchant_type" => some .merchantType
  | "merchant" => some .merchant
  | "location" => some .location
  | "category" => some .category
  | "id" => some .id
  | _ => none

/-- The name of a field in a condition. -/
def name : Field → String
  | .merchant => "merchant"
  | .merchantType => "merchantType"
  | .amount => "amount"
  | .location => "location"
  | .category => "category"
  | .id => "id"

theorem ofName?_name (f : Field) : ofName? f.name = some f := by cases f <;> rfl

end Field

namespace Transaction

def get (t : Transaction) : Field → Value
  | .merchant => t.merchant
  | .merchantType => t.merchantType
  | .amount => t.amount
  | .location => t.location
  | .category => t.category
  | .id => t.id

def set (t : Transaction) (f : Field) (v : Value) : Transaction :=
  match f with
  | .merchant => { t with merchant := v }
  | .merchantType => { t with merchantType := v }
  | .amount => { t with amount := v }
  | .location => { t with location := v }
  | .category => { t with category := v }
  | .id => { t with id := v }

@[simp] theorem get_set_self (t : Transaction) (f : Field) (v : Value) : (t.set f v).get f = v := by
  cases f <;> rfl

theorem get_set_of_ne (t : Transaction) {f g : Field} (v : Value) (h : g ≠ f) :
    (t.set f v).get g = t.get g := by
  cases f <;> cases g <;> first | rfl | exact absurd rfl h

end Transaction

/-- Transactions by position: an object that several holders share is one position. -/
abbrev Pool := List Transaction

namespace Pool

def get (pool : Pool) (i : Nat) : Transaction := pool.getD i {}

def setCategory (pool : Pool) (i : Nat) (category : Value) : Pool :=
  List.modify pool i fun t => { t with category := category }

def setId (pool : Pool) (i : Nat) (id : Value) : Pool :=
  List.modify pool i fun t => { t with id := id }

@[simp] theorem length_setCategory (pool : Pool) (i : Nat) (c : Value) :
    (pool.setCategory i c).length = pool.length := by
  simp [setCategory]

theorem get_setCategory_of_ne (pool : Pool) {i j : Nat} (c : Value) (h : i ≠ j) :
    (pool.setCategory i c).get j = pool.get j := by
  simp [setCategory, get, List.getD_eq_getElem?_getD, h]

theorem get_setCategory_self {pool : Pool} {i : Nat} (c : Value) (h : i < pool.length) :
    (pool.setCategory i c).get i = { pool.get i with category := c } := by
  simp [setCategory, get, List.getD_eq_getElem?_getD, h]

end Pool

end TransactionRules
